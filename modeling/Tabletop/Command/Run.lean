import Tabletop.Command
import Tabletop.Command.Outcome
import Tabletop.Screen.Sheets

/-!
# Running commands

A command runs on a tree of files. Files are changed in one place only, where a character is saved,
and what a command has saved stays saved even if it breaks off after that.
-/
namespace Tabletop.Command

/-- What a command depends on besides its words and the files. -/
structure Surroundings where
  /-- Where relative paths start. -/
  directory : Path
  /-- The seed of dice that nobody has seeded. -/
  seed : Int

/-! ### Projects -/

/-- The path of a manifest. -/
def manifestPath (here : Surroundings) (manifest : String) : Path :=
  Path.resolve here.directory (Path.ofText manifest)

/-- The manifest that a command line names. A path with NUL cannot even be resolved. -/
def findManifest (here : Surroundings) (files : FileTree) (manifest : String) :
    Except Manifest.Fault Manifest :=
  let path := manifestPath here manifest
  match FileTree.refusal? (Path.ofText manifest) with
  | some .nul => .error (.unreachable path .nul)
  | _ => Manifest.find files path

/-- Load the project of a manifest. The log follows its level unless everything is asked for. -/
def project (here : Surroundings) (verbose : Bool) (manifest : String) : Work Manifest := do
  match findManifest here (← Work.files) manifest with
  | .ok m =>
      Work.logFrom (if verbose then .debug else m.logLevel)
      pure m
  | .error fault =>
      if fault.isOwn then Work.refuse ("[red]Error loading manifest:[/red] " ++ fault.message)
      else Work.breakOff (.manifest fault)

/-- A path that the manifest gives. -/
def givenPath (path : Option Path) : Work Path :=
  match path with
  | some path => pure path
  | none => Work.breakOff .pathNotText

/-- Load the content of a project. -/
def loadContent (m : Manifest) : Work Content := do
  let path ← givenPath m.content?
  match ContentFile.load (← Work.files) path with
  | .ok (content, remarks) =>
      Work.recordAll remarks
      pure content
  | .error fault =>
      if fault.isOwn then Work.refuse ("[red]Error loading game data:[/red] " ++ fault.headline)
      else Work.breakOff (.content fault)

/-- The dice of a run: seeded by a word, else by the manifest. -/
def diceOf (here : Surroundings) (m : Manifest) (seed : Option Int) : DiceSource :=
  .ofSeed ((seed.or m.seed).getD here.seed)

/-- The path of the file of a character. -/
def characterPath (m : Manifest) (name : String) : Work Path := do
  let directory ← givenPath m.characters?
  pure (CharacterFile.pathOf directory name)

/-- Load a character of a project. -/
def loadCharacter (m : Manifest) (name : String) (dice : DiceSource) :
    Work (Session DiceSource) := do
  let content ← loadContent m
  let path ← characterPath m name
  let files ← Work.files
  match CharacterFile.load DiceSource.roll files path content dice (← Work.journal) with
  | .ok s =>
      Work.follow s
      pure s
  | .error fault =>
      if fault.isOwn then Work.refuse ("[red]Error loading character:[/red] " ++ fault.message)
      else Work.breakOff (.character fault)

/-- Save a character under its own name, and answer where. -/
def saveCharacter (m : Manifest) (sheet : Sheet) : Work Path := do
  let path ← characterPath m sheet.identity.name
  let (result, files) := CharacterFile.save (← Work.files) path sheet
  Work.keep files
  match result with
  | .ok _ =>
      Work.record (.characterSaved sheet.identity.name path.text)
      pure path
  | .error fault =>
      if fault.isOwn then Work.refuse ("[red]Error saving character:[/red] " ++ fault.message)
      else Work.breakOff (.character fault)

/-! ### Formulas -/

/-- Print what there is to say about a formula, and fail if it has no term. -/
def finishFormula (source : String) (messages : List Diagnostic) (hasTerm : Bool) : Work Unit := do
  (messages.flatMap (Screen.diagnosticPrints source)).forM Work.print
  if hasTerm then pure () else throw .failure

def scanFormula (source : String) : Work Unit := do
  let scanned := Tabletop.scan source
  Work.table (Screen.tokenTable source scanned.tokens)
  finishFormula source scanned.remarks true

def parseFormula (source : String) : Work Unit := do
  let parsed := Tabletop.parse source
  Work.record (.parsing source)
  match parsed.term with
  | none => pure ()
  | some t => Work.tree (Screen.formulaTree source t)
  finishFormula source parsed.messages parsed.term.isSome

/-- The session in which a formula is evaluated: that of a character, or one on an empty sheet. -/
def formulaSession (m : Manifest) (character : Option String) (dice : DiceSource) :
    Work (Session DiceSource) :=
  match character.filter fun name => !name.isEmpty with
  | some name => loadCharacter m name dice
  | none => do
      let s := Session.start (Sheet.ofContent .empty) dice (← Work.journal)
      Work.follow s
      pure s

/-- Print an evaluated term, under its tree if that is asked for. -/
def showValue (source : String) (tree : Bool) (root : Evaluated) : Work Unit := do
  if tree then Work.tree (Screen.evaluatedFormulaTree source root) else pure ()
  Work.say (Screen.styled "bold green" root.value.display)

def evaluateFormula (source : String) (tree : Bool) (s : Session DiceSource) : Work Unit := do
  let (result, s) := s.evaluateFormula DiceSource.roll source
  Work.follow s
  match result.root with
  | none => pure ()
  | some root => showValue source tree root
  finishFormula source result.messages result.root.isSome

/-! ### Characters -/

/-- There is a file at a path. -/
def isTaken (path : Path) : Work Bool := do
  match (← Work.files).exists? path with
  | .ok taken => pure taken
  | .error fault => Work.breakOff (.character (.unreachable path fault))

/-- Create a character at level zero and save it. -/
def createCharacter (here : Surroundings) (m : Manifest) (name pronouns power : String) (age : Int)
    (force : Bool) : Work Unit := do
  let path ← characterPath m name
  let taken ← isTaken path
  if taken && !force then
    Work.refuse ("[red]Character '" ++ Markup.escape name ++ "' already exists[/red] (" ++
      path.text ++ "); use --force")
  else
    let content ← loadContent m
    let s := Session.start (Sheet.ofContent content) (diceOf here m none) (← Work.journal)
    Work.follow s
    let identity :=
      { Identity.blank with name := name, pronouns := pronouns, power := power, age := age }
    let saved ← saveCharacter m { s.sheet with identity := identity }
    Work.say ("[green]Created[/green] " ++ Markup.escape name ++ " -> " ++ saved.text)

/-- The rows of the characters in files. A file that cannot be loaded is skipped and said so. -/
def characterRows (files : FileTree) : List Path → Work (List (List String))
  | [] => pure []
  | path :: rest =>
      match CharacterFile.loadSnapshot files path with
      | .ok snapshot => do
          let rows ← characterRows files rest
          let identity := snapshot.identity
          pure ([Markup.escape identity.name, Decimal.text identity.level, path.name] :: rows)
      | .error fault =>
          if fault.isOwn then do
            Work.warn ("[yellow]Skipping " ++ path.name ++ ":[/yellow] " ++
              Markup.escape fault.message)
            characterRows files rest
          else Work.breakOff (.character fault)

/-- List all characters. -/
def listCharacters (m : Manifest) : Work Unit := do
  let directory ← givenPath m.characters?
  let files ← Work.files
  match CharacterFile.all files directory with
  | .error fault => Work.breakOff (.directory directory fault)
  | .ok [] => Work.say "No saved characters."
  | .ok paths =>
      let rows ← characterRows files paths
      Work.table ⟨"Characters", ["Name", "Level", "File"], rows⟩

/-- A number of a character has too many digits to be written. -/
def numberTooLong : Cause := .character (.tooManyDigits Decimal.limitMessage)

/-- Show the derived statistics of a character. -/
def showDerived (s : Session DiceSource) : Work Unit := do
  let (tables, s) := Screen.derivedTables DiceSource.roll s
  Work.follow s
  tables.forM Work.table

/-- Show a character. -/
def showCharacter (s : Session DiceSource) : Work Unit := do
  (Screen.identityLines s.sheet.identity).forM Work.say
  let (table, s) := Screen.attributeTable DiceSource.roll s
  Work.follow s
  match table with
  | none => Work.breakOff numberTooLong
  | some table => do
      Work.table table
      showDerived s

/-- One point in a direction. -/
def step (direction : Direction) (stat : String) (s : Session DiceSource) :
    Bool × Session DiceSource :=
  match direction with
  | .up => s.add DiceSource.roll stat
  | .down => s.remove DiceSource.roll stat

/-- Where points in a direction come to an end. -/
def limit : Direction → String
  | .up => "maximum level"
  | .down => "level 0"

/-- Listens to all changes. -/
def observer : Listener := ⟨"", none⟩

/-- Print what points have done: new levels, and whether the end was reached. -/
def reportChange (direction : Direction) (stat : String) (points applied : Nat)
    (s : Session DiceSource) : Work Unit := do
  (s.notices.filterMap fun n => Screen.changeLine? n.change).forM Work.say
  if applied < points then
    Work.say (Screen.styled "yellow"
      (stat ++ " reached " ++ limit direction ++ "; applied " ++ Decimal.text applied ++ " of " ++
        Decimal.text points ++ " points"))
  else pure ()

/-- Say how far a statistic has come. -/
def sayProgress (id : String) (sheet : Sheet) : Work Unit :=
  match sheet.track? id with
  | none => pure ()
  | some track =>
      if Screen.hasProgressLine track then Work.say (Screen.progressLine id track)
      else Work.breakOff numberTooLong

/-- Give points to a statistic or take them back, and save the character. -/
def changeCharacter (m : Manifest) (direction : Direction) (name : String) (points : Nat)
    (s : Session DiceSource) : Work Unit :=
  match s.sheet.find? name with
  | none => refuseStat
  | some stat =>
      if stat.track?.isNone then refuseStat
      else do
        let (applied, s) := Session.repeatStep (step direction stat.id) points (s.listen observer)
        Work.follow s
        reportChange direction stat.id points applied s
        let _ ← saveCharacter m s.sheet
        sayProgress stat.id s.sheet
where
  /-- Only attributes and skills have points. -/
  refuseStat : Work Unit :=
    Work.refuse ("[red]'" ++ Markup.escape name ++ "' is not an attribute or skill[/red]")

/-- Print a check. -/
def showCheck (sheet : Sheet) (c : Check) : Work Unit := do
  Work.table (Screen.checkTable sheet c)
  Work.say (Screen.difficultyLine c)
  Work.say (Screen.dieLine c)
  match c.outcome with
  | .ok text => Work.say text
  | .error fault => Work.breakOff (.outcome fault)

/-- Make a check. -/
def checkCharacter (stat : String) (base : Difficulty) (advantage bonus : Int)
    (s : Session DiceSource) : Work Unit := do
  let (result, s) := s.check DiceSource.roll stat base advantage bonus
  Work.follow s
  match result with
  | .error fault => Work.breakOff (.check fault)
  | .ok none => Work.refuse ("[red]Unknown statistic '" ++ Markup.escape stat ++ "'[/red]")
  | .ok (some c) => showCheck s.sheet c

/-- The tier of a name. -/
def difficultyOf (name : String) : Work Difficulty :=
  match Difficulty.ofName? name with
  | some d => pure d
  | none => Work.refuse (Screen.styled "red" (Markup.escape (Difficulty.unknownMessage name)))

/-! ### Commands -/

/-- The work of a command. -/
def work (here : Surroundings) (verbose : Bool) : Command → Work Unit
  | .scan source => scanFormula source
  | .parse source => parseFormula source
  | .evaluate source character seed tree manifest => do
      let m ← project here verbose manifest
      let s ← formulaSession m character (diceOf here m seed)
      evaluateFormula source tree s
  | .create name pronouns power age force manifest => do
      let m ← project here verbose manifest
      createCharacter here m name pronouns power age force
  | .list manifest => do
      let m ← project here verbose manifest
      listCharacters m
  | .show name manifest => do
      let m ← project here verbose manifest
      let s ← loadCharacter m name (diceOf here m none)
      showCharacter s
  | .change direction name stat points manifest => do
      let m ← project here verbose manifest
      let s ← loadCharacter m name (diceOf here m none)
      changeCharacter m direction stat points s
  | .check name stat difficulty advantage bonus seed manifest => do
      let base ← difficultyOf difficulty
      let m ← project here verbose manifest
      let s ← loadCharacter m name (diceOf here m seed)
      checkCharacter stat base advantage bonus s

/-- The version that is answered. -/
def versionText : String := "charsheet version 0.3.0"

/-- A command after it has ended: how, and how things stand then. -/
structure Run where
  ending : Ending
  state : State

/-- Do work on files. -/
def Work.run (w : Work Unit) (files : FileTree) : Run :=
  match ExceptT.run w (State.start files) with
  | (.ok _, state) => ⟨.success, state⟩
  | (.error ending, state) => ⟨ending, state⟩

/-- Run a command. -/
def run (here : Surroundings) (files : FileTree) (verbose : Bool) (command : Command) : Run :=
  (work here verbose command).run files

/-- Run a command line. -/
def runWords (here : Surroundings) (files : FileTree) (words : List String) : Run :=
  match read words with
  | none => ⟨.misuse, .start files⟩
  | some .version => (Work.print (.verbatim versionText)).run files
  | some (.run verbose command) => run here files verbose command

end Tabletop.Command
