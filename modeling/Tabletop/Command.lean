import Tabletop.Check.Difficulty
import Tabletop.Command.Words
import Tabletop.Manifest

/-!
# Commands

A command looks at a formula, or works on the characters of a project. Every command is read from
the words of a command line; a line that cannot be read is misuse.
-/
namespace Tabletop

/-- Which way points go. -/
inductive Direction where
  | up
  | down
  deriving DecidableEq, Repr

/-- What somebody asks for. -/
inductive Command where
  /-- The tokens of a formula. -/
  | scan (source : String)
  /-- The term of a formula. -/
  | parse (source : String)
  /-- The value of a formula, perhaps for a character. -/
  | evaluate (source : String) (character : Option String) (seed : Option Int) (tree : Bool)
      (manifest : String)
  /-- A new character. -/
  | create (name pronouns power : String) (age : Int) (force : Bool) (manifest : String)
  /-- All characters. -/
  | list (manifest : String)
  /-- One character. -/
  | «show» (name manifest : String)
  /-- Points for a statistic of a character, or points taken back. -/
  | change (direction : Direction) (name stat : String) (points : Nat) (manifest : String)
  /-- A check on a statistic of a character. -/
  | check (name stat difficulty : String) (advantage bonus : Int) (seed : Option Int)
      (manifest : String)
  deriving DecidableEq, Repr

namespace Command

/-- The manifest of the project that a command works on. -/
def manifest? : Command → Option String
  | scan _ | parse _ => none
  | evaluate _ _ _ _ manifest => some manifest
  | create _ _ _ _ _ manifest => some manifest
  | list manifest => some manifest
  | «show» _ manifest => some manifest
  | change _ _ _ _ manifest => some manifest
  | check _ _ _ _ _ _ manifest => some manifest

/-- A command line that was understood. -/
inductive Request where
  | version
  /-- A command, with everything logged or not. -/
  | run (verbose : Bool) (command : Command)
  deriving DecidableEq, Repr

/-! ### The options -/

def manifestForm : Form := ⟨"manifest", ["--manifest", "-m"], .value⟩

def seedForm : Form := ⟨"seed", ["--seed"], .value⟩

def pointsForm : Form := ⟨"points", ["--points", "-p"], .value⟩

def generalForms : List Form :=
  [⟨"version", ["--version"], .switch true⟩, ⟨"verbose", ["--verbose", "-v"], .switch true⟩]

def evaluateForms : List Form :=
  [⟨"character", ["--character", "-c"], .value⟩, seedForm, ⟨"tree", ["--tree"], .switch true⟩,
    ⟨"tree", ["--no-tree"], .switch false⟩, manifestForm]

def createForms : List Form :=
  [⟨"pronouns", ["--pronouns"], .value⟩, ⟨"power", ["--power"], .value⟩, ⟨"age", ["--age"], .value⟩,
    ⟨"force", ["--force", "-f"], .switch true⟩, manifestForm]

def checkForms : List Form :=
  [⟨"difficulty", ["--difficulty", "-d"], .value⟩, ⟨"advantage", ["--advantage", "-a"], .value⟩,
    ⟨"bonus", ["--bonus", "-b"], .value⟩, seedForm, manifestForm]

/-- The manifest that is set. -/
def manifestOf (g : Given) : String := g.text "manifest" Manifest.fileName

/-! ### From words to commands -/

/-- A command with options and operands in any order. -/
def readMixed (forms : List Form) (words : List String) : Option Given :=
  readWords forms true words .empty

def readFormula (command : String → Command) (words : List String) : Option Command := do
  let g ← readMixed [] words
  match g.words with
  | [source] => some (command source)
  | _ => none

def readEvaluate (words : List String) : Option Command := do
  let g ← readMixed evaluateForms words
  let seed ← g.integer? "seed"
  match g.words with
  | [source] =>
      some (.evaluate source (g.text? "character") seed (g.isOn "tree" true) (manifestOf g))
  | _ => none

def readCreate (words : List String) : Option Command := do
  let g ← readMixed createForms words
  let age ← g.integer "age" 18
  match g.words with
  | [name] =>
      some (.create name (g.text "pronouns" "") (g.text "power" "") age (g.isOn "force" false)
        (manifestOf g))
  | _ => none

def readList (words : List String) : Option Command := do
  let g ← readMixed [manifestForm] words
  match g.words with
  | [] => some (.list (manifestOf g))
  | _ => none

def readShow (words : List String) : Option Command := do
  let g ← readMixed [manifestForm] words
  match g.words with
  | [name] => some (.show name (manifestOf g))
  | _ => none

/-- At least one point goes up or down. -/
def readChange (direction : Direction) (words : List String) : Option Command := do
  let g ← readMixed [pointsForm, manifestForm] words
  let points ← g.integer "points" 1
  match g.words with
  | [name, stat] =>
      if 1 ≤ points then some (.change direction name stat points.toNat (manifestOf g)) else none
  | _ => none

def readCheck (words : List String) : Option Command := do
  let g ← readMixed checkForms words
  let advantage ← g.integer "advantage" 0
  let bonus ← g.integer "bonus" 0
  let seed ← g.integer? "seed"
  match g.words with
  | [name, stat] =>
      some (.check name stat (g.text "difficulty" Difficulty.moderate.label) advantage bonus seed
        (manifestOf g))
  | _ => none

/-- A command of the group on formulas. -/
def readFormulaGroup : List String → Option Command
  | "scan" :: words => readFormula .scan words
  | "parse" :: words => readFormula .parse words
  | "eval" :: words => readEvaluate words
  | _ => none

/-- A command of the group on sheets. -/
def readSheetGroup : List String → Option Command
  | "new" :: words => readCreate words
  | "list" :: words => readList words
  | "show" :: words => readShow words
  | "upgrade" :: words => readChange .up words
  | "downgrade" :: words => readChange .down words
  | _ => none

/-- The words behind the options that stand in front of the first operand. -/
def readLeading (forms : List Form) (words : List String) : Option Given :=
  readWords forms false words .empty

def readCommand : List String → Option Command
  | "formula" :: words => (readLeading [] words).bind fun g => readFormulaGroup g.words
  | "sheet" :: words => (readLeading [] words).bind fun g => readSheetGroup g.words
  | "check" :: words => readCheck words
  | _ => none

/-- Read a command line. Whoever asks for the version gets it, whatever else is there. Options that
stand behind two dashes where a command should be are looked at once more, for the version alone. -/
def read (words : List String) : Option Request := do
  let g ← readLeading generalForms words
  if g.isOn "version" false then some .version
  else
    match readCommand g.words with
    | some command => some (.run (g.isOn "verbose" false) command)
    | none => do
        let again ← readLeading generalForms g.words
        if again.isOn "version" false then some .version else none

end Command

end Tabletop
