import Tabletop.Proofs.Command.Reading
import Tabletop.Proofs.Command.Saving

/-!
# Commands that fail

A command writes to one file at most, and what comes before that leaves the files alone. If it fails
the files are therefore as they were, unless something goes wrong when the file has been opened
already: half of a character cannot be written, and afterwards a number may be too long to be said
or a text no markup. Whether a new character takes the place of another is asked before directories
are made, which counts where double dots lead back out of one of these.
-/
namespace Tabletop.Command

open Work

variable {here : Surroundings} {verbose : Bool} {manifest name stat : String} {m : Manifest}
  {path : Path} {s s' : State} {sheet : Sheet}

/-! ### What results say about the files -/

theorem findManifest_of_project (h : ExceptT.run (project here verbose manifest) s = (.ok m, s')) :
    findManifest here s.files manifest = .ok m := by
  rw [project, run_files_bind] at h
  split at h
  · rename_i found hfound
    cases h
    exact hfound
  · split at h
    · exact absurd h ((fails_refuse _ s).run_ne_ok m s')
    · cases h

theorem exists_of_characterPath (h : ExceptT.run (characterPath m name) s = (.ok path, s')) :
    ∃ directory, m.characters? = some directory ∧ path = CharacterFile.pathOf directory name := by
  unfold characterPath at h
  cases hgiven : m.characters? with
  | none =>
    rw [hgiven] at h
    cases h
  | some directory =>
    rw [hgiven] at h
    cases h
    exact ⟨directory, rfl, rfl⟩

theorem exists?_of_isTaken {taken : Bool} (h : ExceptT.run (isTaken path) s = (.ok taken, s')) :
    s.files.exists? path = .ok taken := by
  rw [isTaken, run_files_bind] at h
  split at h
  · rename_i found hfound
    cases h
    exact hfound
  · cases h

/-! ### Saving -/

/-- The ending that a result stands for. -/
def endingOf : Except Ending Unit → Ending
  | .ok _ => .success
  | .error ending => ending

/-- How a command ends that has opened the file of a character, and what the file holds then. -/
inductive AfterSaving (sheet : Sheet) : String → Ending → Prop where
  | saved : AfterSaving sheet (Snapshot.ofSheet sheet).fileText .success
  /-- Half of a character cannot be written. -/
  | emptied : (Snapshot.ofSheet sheet).hasHalf = true →
      AfterSaving sheet "" (.broken (.character .brokenText))
  /-- The points to the next level have too many digits. -/
  | unsaid {id : String} {t : Track} : sheet.track? id = some t →
      Screen.hasProgressLine t = false →
      AfterSaving sheet (Snapshot.ofSheet sheet).fileText (.broken numberTooLong)
  /-- A text about what was saved is no markup. -/
  | unshown {markup : String} {fault : Markup.Fault} : Markup.plain markup = .error fault →
      AfterSaving sheet (Snapshot.ofSheet sheet).fileText (.broken (.markup fault))

theorem afterSaving_say (sheet : Sheet) (markup : String) (s : State) :
    AfterSaving sheet (Snapshot.ofSheet sheet).fileText
      (endingOf (ExceptT.run (say markup) s).1) := by
  cases hplain : Markup.plain markup with
  | ok shown =>
    obtain ⟨_, s', hrun, -⟩ := gives_say hplain s
    rw [hrun]
    exact .saved
  | error fault =>
    have hshown : (Print.figure .out (.text markup)).shown = .error fault := by
      rw [Print.shown, Figure.plain, hplain]
      rfl
    rw [say, print, hshown]
    exact .unshown hplain

theorem afterSaving_sayProgress (sheet : Sheet) (id : String) (s : State) :
    AfterSaving sheet (Snapshot.ofSheet sheet).fileText
      (endingOf (ExceptT.run (sayProgress id sheet) s).1) := by
  unfold sayProgress
  split
  · exact .saved
  · rename_i t ht
    split
    · exact afterSaving_say sheet _ s
    · rename_i hlong
      exact .unsaid ht (Bool.eq_false_iff.mpr hlong)

/-- Saving a character gives a path and leaves the snapshot in its file, or breaks off and leaves an
empty file, or fails and leaves the files as they were. -/
theorem ends_saveCharacter (m : Manifest) (sheet : Sheet) (s : State) :
    Ends (saveCharacter m sheet) s fun result after =>
      (∃ ending, result = .error ending ∧ s.files.Extends after) ∨
      ∃ directory, m.characters? = some directory ∧
        let path := CharacterFile.pathOf directory sheet.identity.name
        (result = .ok path ∧ s.files.Wrote path (Snapshot.ofSheet sheet).fileText after ∨
          result = .error (.broken (.character .brokenText)) ∧
            (Snapshot.ofSheet sheet).hasHalf = true ∧ s.files.Wrote path "" after) := by
  refine (keepsFiles_characterPath m _).ends_bind (fun ending => .inl ⟨ending, rfl, .refl _⟩)
    fun path s₁ hpath hfiles => ?_
  obtain ⟨directory, hdirectory, rfl⟩ := exists_of_characterPath hpath
  rw [Ends, run_files_bind, ← hfiles]
  cases hsave : CharacterFile.save s₁.files
      (CharacterFile.pathOf directory sheet.identity.name) sheet with
  | mk result after =>
    dsimp only
    rw [run_keep_bind]
    rcases CharacterFile.save_cases hsave with
      ⟨rfl, hwrote⟩ | ⟨rfl, hhalf, hwrote⟩ | ⟨fault, rfl, hextends⟩
    · exact .inr ⟨directory, hdirectory, .inl ⟨rfl, hwrote⟩⟩
    · exact .inr ⟨directory, hdirectory, .inr ⟨rfl, hhalf, hwrote⟩⟩
    · refine .inl ?_
      dsimp only
      split
      · change Ends (refuse _) _ fun result after =>
          ∃ ending, result = .error ending ∧ s₁.files.Extends after
        exact (fails_refuse _ _).ends (keepsFiles_refuse _) fun ending => ⟨ending, rfl, hextends⟩
      · exact ⟨_, rfl, hextends⟩

/-- The same with something said after it. -/
theorem ends_saveCharacter_bind {rest : Path → Work Unit} (m : Manifest) (sheet : Sheet) (s : State)
    (hkeeps : ∀ path, KeepsFiles (rest path))
    (hrest : ∀ path s', AfterSaving sheet (Snapshot.ofSheet sheet).fileText
      (endingOf (ExceptT.run (rest path) s').1)) :
    Ends (saveCharacter m sheet >>= rest) s fun result after => s.files.Extends after ∨
      ∃ directory text, m.characters? = some directory ∧
        s.files.Wrote (CharacterFile.pathOf directory sheet.identity.name) text after ∧
        AfterSaving sheet text (endingOf result) := by
  have hsave := ends_saveCharacter m sheet s
  rw [Ends] at hsave ⊢
  rw [files_run_bind hkeeps, Work.run_bind]
  cases hrun : ExceptT.run (saveCharacter m sheet) s with
  | mk result s₁ =>
    rw [hrun] at hsave
    rcases hsave with ⟨ending, -, hextends⟩ |
      ⟨directory, hdirectory, ⟨rfl, hwrote⟩ | ⟨rfl, hhalf, hwrote⟩⟩
    · exact .inl hextends
    · exact .inr ⟨directory, _, hdirectory, hwrote, hrest _ s₁⟩
    · exact .inr ⟨directory, _, hdirectory, hwrote, .emptied hhalf⟩

/-! ### New characters and points -/

/-- A new character is saved under its own name, and where there is something already only by force.
-/
theorem ends_createCharacter (here : Surroundings) (m : Manifest)
    (name pronouns power : String) (age : Int) (force : Bool) (s : State) :
    Ends (createCharacter here m name pronouns power age force) s fun result after =>
      s.files.Extends after ∨ ∃ directory sheet text, m.characters? = some directory ∧
        (s.files.exists? (CharacterFile.pathOf directory name) = .ok true → force = true) ∧
        s.files.Wrote (CharacterFile.pathOf directory name) text after ∧
        AfterSaving sheet text (endingOf result) := by
  refine (keepsFiles_characterPath m name).ends_bind (fun _ => .inl (.refl _))
    fun path s₁ hpath hfiles₁ => ?_
  obtain ⟨directory, hdirectory, rfl⟩ := exists_of_characterPath hpath
  refine (keepsFiles_isTaken _).ends_bind (fun _ => .inl (hfiles₁ ▸ .refl _))
    fun taken s₂ htaken hfiles₂ => ?_
  replace htaken := exists?_of_isTaken htaken
  rw [hfiles₁] at htaken hfiles₂
  split
  · exact (fails_refuse _ _).ends (keepsFiles_refuse _) fun _ => .inl (hfiles₂ ▸ .refl _)
  · rename_i hfree
    refine (keepsFiles_loadContent m).ends_bind (fun _ => .inl (hfiles₂ ▸ .refl _))
      fun content s₃ _ hfiles₃ => ?_
    refine keepsFiles_journal.ends_bind (fun _ => .inl (hfiles₃ ▸ hfiles₂ ▸ .refl _))
      fun journal s₄ _ hfiles₄ => ?_
    refine (keepsFiles_follow _).ends_bind
      (fun _ => .inl (hfiles₄ ▸ hfiles₃ ▸ hfiles₂ ▸ .refl _)) fun _ s₅ _ hfiles₅ => ?_
    have hfiles : s₅.files = s.files := hfiles₅.trans (hfiles₄.trans (hfiles₃.trans hfiles₂))
    have hends := ends_saveCharacter_bind m (newSheet content name pronouns power age) s₅
      (fun _ => keepsFiles_say _) (fun saved s' => afterSaving_say _ ("[green]Created[/green] " ++
        Markup.escape name ++ " -> " ++ saved.text) s')
    rw [hfiles] at hends
    rcases hends with hextends | ⟨directory', text, hdirectory', hwrote, hafter⟩
    · exact .inl hextends
    · rw [hdirectory] at hdirectory'
      cases hdirectory'
      refine .inr ⟨directory, _, text, hdirectory, fun hexists => ?_, hwrote, hafter⟩
      rw [hexists] at htaken
      cases htaken
      simpa using hfree

theorem ends_finishChange (m : Manifest) (d : Direction) (id : String) (points applied : Nat)
    (session : Session DiceSource) (s : State) :
    Ends (finishChange m d id points applied session) s fun result after =>
      s.files.Extends after ∨ ∃ path sheet text, s.files.Wrote path text after ∧
        AfterSaving sheet text (endingOf result) := by
  refine (keepsFiles_follow _).ends_bind (fun _ => .inl (.refl _)) fun _ s₁ _ hfiles₁ => ?_
  refine (keepsFiles_reportChange _ _ _ _ _).ends_bind (fun _ => .inl (hfiles₁ ▸ .refl _))
    fun _ s₂ _ hfiles₂ => ?_
  have hends := ends_saveCharacter_bind m session.sheet s₂
    (fun _ => keepsFiles_sayProgress id session.sheet)
    fun _ s' => afterSaving_sayProgress session.sheet id s'
  rw [hfiles₂, hfiles₁] at hends
  rcases hends with hextends | ⟨directory, text, -, hwrote, hafter⟩
  · exact .inl hextends
  · exact .inr ⟨_, _, text, hwrote, hafter⟩

/-- Points are given to a character, which is then saved under its own name. -/
theorem ends_changeCharacter (m : Manifest) (d : Direction) (stat : String) (points : Nat)
    (session : Session DiceSource) (s : State) :
    Ends (changeCharacter m d stat points session) s fun result after => s.files.Extends after ∨
      ∃ path sheet text, s.files.Wrote path text after ∧
        AfterSaving sheet text (endingOf result) := by
  cases htrack : session.sheet.track? (Text.upper stat) with
  | none =>
    rw [changeCharacter_of_track?_eq_none m d points htrack]
    exact (fails_refuse _ s).ends (keepsFiles_refuse _) fun _ => .inl (.refl _)
  | some t =>
    rw [changeCharacter_of_track? m d points htrack]
    exact ends_finishChange m d _ points _ _ s

/-! ### Whole commands -/

theorem ends_create (here : Surroundings) (verbose : Bool) (name pronouns power : String)
    (age : Int) (force : Bool) (manifest : String) (s : State) :
    Ends (work here verbose (.create name pronouns power age force manifest)) s
      fun result after => s.files.Extends after ∨ ∃ m directory sheet text,
        findManifest here s.files manifest = .ok m ∧ m.characters? = some directory ∧
        (s.files.exists? (CharacterFile.pathOf directory name) = .ok true → force = true) ∧
        s.files.Wrote (CharacterFile.pathOf directory name) text after ∧
        AfterSaving sheet text (endingOf result) := by
  refine (keepsFiles_project here verbose manifest).ends_bind (fun _ => .inl (.refl _))
    fun m s₁ hm hfiles => ?_
  have hends := ends_createCharacter here m name pronouns power age force s₁
  rw [hfiles] at hends
  rcases hends with hextends | ⟨directory, sheet, text, hrest⟩
  · exact .inl hextends
  · exact .inr ⟨m, directory, sheet, text, findManifest_of_project hm, hrest⟩

/-- A command writes to one file at most. -/
theorem ends_work (here : Surroundings) (verbose : Bool) (command : Command) (s : State) :
    Ends (work here verbose command) s fun result after => s.files.Extends after ∨
      ∃ path sheet text, s.files.Wrote path text after ∧
        AfterSaving sheet text (endingOf result) := by
  cases hsaves : command.saves with
  | false =>
    rw [Ends, keepsFiles_work here verbose hsaves s]
    exact .inl (.refl _)
  | true =>
    cases command with
    | create name pronouns power age force manifest =>
      rcases ends_create here verbose name pronouns power age force manifest s with
        hextends | ⟨_, directory, sheet, text, -, -, -, hwrote, hafter⟩
      · exact .inl hextends
      · exact .inr ⟨_, sheet, text, hwrote, hafter⟩
    | change d name stat points manifest =>
      refine (keepsFiles_project here verbose manifest).ends_bind (fun _ => .inl (.refl _))
        fun m s₁ _ hfiles₁ => ?_
      refine (keepsFiles_loadCharacter m name _).ends_bind (fun _ => .inl (hfiles₁ ▸ .refl _))
        fun session s₂ _ hfiles₂ => ?_
      have hends := ends_changeCharacter m d stat points session s₂
      rwa [hfiles₂, hfiles₁] at hends
    | _ => cases hsaves

theorem run_eq (w : Work Unit) (files : FileTree) :
    w.run files =
      ⟨endingOf (ExceptT.run w (.start files)).1, (ExceptT.run w (.start files)).2⟩ := by
  unfold Work.run
  cases ExceptT.run w (.start files) with
  | mk result s => cases result <;> rfl

/-- How a failing command leaves the file that it has written. -/
inductive Breach (files : FileTree) (r : Run) : Prop where
  /-- Half of a character cannot be written, and the file is empty. -/
  | emptied {path : Path} {sheet : Sheet} : r.ending = .broken (.character .brokenText) →
      (Snapshot.ofSheet sheet).hasHalf = true → files.Wrote path "" r.state.files → Breach files r
  /-- The character is saved, and the points to the next level have too many digits to be said. -/
  | unsaid {path : Path} {sheet : Sheet} {id : String} {t : Track} :
      r.ending = .broken numberTooLong → sheet.track? id = some t →
      Screen.hasProgressLine t = false →
      files.Wrote path (Snapshot.ofSheet sheet).fileText r.state.files → Breach files r
  /-- The character is saved, and a text about it is no markup. -/
  | unshown {path : Path} {sheet : Sheet} {markup : String} {fault : Markup.Fault} :
      r.ending = .broken (.markup fault) → Markup.plain markup = .error fault →
      files.Wrote path (Snapshot.ofSheet sheet).fileText r.state.files → Breach files r

theorem Breach.of_afterSaving {files : FileTree} {r : Run} {text : String}
    (h : r.ending ≠ .success) (hwrote : files.Wrote path text r.state.files)
    (hafter : AfterSaving sheet text r.ending) : Breach files r := by
  obtain ⟨ending, state⟩ := r
  dsimp only at h hwrote hafter
  cases hafter with
  | saved => exact absurd rfl h
  | emptied hhalf => exact .emptied rfl hhalf hwrote
  | unsaid ht hlong => exact .unsaid rfl ht hlong hwrote
  | unshown hplain => exact .unshown rfl hplain hwrote

theorem extends_or_breach {files : FileTree} {command : Command}
    (h : (run here files verbose command).ending ≠ .success) :
    files.Extends (run here files verbose command).state.files ∨
      Breach files (run here files verbose command) := by
  rw [run, run_eq] at h ⊢
  rcases ends_work here verbose command (.start files) with
    hextends | ⟨path, sheet, text, hwrote, hafter⟩
  · exact .inl hextends
  · exact .inr (.of_afterSaving h hwrote hafter)

/-- A new character takes the place of no file without force, if the double dots in its directory
lead to something that is there. -/
theorem open?_run_create {files : FileTree} {pronouns power : String} {age : Int}
    {content : FileContent}
    (hplace : ∀ m directory, findManifest here files manifest = .ok m →
      m.characters? = some directory → ".." ∉ directory.parts ∨
        ∃ loc, files.locate (CharacterFile.pathOf directory name) = .ok loc)
    (hopen : files.open? path = .ok (.file content)) :
    (run here files verbose (.create name pronouns power age false manifest)).state.files.open?
      path = .ok (.file content) := by
  rw [run, run_eq]
  rcases ends_create here verbose name pronouns power age false manifest (.start files) with
    hextends | ⟨m, directory, sheet, text, hm, hdirectory, hfree, hwrote, -⟩
  · exact hextends.open?_file hopen
  · refine hwrote.open?_file (fun hexists => Bool.false_ne_true (hfree hexists)) ?_ hopen
    refine (hplace m directory hm hdirectory).imp_left fun hup => ?_
    simpa [CharacterFile.pathOf, Path.child, (fileName_ne_up name).symm] using hup

/-- What command lines do to files. A command that neither creates a character nor gives points
leaves them as they are. If a command fails they hold what they held before, up to three ways in
which a file that has been opened is not left so. Creating a character without force changes no file
that is there, if the double dots in the directory of characters lead to something that is there. -/
theorem files_runWords (here : Surroundings) (files : FileTree) (words : List String) :
    ((∀ verbose command, read words = some (.run verbose command) → command.saves = false) →
      (runWords here files words).state.files = files) ∧
    ((runWords here files words).ending ≠ .success →
      files.Extends (runWords here files words).state.files ∨
        Breach files (runWords here files words)) ∧
    (∀ verbose name pronouns power age manifest,
      read words = some (.run verbose (.create name pronouns power age false manifest)) →
      (∀ m directory, findManifest here files manifest = .ok m → m.characters? = some directory →
        ".." ∉ directory.parts ∨
          ∃ loc, files.locate (CharacterFile.pathOf directory name) = .ok loc) →
      ∀ path content, files.open? path = .ok (.file content) →
        (runWords here files words).state.files.open? path = .ok (.file content)) := by
  have hversion : ((print (.verbatim versionText)).run files).state.files = files := by
    rw [run_eq]
    exact keepsFiles_print _ _
  unfold runWords
  cases read words with
  | none => exact ⟨fun _ => rfl, fun _ => .inl (.refl _), nofun⟩
  | some request =>
    cases request with
    | version =>
      refine ⟨fun _ => hversion, fun _ => .inl ?_, nofun⟩
      exact hversion.symm ▸ FileTree.Extends.refl files
    | run verbose command =>
      refine ⟨fun h => ?_, extends_or_breach, ?_⟩
      · dsimp only
        rw [run, run_eq]
        exact keepsFiles_work here verbose (h verbose command rfl) _
      · rintro _ name pronouns power age manifest ⟨⟩ hplace path content hopen
        exact open?_run_create hplace hopen

/-! ### A directory that leads back -/

theorem Serves.files_saveCharacter {directory : Path} {c : Content} {files : FileTree}
    (h : Serves m files directory c) (sheet : Sheet) (s : State) :
    (ExceptT.run (saveCharacter m sheet) s).2.files = (CharacterFile.save s.files
      (CharacterFile.pathOf directory sheet.identity.name) sheet).2 := by
  obtain ⟨path, s₁, rfl, hfiles, hrun⟩ := (h.gives_characterPath sheet.identity.name s).run_bind _
  rw [saveCharacter, hrun, run_files_bind, hfiles]
  cases CharacterFile.save s.files (CharacterFile.pathOf directory sheet.identity.name) sheet with
  | mk result after =>
    cases result with
    | ok done => rfl
    | error fault =>
      dsimp only
      rw [run_keep_bind]
      split
      · rw [keepsFiles_refuse _ _]
      · rfl

/-- The one text in data with nothing else in it, under its section and its key. -/
def onlySetting? : Entries → Option (String × String × String)
  | [(name, .table [(key, .text value)])] => some (name, key, value)
  | _ => none

theorem eq_of_onlySetting? {data : Entries} {name key value : String}
    (h : onlySetting? data = some (name, key, value)) :
    data = [(name, .table [(key, .text value)])] := by
  unfold onlySetting? at h
  split at h <;> cases h
  rfl

/-- A manifest that only says where characters are differs from the default one in that. -/
theorem ofData_directory (path : Path) (value : String) :
    Manifest.ofData path [("characters", .table [("directory", .text value)])] =
      .ok { Manifest.default path.parent with
        characters? := some (path.parent.join (.ofText value)) } := by
  have hdice : Manifest.section? [("characters", .table [("directory", .text value)])] "dice" =
      .ok [] := rfl
  have hlogging : Manifest.section? [("characters", .table [("directory", .text value)])]
      "logging" = .ok [] := rfl
  have hseed : Manifest.seed? path [] = .ok none := rfl
  have hbind {α β : Type} (a : α) (f : α → Except Manifest.Fault β) :
      Except.bind (.ok a) f = f a := rfl
  have hnext {α β : Type} (a : α) (f : α → Except Manifest.Fault β) :
      (Except.ok a >>= f) = f a := rfl
  rw [Manifest.ofData]
  simp only [hdice, hlogging, hbind, hnext, hseed, Manifest.level?_nil]
  rfl

/-- The directory of characters is reached through one that is not there. -/
def backFiles : FileTree :=
  ⟨[(["charsheet.toml"], .file (.text "[characters]\ndirectory = \"new/../old\"")),
    (["gamedata.yaml"], .file (.text
      "attributeLevelUpPoints: [1, 2]\nattributeGroups:\n- attributes:\n    STR: \x7b\x7d")),
    (["old"], .directory), (["old", "ann.json"], .file (.text "\x7b\x7d"))]⟩

def backDirectory : Path := ⟨.root, ["new", "..", "old"]⟩

theorem findManifest_back : findManifest smallHere backFiles "charsheet.toml" =
    .ok { Manifest.default ⟨.root, []⟩ with characters? := some backDirectory } := by
  have hread : ((Toml.read "[characters]\ndirectory = \"new/../old\"").toOption.bind onlySetting?) =
      some ("characters", "directory", "new/../old") := by decide +kernel
  obtain ⟨data, hdata, hsetting⟩ := Option.bind_eq_some_iff.mp hread
  obtain rfl := eq_of_onlySetting? hsetting
  have hopen : backFiles.open? ⟨.root, ["charsheet.toml"]⟩ =
      .ok (.file (.text "[characters]\ndirectory = \"new/../old\"")) := rfl
  have hpath : manifestPath smallHere "charsheet.toml" = ⟨.root, ["charsheet.toml"]⟩ := rfl
  have hrefusal : FileTree.refusal? (Path.ofText "charsheet.toml") = none := rfl
  have htext : backFiles.readText ⟨.root, ["charsheet.toml"]⟩ =
      .ok "[characters]\ndirectory = \"new/../old\"" := by
    rw [FileTree.readText, hopen]
    decide +kernel
  simp only [findManifest, hpath, hrefusal, Manifest.find, FileTree.exists?_of_open? hopen,
    Manifest.load, htext, Manifest.ofText, toOption_eq_some_iff.mp hdata]
  exact ofData_directory _ _

theorem project?_back :
    project? smallHere backFiles "charsheet.toml" = some (backDirectory, smallContent) := by
  have hopen : backFiles.open? ⟨.root, ["gamedata.yaml"]⟩ =
      smallFiles.open? ⟨.root, ["gamedata.yaml"]⟩ := rfl
  have hload := load_small
  rw [← load_congr hopen] at hload
  have hpath : (Manifest.default ⟨.root, []⟩).content? = some ⟨.root, ["gamedata.yaml"]⟩ := rfl
  obtain ⟨⟨content, remarks⟩, hloaded, rfl⟩ := Option.map_eq_some_iff.mp hload
  rw [project?, findManifest_back]
  simp [Except.toOption, hpath, toOption_eq_some_iff.mp hloaded]

theorem pathOf_back : CharacterFile.pathOf backDirectory "ann" =
    ⟨.root, ["new", "..", "old", "ann.json"]⟩ := by
  rw [CharacterFile.pathOf, fileName_ann]
  rfl

def backSheet (pronouns : String) : Sheet :=
  ⟨{ Identity.blank with name := "ann", pronouns := pronouns, age := 18 },
    [⟨"STR", "STR", "", .start [1, 2], []⟩], [], [], []⟩

theorem newSheet_back (pronouns : String) :
    newSheet smallContent "ann" pronouns "" 18 = backSheet pronouns := by
  rw [newSheet, ofContent_small]
  rfl

/-- What saving a new character leaves, where nothing is found at first. -/
def backSave (pronouns : String) : Except CharacterFile.Fault Unit × FileTree :=
  CharacterFile.save backFiles ⟨.root, ["new", "..", "old", "ann.json"]⟩ (backSheet pronouns)

theorem run_back (pronouns : String) :
    (run smallHere backFiles false
      (.create "ann" pronouns "" 18 false "charsheet.toml")).state.files = (backSave pronouns).2 ∧
    ((backSave pronouns).1.toOption = none → (run smallHere backFiles false
      (.create "ann" pronouns "" 18 false "charsheet.toml")).ending ≠ .success) := by
  have htaken : backFiles.exists? (CharacterFile.pathOf backDirectory "ann") = .ok false := by
    rw [pathOf_back]
    rfl
  have hfree : (false && !false) = false := rfl
  obtain ⟨m, s, hserves, hfiles, hrun⟩ :=
    exists_run_create false pronouns "" 18 project?_back htaken hfree
  rw [newSheet_back] at hrun
  have hsaved : CharacterFile.save s.files (CharacterFile.pathOf backDirectory
      (backSheet pronouns).identity.name) (backSheet pronouns) = backSave pronouns := by
    rw [hfiles]
    exact congrArg (CharacterFile.save backFiles · (backSheet pronouns)) pathOf_back
  rw [← hfiles] at hserves
  refine ⟨?_, fun hnone hsuccess => not_fails_of_success hsuccess ?_⟩
  · rw [run, state_run, hrun, saveNew, files_run_bind fun _ => keepsFiles_say _,
      hserves.files_saveCharacter, hsaved]
  · rw [Fails, hrun]
    cases hresult : backSave pronouns with
    | mk result after =>
      cases result with
      | ok done =>
        rw [hresult] at hnone
        cases hnone
      | error fault => exact (hserves.fails_saveCharacter (hsaved.trans hresult)).bind _

/-- Without force a new character takes the place of another, and one that cannot be written leaves
an empty file there when it fails. -/
theorem exists_character_replaced_and_emptied :
    backFiles.open? ⟨.root, ["old", "ann.json"]⟩ = .ok (.file (.text "\x7b\x7d")) ∧
    (runWords smallHere backFiles ["sheet", "new", "ann"]).state.files.open?
      ⟨.root, ["old", "ann.json"]⟩ ≠ .ok (.file (.text "\x7b\x7d")) ∧
    (runWords smallHere backFiles ["sheet", "new", "ann", "--pronouns",
      String.singleton (Text.ofCode 0xDC80)]).ending ≠ .success ∧
    (runWords smallHere backFiles ["sheet", "new", "ann", "--pronouns",
      String.singleton (Text.ofCode 0xDC80)]).state.files.open? ⟨.root, ["old", "ann.json"]⟩ =
        .ok (.file (.text "")) := by
  have hread : read ["sheet", "new", "ann"] =
      some (.run false (.create "ann" "" "" 18 false "charsheet.toml")) := rfl
  have hread' : read ["sheet", "new", "ann", "--pronouns", String.singleton (Text.ofCode 0xDC80)] =
      some (.run false (.create "ann" (String.singleton (Text.ofCode 0xDC80)) "" 18 false
        "charsheet.toml")) := rfl
  obtain ⟨hfiles, -⟩ := run_back ""
  obtain ⟨hfiles', hending⟩ := run_back (String.singleton (Text.ofCode 0xDC80))
  rw [runWords, hread, runWords, hread']
  dsimp only
  rw [hfiles, hfiles']
  refine ⟨rfl, ?_, hending ?_, ?_⟩
  · intro h
    have hkept : ((backSave "").2.open? ⟨.root, ["old", "ann.json"]⟩).toOption ≠
        some (.file (.text "\x7b\x7d")) := by decide +kernel
    exact hkept (toOption_eq_some_iff.mpr h)
  · decide +kernel
  · rw [← toOption_eq_some_iff]
    decide +kernel

end Tabletop.Command
