import Tabletop.Proofs.CharacterFile
import Tabletop.Proofs.Command.Moves
import Tabletop.Proofs.Command.Work
import Tabletop.Proofs.Screen.Markup

/-!
# What commands do to files

A command finds its project in the files and leaves it alone. Only where a character is saved are
files changed, and what is said before that can always be shown.
-/
namespace Tabletop.Manifest

/-! ### The empty manifest -/

variable (path : Path)

theorem level?_nil : level? path [] = .ok .warning := by
  have hgiven : (Entries.find? [] "level").getD (.text "WARNING") = .text "WARNING" := rfl
  have hplain : (Document.text "WARNING").plain = "WARNING" := rfl
  have hlabel : Text.upper "WARNING" = "WARNING" := Text.upper_of_ascii (by decide)
  rw [level?, hgiven, hplain, hlabel]
  rfl

theorem ofData_nil : ofData path [] = .ok (.default path.parent) := by
  have hsection (name : String) : section? [] name = .ok [] := rfl
  have hseed : seed? path [] = .ok none := rfl
  -- without unfolding, so that no level is ever computed
  have hbind {α β : Type} (a : α) (f : α → Except Fault β) : Except.bind (.ok a) f = f a := rfl
  have hnext {α β : Type} (a : α) (f : α → Except Fault β) : (Except.ok a >>= f) = f a := rfl
  rw [ofData]
  simp only [hsection, hbind, hnext, hseed, level?_nil]
  rfl

/-- An empty manifest says what is said without one. -/
theorem ofText_empty : ofText path "" = .ok (.default path.parent) := by
  have hread : Toml.read "" = .ok [] := rfl
  rw [ofText, hread]
  exact ofData_nil path

end Tabletop.Manifest

namespace Tabletop.Command

open Work

variable {here : Surroundings} {verbose : Bool} {manifest name : String} {m : Manifest}
  {directory : Path} {c : Content} {s : State} {who : Identity} {sheet : Sheet}

/-! ### Projects -/

/-- The directory of all characters and the content of the project that a manifest leads to. -/
def project? (here : Surroundings) (files : FileTree) (manifest : String) :
    Option (Path × Content) := do
  let m ← (findManifest here files manifest).toOption
  let directory ← m.characters?
  let path ← m.content?
  let loaded ← (ContentFile.load files path).toOption
  pure (directory, loaded.1)

/-- A manifest that leads to the directory and the content. -/
structure Serves (m : Manifest) (files : FileTree) (directory : Path) (c : Content) : Prop where
  characters : m.characters? = some directory
  content : ∃ path remarks, m.content? = some path ∧ ContentFile.load files path = .ok (c, remarks)

theorem toOption_eq_some_iff {ε α : Type} {x : Except ε α} {a : α} :
    x.toOption = some a ↔ x = .ok a := by
  cases x <;> simp [Except.toOption]

theorem exists_serves_of_project? {files : FileTree}
    (h : project? here files manifest = some (directory, c)) :
    ∃ m, findManifest here files manifest = .ok m ∧ Serves m files directory c := by
  obtain ⟨m, hm, h⟩ := Option.bind_eq_some_iff.mp h
  obtain ⟨found, hdirectory, h⟩ := Option.bind_eq_some_iff.mp h
  obtain ⟨path, hpath, h⟩ := Option.bind_eq_some_iff.mp h
  obtain ⟨⟨loaded, remarks⟩, hload, h⟩ := Option.bind_eq_some_iff.mp h
  cases h
  exact ⟨m, toOption_eq_some_iff.mp hm, hdirectory, path, remarks, hpath,
    toOption_eq_some_iff.mp hload⟩

/-- The content of a project is valid. -/
theorem Serves.isValid {files : FileTree} (h : Serves m files directory c) : c.IsValid := by
  obtain ⟨path, remarks, -, hload⟩ := h.content
  exact Content.isValid_of_load hload

/-- What is found and loaded depends on what the paths can be opened as. -/
theorem findManifest_congr {before after : FileTree}
    (h : after.open? (manifestPath here manifest) = before.open? (manifestPath here manifest)) :
    findManifest here after manifest = findManifest here before manifest := by
  simp only [findManifest, Manifest.find, Manifest.load, FileTree.exists?, FileTree.ask,
    FileTree.readText, h]

theorem load_congr {before after : FileTree} {path : Path}
    (h : after.open? path = before.open? path) :
    ContentFile.load after path = ContentFile.load before path := by
  simp only [ContentFile.load, FileTree.exists?, FileTree.ask, FileTree.readText, h]

/-- What is loaded has been found in a file. -/
theorem exists_file_of_load {files : FileTree} {path : Path} {loaded : ContentFile.Loaded}
    (h : ContentFile.load files path = .ok loaded) :
    ∃ loc content, files.locate path = .ok loc ∧ files.get? loc = some (.file content) := by
  obtain ⟨s, hread, -⟩ := Content.exists_text_of_load h
  exact FileTree.exists_file_of_readText hread

/-- A project is not changed where its manifest and its content can be opened as before. -/
theorem project?_congr {before after : FileTree}
    (hproject : project? here before manifest = some (directory, c))
    (hmanifest :
      after.open? (manifestPath here manifest) = before.open? (manifestPath here manifest))
    (hcontent : ∀ m path, findManifest here before manifest = .ok m → m.content? = some path →
      (∃ loaded, ContentFile.load before path = .ok loaded) →
        after.open? path = before.open? path) :
    project? here after manifest = some (directory, c) := by
  obtain ⟨m, hm, hserves⟩ := exists_serves_of_project? hproject
  obtain ⟨path, remarks, hpath, hload⟩ := hserves.content
  have hloaded := load_congr (hcontent m path hm hpath ⟨_, hload⟩)
  simp [project?, findManifest_congr hmanifest, hm, hloaded, hload, hpath, hserves.characters,
    Except.toOption]

/-- The manifest and the content of a project are in files, none of which has the given name. -/
structure IsApart (here : Surroundings) (files : FileTree) (manifest name : String) : Prop where
  manifest_file : ∃ loc content, files.locate (manifestPath here manifest) = .ok loc ∧
    files.get? loc = some (.file content) ∧ loc.getLast? ≠ some name
  content_file : ∀ m path loc, findManifest here files manifest = .ok m → m.content? = some path →
    files.locate path = .ok loc → loc.getLast? ≠ some name

/-- A project is not changed by writing a file that is none of its own. -/
theorem project?_of_writesOnly {before after : FileTree} {place : Location}
    (hproject : project? here before manifest = some (directory, c))
    (hapart : IsApart here before manifest name) (hplace : place.getLast? = some name)
    (honly : FileTree.WritesOnly place before after) :
    project? here after manifest = some (directory, c) := by
  refine project?_congr hproject ?_ fun m path hm hpath hload => ?_
  · obtain ⟨loc, content, hloc, hfile, hname⟩ := hapart.manifest_file
    exact honly.open?_eq ⟨hloc, hfile⟩ fun h => hname (h ▸ hplace)
  · obtain ⟨loaded, hload⟩ := hload
    obtain ⟨loc, content, hloc, hfile⟩ := exists_file_of_load hload
    have hname := hapart.content_file m path loc hm hpath hloc
    exact honly.open?_eq ⟨hloc, hfile⟩ fun h => hname (h ▸ hplace)

theorem gives_project (verbose : Bool) (h : project? here s.files manifest = some (directory, c)) :
    Gives (project here verbose manifest) s fun m => Serves m s.files directory c := by
  obtain ⟨m, hm, hserves⟩ := exists_serves_of_project? h
  refine (gives_files s).bind fun files s' hfiles _ => ?_
  simp only [hfiles, hm]
  exact (gives_logFrom _ s').bind fun _ s' _ _ => ⟨m, s', rfl, rfl, hserves⟩

theorem gives_givenPath {path? : Option Path} {path : Path} (h : path? = some path) (s : State) :
    Gives (givenPath path?) s (· = path) := by
  rw [h]
  exact gives_pure path s

theorem Serves.gives_characterPath {files : FileTree} (h : Serves m files directory c)
    (name : String) (s : State) :
    Gives (characterPath m name) s (· = CharacterFile.pathOf directory name) :=
  (gives_givenPath h.characters s).bind fun _ s' hpath _ => by
    rw [hpath]
    exact gives_pure _ s'

theorem Serves.gives_loadContent (h : Serves m s.files directory c) :
    Gives (loadContent m) s (· = c) := by
  obtain ⟨path, remarks, hpath, hload⟩ := h.content
  refine (gives_givenPath hpath s).bind fun found s₁ hfound hfiles₁ => ?_
  refine (gives_files s₁).bind fun files s₂ hfiles₂ _ => ?_
  simp only [hfound, hfiles₂, hfiles₁, hload]
  exact (gives_recordAll remarks s₂).bind fun _ s₃ _ _ => gives_pure c s₃

/-! ### Characters -/

/-- What is loaded of a character is what was saved of it, restored on a new sheet. -/
theorem Serves.gives_loadCharacter {before : Snapshot} (h : Serves m s.files directory c)
    (hload : CharacterFile.loadSnapshot s.files (CharacterFile.pathOf directory name) = .ok before)
    (dice : DiceSource) :
    Gives (loadCharacter m name dice) s fun session =>
      ∃ journal, session = CharacterFile.restored DiceSource.roll c before dice journal := by
  refine h.gives_loadContent.bind fun content s₁ hcontent hfiles₁ => ?_
  refine (h.gives_characterPath name s₁).bind fun path s₂ hpath hfiles₂ => ?_
  refine (gives_files s₂).bind fun files s₃ hfiles₃ _ => ?_
  refine (gives_journal s₃).bind fun journal s₄ _ _ => ?_
  have hfiles : files = s.files := hfiles₃.trans (hfiles₂.trans hfiles₁)
  simp only [hcontent, hpath, hfiles, CharacterFile.load, hload, Except.map]
  exact (gives_follow _ s₄).bind fun _ s₅ _ _ => ⟨_, s₅, rfl, rfl, journal, rfl⟩

/-- Where saving succeeds, the files are as it leaves them, and it is said where. -/
theorem Serves.run_saveCharacter {files after : FileTree} (h : Serves m files directory c)
    (hsave : CharacterFile.save s.files (CharacterFile.pathOf directory sheet.identity.name) sheet =
      (.ok (), after)) :
    ∃ s', ExceptT.run (saveCharacter m sheet) s =
      (.ok (CharacterFile.pathOf directory sheet.identity.name), s') ∧ s'.files = after := by
  obtain ⟨path, s₁, hpath, hfiles₁, hrun₁⟩ :=
    (h.gives_characterPath sheet.identity.name s).run_bind _
  obtain ⟨found, s₂, hfound, -, hrun₂⟩ := (gives_files s₁).run_bind _
  rw [saveCharacter, hrun₁, hrun₂, hfound, hfiles₁, hpath, hsave]
  exact ⟨_, rfl, rfl⟩

/-- Where saving does not succeed, that is said. -/
theorem Serves.fails_saveCharacter {files after : FileTree} {fault : CharacterFile.Fault}
    (h : Serves m files directory c)
    (hsave : CharacterFile.save s.files (CharacterFile.pathOf directory sheet.identity.name) sheet =
      (.error fault, after)) : Fails (saveCharacter m sheet) s := by
  obtain ⟨path, s₁, hpath, hfiles₁, hrun₁⟩ :=
    (h.gives_characterPath sheet.identity.name s).run_bind _
  obtain ⟨found, s₂, hfound, -, hrun₂⟩ := (gives_files s₁).run_bind _
  rw [Fails, saveCharacter, hrun₁, hrun₂, hfound, hfiles₁, hpath, hsave]
  have hfails (s : State) : Fails (α := Path) (if fault.isOwn then
      refuse ("[red]Error saving character:[/red] " ++ fault.message)
      else breakOff (.character fault)) s := by
    split
    · exact fails_refuse _ s
    · exact fails_breakOff _ s
  exact hfails _

/-- The sheet is in its file, from where it can be loaded and where it can be saved. -/
def Keeps (files : FileTree) (directory : Path) (loc : Location) (sheet : Sheet) : Prop :=
  files.IsFileAt (CharacterFile.pathOf directory sheet.identity.name) loc
    (.text (Snapshot.ofSheet sheet).fileText)

/-! ### Whole commands -/

theorem state_run (w : Work Unit) (files : FileTree) :
    (w.run files).state = (ExceptT.run w (.start files)).2 := by
  unfold Work.run
  split
  · rename_i h
    rw [h]
  · rename_i h
    rw [h]

/-- A sheet that is kept can be loaded, if its snapshot can be read back. -/
theorem Keeps.loadSnapshot {files : FileTree} {loc : Location} (h : Keeps files directory loc sheet)
    (hlegible : (Snapshot.ofSheet sheet).IsLegible) :
    CharacterFile.loadSnapshot files (CharacterFile.pathOf directory sheet.identity.name) =
      .ok (.ofSheet sheet) :=
  CharacterFile.loadSnapshot_of_isFileAt h hlegible le_rfl

theorem not_fails_of_success {w : Work Unit} {files : FileTree}
    (h : (w.run files).ending = .success) : ¬ Fails w (.start files) := by
  rintro ⟨ending, s', hrun, hending⟩
  rw [Work.run, hrun] at h
  exact hending h

/-- Where saving succeeds, the sheet is in its file then, and no other file was written. -/
theorem keeps_of_save {files after : FileTree}
    (h : CharacterFile.save files (CharacterFile.pathOf directory sheet.identity.name) sheet =
      (.ok (), after)) :
    (Snapshot.ofSheet sheet).IsWritable ∧ ∃ loc, Keeps after directory loc sheet ∧
      FileTree.WritesOnly loc files after :=
  CharacterFile.exists_isFileAt_of_save h

/-- Unless saving fails, the sheet is in its file then, whatever is said after that. -/
theorem Serves.files_saveCharacter_bind {files : FileTree} {rest : Path → Work Unit}
    (h : Serves m files directory c) (hrest : ∀ path, KeepsFiles (rest path))
    (hfine : ¬ Fails (saveCharacter m sheet >>= rest) s) :
    let after := (ExceptT.run (saveCharacter m sheet >>= rest) s).2.files
    (Snapshot.ofSheet sheet).IsWritable ∧ ∃ loc, Keeps after directory loc sheet ∧
      FileTree.WritesOnly loc s.files after := by
  cases hsave : CharacterFile.save s.files
      (CharacterFile.pathOf directory sheet.identity.name) sheet with
  | mk result saved =>
    cases result with
    | error fault => exact absurd ((h.fails_saveCharacter hsave).bind _) hfine
    | ok done =>
      obtain ⟨s', hrun, hfiles⟩ := h.run_saveCharacter hsave
      rw [files_run_bind hrest, hrun, hfiles]
      exact keeps_of_save hsave

/-- The sheet of a new character. -/
def newSheet (c : Content) (name pronouns power : String) (age : Int) : Sheet :=
  { Sheet.ofContent c with
    identity := { Identity.blank with
      name := name, pronouns := pronouns, power := power, age := age } }

/-- Save a new character and say where. -/
def saveNew (m : Manifest) (sheet : Sheet) : Work Unit := do
  let saved ← saveCharacter m sheet
  say ("[green]Created[/green] " ++ Markup.escape sheet.identity.name ++ " -> " ++ saved.text)

/-- Creating a character saves a new sheet if its file is free, and fails if not. -/
theorem Serves.run_createCharacter (h : Serves m s.files directory c)
    (here : Surroundings) (name pronouns power : String) (age : Int) (force : Bool) :
    (∃ taken s', s.files.exists? (CharacterFile.pathOf directory name) = .ok taken ∧
      (taken && !force) = false ∧ s'.files = s.files ∧
        ExceptT.run (createCharacter here m name pronouns power age force) s =
          ExceptT.run (saveNew m (newSheet c name pronouns power age)) s') ∨
      (∀ taken, s.files.exists? (CharacterFile.pathOf directory name) = .ok taken →
        (taken && !force) = true) ∧
          Fails (createCharacter here m name pronouns power age force) s := by
  unfold createCharacter
  obtain ⟨path, s₁, rfl, hfiles₁, hrun₁⟩ := (h.gives_characterPath name s).run_bind _
  rw [Fails, hrun₁]
  cases hexists : s.files.exists? (CharacterFile.pathOf directory name) with
  | error fault =>
    refine .inr ⟨fun taken htaken => (by cases htaken), Fails.bind ?_ _⟩
    obtain ⟨files, s', hfiles, -, hrun⟩ := (gives_files s₁).run_bind _
    rw [Fails, isTaken, hrun, hfiles, hfiles₁, hexists]
    exact fails_breakOff _ s'
  | ok taken =>
    have hask : Gives (isTaken (CharacterFile.pathOf directory name)) s₁ (· = taken) := by
      obtain ⟨files, s', hfiles, hfiles', hrun⟩ := (gives_files s₁).run_bind _
      rw [Gives, isTaken, hrun, hfiles, hfiles₁, hexists]
      exact ⟨taken, s', rfl, hfiles'.trans hfiles₁, rfl⟩
    obtain ⟨taken, s₂, rfl, hfiles₂, hrun₂⟩ := hask.run_bind _
    rw [hrun₂]
    cases hfree : taken && !force with
    | true =>
      rw [if_pos rfl]
      refine .inr ⟨?_, fails_refuse _ s₂⟩
      rintro _ ⟨⟩
      exact hfree
    | false =>
      rw [if_neg (by decide)]
      rw [← hfiles₁, ← hfiles₂] at h ⊢
      obtain ⟨content, s₃, hcontent, hfiles₃, hrun₃⟩ := h.gives_loadContent.run_bind _
      obtain ⟨journal, s₄, -, hfiles₄, hrun₄⟩ := (gives_journal s₃).run_bind _
      obtain ⟨_, s₅, -, hfiles₅, hrun₅⟩ := (gives_follow _ s₄).run_bind _
      rw [hrun₃, hrun₄, hrun₅, hcontent]
      exact .inl ⟨taken, s₅, rfl, hfree, hfiles₅.trans (hfiles₄.trans hfiles₃), rfl⟩

/-- A command that creates a character successfully puts a new sheet into its file. -/
theorem files_run_create {files : FileTree} {pronouns power : String} {age : Int} {force : Bool}
    (hproject : project? here files manifest = some (directory, c))
    (hsuccess : (run here files verbose (.create name pronouns power age force manifest)).ending =
      .success) :
    let after :=
      (run here files verbose (.create name pronouns power age force manifest)).state.files
    let sheet := newSheet c name pronouns power age
    (Snapshot.ofSheet sheet).IsWritable ∧ ∃ loc, Keeps after directory loc sheet ∧
      FileTree.WritesOnly loc files after := by
  have hfine := not_fails_of_success hsuccess
  rw [run, state_run]
  obtain ⟨m, s₁, hserves, hfiles₁, hrun₁, hrest⟩ :=
    (gives_project (s := .start files) verbose hproject).not_fails hfine
  rw [work, hrun₁]
  obtain rfl : s₁.files = files := hfiles₁
  replace hserves : Serves m s₁.files directory c := hserves
  obtain ⟨taken, s₂, -, -, hfiles₂, hrun₂⟩ :=
    (hserves.run_createCharacter here name pronouns power age force).resolve_right
      fun hfails => hrest hfails.2
  rw [Fails, hrun₂] at hrest
  rw [hrun₂, ← hfiles₂]
  exact hserves.files_saveCharacter_bind (fun _ => keepsFiles_say _) hrest

/-- Creating a character is saving it, where that is free. -/
theorem exists_run_create {files : FileTree} {force taken : Bool} (verbose : Bool)
    (pronouns power : String) (age : Int)
    (hproject : project? here files manifest = some (directory, c))
    (htaken : files.exists? (CharacterFile.pathOf directory name) = .ok taken)
    (hfree : (taken && !force) = false) :
    ∃ m s, Serves m files directory c ∧ s.files = files ∧
      ExceptT.run (work here verbose (.create name pronouns power age force manifest))
        (.start files) = ExceptT.run (saveNew m (newSheet c name pronouns power age)) s := by
  obtain ⟨m, s₁, hserves, hfiles₁, hrun₁⟩ :=
    (gives_project (s := .start files) verbose hproject).run_bind fun m =>
      createCharacter here m name pronouns power age force
  obtain rfl : s₁.files = files := hfiles₁
  replace hserves : Serves m s₁.files directory c := hserves
  obtain ⟨-, s₂, -, -, hfiles₂, hrun₂⟩ :=
    (hserves.run_createCharacter here name pronouns power age force).resolve_right fun hfails => by
      rw [hfails.1 taken htaken] at hfree
      cases hfree
  exact ⟨m, s₂, hserves, hfiles₂, hrun₁.trans hrun₂⟩

/-- Creating a character succeeds where its file is free and can be written, if the line on that can
be shown. -/
theorem ending_run_create {files : FileTree} {pronouns power : String} {age : Int}
    {force taken : Bool} (hproject : project? here files manifest = some (directory, c))
    (htaken : files.exists? (CharacterFile.pathOf directory name) = .ok taken)
    (hfree : (taken && !force) = false)
    (hsave : (CharacterFile.save files (CharacterFile.pathOf directory name)
      (newSheet c name pronouns power age)).1 = .ok ())
    (hshown : Markup.IsShown ("[green]Created[/green] " ++ Markup.escape name ++ " -> " ++
      (CharacterFile.pathOf directory name).text)) :
    (run here files verbose (.create name pronouns power age force manifest)).ending =
      .success := by
  obtain ⟨m, s₂, hserves, hfiles₂, hrun₂⟩ :=
    exists_run_create verbose pronouns power age hproject htaken hfree
  rw [← hfiles₂] at hsave hserves
  obtain ⟨after, hsaved⟩ : ∃ after, CharacterFile.save s₂.files (CharacterFile.pathOf directory
      (newSheet c name pronouns power age).identity.name) (newSheet c name pronouns power age) =
        (.ok (), after) := ⟨_, Prod.fst_eq_iff.mp hsave⟩
  obtain ⟨s₃, hrun₃, -⟩ := hserves.run_saveCharacter hsaved
  obtain ⟨shown, hshown⟩ := hshown
  obtain ⟨_, s₄, hrun₄, -, -⟩ := gives_say hshown s₃
  have hnew : ExceptT.run (saveNew m (newSheet c name pronouns power age)) s₂ = (.ok (), s₄) :=
    (run_bind_of_ok hrun₃ _).trans hrun₄
  rw [run, Work.run, hrun₂, hnew]

end Tabletop.Command
