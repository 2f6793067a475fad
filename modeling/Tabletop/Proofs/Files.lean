import Mathlib.Tactic.Common
import Tabletop.Files.Tree

/-!
# What writing a file changes

Directories stay where they are, so a path that leads somewhere goes on leading there. Writing a
file makes directories and changes that file alone, and where a file has been written once it can be
written again.
-/
namespace Tabletop.FileTree

variable {tree made before : FileTree} {path : Path} {loc other : Location} {part : String}

theorem bind_eq_ok_iff {ε α β : Type} {x : Except ε α} {f : α → Except ε β} {b : β} :
    x >>= f = .ok b ↔ ∃ a, x = .ok a ∧ f a = .ok b := by
  cases x <;> simp [bind, Except.bind]

/-! ### Paths -/

theorem descend_eq_ok_iff {loc' : Location} :
    tree.descend loc part = .ok loc' ↔ tree.get? loc = some .directory ∧
      ((part = ".." ∧ loc' = loc.dropLast) ∨
        (part ≠ ".." ∧ part.utf8ByteSize ≤ nameLimit ∧ loc' = loc ++ [part])) := by
  unfold descend
  split
  · simp [*]
  · simp [*]
  · rename_i hdirectory
    by_cases hup : part = ".."
    · simp [hdirectory, hup, eq_comm]
    · by_cases hlong : nameLimit < part.utf8ByteSize
      · simp only [hdirectory, beq_iff_eq, hup, hlong, Nat.not_le.mpr hlong, if_false, if_true,
          reduceCtorEq, false_and, and_false, or_false]
      · simp only [hdirectory, beq_iff_eq, hup, hlong, Nat.not_lt.mp hlong, if_false,
          Except.ok.injEq, false_and, true_and, false_or]
        exact ⟨fun h => ⟨hup, h.symm⟩, fun h => h.2.symm⟩

theorem locate_eq_ok_iff : tree.locate path = .ok loc ↔
    refusal? path = none ∧ path.parts.foldlM (descend tree) [] = .ok loc := by
  unfold locate
  cases refusal? path <;> simp

/-- The last part of a path is the name of what it leads to. -/
theorem getLast?_of_locate_child (hpart : part ≠ "..")
    (h : tree.locate (path.child part) = .ok loc) :
    loc.getLast? = some part := by
  have hwalk := (locate_eq_ok_iff.mp h).2
  rw [Path.child, List.foldlM_append, bind_eq_ok_iff] at hwalk
  obtain ⟨above, -, hlast⟩ := hwalk
  rw [List.foldlM_cons, bind_eq_ok_iff] at hlast
  obtain ⟨loc', hdescend, hnil⟩ := hlast
  cases hnil
  obtain ⟨-, ⟨hup, -⟩ | ⟨-, -, rfl⟩⟩ := descend_eq_ok_iff.mp hdescend
  · exact absurd hup hpart
  · simp

/-- Directories stay. -/
def KeepsDirectories (before tree : FileTree) : Prop :=
  ∀ loc, before.get? loc = some .directory → tree.get? loc = some .directory

theorem KeepsDirectories.refl (tree : FileTree) : KeepsDirectories tree tree := fun _ h => h

theorem KeepsDirectories.trans {last : FileTree} (h : KeepsDirectories before tree)
    (h' : KeepsDirectories tree last) : KeepsDirectories before last :=
  fun loc hloc => h' loc (h loc hloc)

/-- Where directories stay, paths go on leading where they led. -/
theorem KeepsDirectories.locate (h : KeepsDirectories before tree)
    (hloc : before.locate path = .ok loc) : tree.locate path = .ok loc := by
  rw [locate_eq_ok_iff] at hloc ⊢
  refine ⟨hloc.1, ?_⟩
  have hwalk : ∀ (parts : List String) (start loc : Location),
      parts.foldlM (descend before) start = .ok loc →
        parts.foldlM (descend tree) start = .ok loc := by
    intro parts
    induction parts with
    | nil => exact fun _ _ h => h
    | cons part parts ih =>
      intro start loc hfold
      rw [List.foldlM_cons, bind_eq_ok_iff] at hfold ⊢
      obtain ⟨next, hnext, hrest⟩ := hfold
      obtain ⟨hdirectory, hplace⟩ := descend_eq_ok_iff.mp hnext
      exact ⟨next, descend_eq_ok_iff.mpr ⟨h start hdirectory, hplace⟩, ih next loc hrest⟩
  exact hwalk _ _ _ hloc.2

/-- Where a path leads, everything above is a directory. -/
theorem directory_of_locate (h : tree.locate path = .ok loc) :
    ∀ above, above <+: loc → above ≠ loc → tree.get? above = some .directory := by
  have hwalk : ∀ (parts : List String) (start loc : Location),
      (∀ above, above <+: start → above ≠ start → tree.get? above = some .directory) →
        parts.foldlM (descend tree) start = .ok loc →
          ∀ above, above <+: loc → above ≠ loc → tree.get? above = some .directory := by
    intro parts
    induction parts with
    | nil =>
      rintro start loc hstart ⟨⟩
      exact hstart
    | cons part parts ih =>
      intro start loc hstart hfold
      rw [List.foldlM_cons, bind_eq_ok_iff] at hfold
      obtain ⟨next, hnext, hrest⟩ := hfold
      obtain ⟨hdirectory, hplace⟩ := descend_eq_ok_iff.mp hnext
      have habove (above : Location) (hfront : above <+: start) :
          tree.get? above = some .directory := by
        by_cases hsame : above = start
        · rw [hsame, hdirectory]
        · exact hstart above hfront hsame
      refine ih next loc (fun above hfront hne => habove above ?_) hrest
      rcases hplace with ⟨-, rfl⟩ | ⟨-, -, rfl⟩
      · exact hfront.trans (List.dropLast_prefix start)
      · exact (List.prefix_concat_iff.mp hfront).resolve_left hne
  refine hwalk _ _ _ (fun above hfront hne => ?_) (locate_eq_ok_iff.mp h).2
  exact absurd (List.prefix_nil.mp hfront) hne

/-- Without double dots a path leads to the location of its parts. -/
theorem eq_append_of_foldlM {parts : List String} {start : Location} (hup : ".." ∉ parts)
    (h : parts.foldlM (descend tree) start = .ok loc) : loc = start ++ parts := by
  induction parts generalizing start with
  | nil =>
    cases h
    exact (List.append_nil loc).symm
  | cons part parts ih =>
    rw [List.foldlM_cons, bind_eq_ok_iff] at h
    obtain ⟨next, hnext, hrest⟩ := h
    rw [List.mem_cons, not_or] at hup
    obtain ⟨-, ⟨rfl, -⟩ | ⟨-, -, rfl⟩⟩ := descend_eq_ok_iff.mp hnext
    · exact absurd rfl hup.1
    · rw [ih hup.2 hrest, List.append_assoc, List.singleton_append]

/-- A path without double dots leads in every tree to the same place in which there are directories
above that place. -/
theorem locate_of_directories (hup : ".." ∉ path.parts) (h : tree.locate path = .ok loc)
    (hdirectories : ∀ above, above <+: loc → above ≠ loc →
      before.get? above = some .directory) :
    before.locate path = .ok loc := by
  rw [locate_eq_ok_iff] at h ⊢
  refine ⟨h.1, ?_⟩
  have hwalk : ∀ (parts : List String) (start : Location), ".." ∉ parts →
      parts.foldlM (descend tree) start = .ok loc →
        parts.foldlM (descend before) start = .ok loc := by
    intro parts
    induction parts with
    | nil => exact fun _ _ h => h
    | cons part parts ih =>
      intro start hup hfold
      have hloc := eq_append_of_foldlM hup hfold
      have hstart : before.get? start = some .directory :=
        hdirectories start ⟨_, hloc.symm⟩ fun hsame => by simp [← hsame] at hloc
      rw [List.foldlM_cons, bind_eq_ok_iff] at hfold ⊢
      obtain ⟨next, hnext, hrest⟩ := hfold
      have hplace := (descend_eq_ok_iff.mp hnext).2
      refine ⟨next, descend_eq_ok_iff.mpr ⟨hstart, hplace⟩, ih next ?_ hrest⟩
      exact fun hmem => hup (List.mem_cons_of_mem part hmem)
  exact hwalk _ _ hup h.2

theorem keepsDirectories_put {entry : FileEntry} (hloc : loc ≠ [])
    (h : tree.get? loc = some .directory → entry = .directory) :
    KeepsDirectories tree (tree.put loc entry) := by
  intro other hother
  rw [get?_put _ hloc]
  split
  · rename_i hsame
    rw [h (hsame ▸ hother)]
  · exact hother

/-! ### Directories -/

/-- What making directories leaves of a tree. -/
structure Extends (before tree : FileTree) : Prop where
  keeps : KeepsDirectories before tree
  files : ∀ loc content, tree.get? loc = some (.file content) ↔
    before.get? loc = some (.file content)

theorem Extends.refl (tree : FileTree) : Extends tree tree := ⟨.refl tree, fun _ _ => Iff.rfl⟩

theorem Extends.trans {last : FileTree} (h : Extends before tree) (h' : Extends tree last) :
    Extends before last :=
  ⟨h.keeps.trans h'.keeps, fun loc content => (h'.files loc content).trans (h.files loc content)⟩

theorem addDirectory_spec (h : tree.addDirectory path = .ok made) :
    Extends tree made ∧ ∃ loc, made.locate path = .ok loc ∧ made.get? loc = some .directory := by
  rw [addDirectory, bind_eq_ok_iff] at h
  obtain ⟨loc, hloc, h⟩ := h
  cases hentry : tree.get? loc with
  | none =>
    have hroot : loc ≠ [] := by
      rintro rfl
      cases hentry
    rw [hentry] at h
    cases h
    have hkeeps : KeepsDirectories tree (tree.put loc .directory) :=
      keepsDirectories_put hroot fun _ => rfl
    refine ⟨⟨hkeeps, ?_⟩, loc, hkeeps.locate hloc, by rw [get?_put _ hroot, if_pos rfl]⟩
    intro other content
    rw [get?_put _ hroot]
    split
    · rename_i hsame
      simp [← hsame, hentry]
    · rfl
  | some entry =>
    rw [hentry] at h
    cases entry with
    | file content => cases h
    | directory =>
      cases h
      exact ⟨.refl tree, loc, hloc, hentry⟩

/-- Making a directory leaves the files alone, however far it gets. -/
theorem extends_makeDirectory (tree : FileTree) (path : Path) :
    Extends tree (tree.makeDirectory path).2 := by
  induction path using makeDirectory.induct tree with
  | case1 path made hadd =>
    rw [makeDirectory, hadd]
    exact (addDirectory_spec hadd).1
  | case2 path hadd hroot =>
    rw [makeDirectory, hadd]
    simp only [hroot, dif_pos]
    exact .refl tree
  | case3 path hadd hroot _ fault made hparent ih =>
    rw [makeDirectory, hadd]
    simp only [hroot, hparent, dif_neg, not_false_eq_true]
    rwa [hparent] at ih
  | case4 path hadd hroot _ _ above hparent made hadd' ih =>
    rw [makeDirectory, hadd]
    simp only [hroot, hparent, hadd', dif_neg, not_false_eq_true]
    rw [hparent] at ih
    exact ih.trans (addDirectory_spec hadd').1
  | case5 path hadd hroot _ _ above hparent fault hadd' ih =>
    rw [makeDirectory, hadd]
    simp only [hroot, hparent, hadd', dif_neg, not_false_eq_true]
    rwa [hparent] at ih
  | case6 path fault hfault hadd =>
    rw [makeDirectory, hadd]
    cases fault with
    | missing => exact absurd rfl hfault
    | _ => exact .refl tree

/-- A directory that was made is there, and files are as they were. -/
theorem makeDirectory_spec (h : tree.makeDirectory path = (.ok (), made)) :
    Extends tree made ∧ ∃ loc, made.locate path = .ok loc ∧ made.get? loc = some .directory := by
  have hextends := extends_makeDirectory tree path
  rw [h] at hextends
  refine ⟨hextends, ?_⟩
  rw [makeDirectory] at h
  split at h
  · rename_i made' hadd
    cases h
    exact (addDirectory_spec hadd).2
  · split at h
    · cases h
    · split at h
      · cases h
      · split at h <;> cases h
        rename_i hadd
        exact (addDirectory_spec hadd).2
  · cases h

/-! ### Files -/

theorem open?_eq_ok_file_iff {content : FileContent} : tree.open? path = .ok (.file content) ↔
    ∃ loc, tree.locate path = .ok loc ∧ tree.get? loc = some (.file content) := by
  unfold open?
  cases tree.locate path with
  | error fault => simp [Except.bind]
  | ok loc =>
    simp only [Except.bind, Except.ok.injEq, exists_eq_left']
    cases tree.get? loc <;> simp

theorem exists?_of_open? {entry : FileEntry} (h : tree.open? path = .ok entry) :
    tree.exists? path = .ok true := by
  simp only [exists?, ask, h]

/-- Files stay where they are. -/
theorem Extends.open?_file {content : FileContent} (h : Extends before tree)
    (hopen : before.open? path = .ok (.file content)) :
    tree.open? path = .ok (.file content) := by
  obtain ⟨loc, hlocated, hfile⟩ := open?_eq_ok_file_iff.mp hopen
  exact open?_eq_ok_file_iff.mpr ⟨loc, h.keeps.locate hlocated, (h.files loc content).mpr hfile⟩

/-- The file of a path, and the directory that holds it, are where they can be written. -/
structure IsFileAt (tree : FileTree) (path : Path) (loc : Location) (content : FileContent) :
    Prop where
  located : tree.locate path = .ok loc
  file : tree.get? loc = some (.file content)
  directory : ∃ above, tree.locate path.parent = .ok above ∧ tree.get? above = some .directory

theorem IsFileAt.ne_nil {content : FileContent} (h : tree.IsFileAt path loc content) :
    loc ≠ [] := by
  rintro rfl
  cases h.file

theorem putAt_eq_ok_iff {content : FileContent} : tree.putAt path content = .ok made ↔
    ∃ loc, tree.locate path = .ok loc ∧ tree.get? loc ≠ some .directory ∧
      tree.put loc (.file content) = made := by
  rw [putAt, bind_eq_ok_iff]
  refine exists_congr fun loc => and_congr_right fun _ => ?_
  split
  · rename_i hdirectory
    simp [hdirectory, throw, throwThe, MonadExceptOf.throw]
  · rename_i hother
    have hne : tree.get? loc ≠ some .directory := hother
    simp [hne, pure, Except.pure]

/-- A file can be put where there is no directory. -/
theorem isFileAt_put (content : FileContent) {above : Location} (hloc : tree.locate path = .ok loc)
    (hentry : tree.get? loc ≠ some .directory) (habove : tree.locate path.parent = .ok above)
    (hdirectory : tree.get? above = some .directory) :
    (tree.put loc (.file content)).IsFileAt path loc content := by
  have hroot : loc ≠ [] := by
    rintro rfl
    exact hentry rfl
  have hkeeps : KeepsDirectories tree (tree.put loc (.file content)) :=
    keepsDirectories_put hroot fun h => absurd h hentry
  refine ⟨hkeeps.locate hloc, ?_, above, hkeeps.locate habove, hkeeps above hdirectory⟩
  rw [get?_put _ hroot, if_pos rfl]

/-- Directories may have been made, but of all files only the one at a location was written. -/
structure WritesOnly (loc : Location) (before tree : FileTree) : Prop where
  keeps : KeepsDirectories before tree
  files : ∀ other ≠ loc, ∀ content, tree.get? other = some (.file content) ↔
    before.get? other = some (.file content)

theorem WritesOnly.refl (loc : Location) (tree : FileTree) : WritesOnly loc tree tree :=
  ⟨.refl tree, fun _ _ _ => Iff.rfl⟩

theorem WritesOnly.trans {last : FileTree} (h : WritesOnly loc before tree)
    (h' : WritesOnly loc tree last) : WritesOnly loc before last :=
  ⟨h.keeps.trans h'.keeps, fun other hother content =>
    (h'.files other hother content).trans (h.files other hother content)⟩

/-- What other paths lead to can be opened as before. -/
theorem WritesOnly.open?_eq {content : FileContent} (h : WritesOnly loc before tree)
    (hopen : before.locate path = .ok other ∧ before.get? other = some (.file content))
    (hother : other ≠ loc) : tree.open? path = before.open? path := by
  have hafter := (h.files other hother content).mpr hopen.2
  simp only [open?, h.keeps.locate hopen.1, hopen.1, Except.bind, hafter, hopen.2]

/-- The other files stay where they are. -/
theorem WritesOnly.isFileAt {content : FileContent} (h : WritesOnly loc before tree)
    (hfile : before.IsFileAt path other content) (hother : other ≠ loc) :
    tree.IsFileAt path other content := by
  obtain ⟨above, habove, hdirectory⟩ := hfile.directory
  exact ⟨h.keeps.locate hfile.located, (h.files other hother content).mpr hfile.file, above,
    h.keeps.locate habove, h.keeps above hdirectory⟩

theorem writesOnly_put (content : FileContent) (hloc : loc ≠ [])
    (hentry : tree.get? loc ≠ some .directory) :
    WritesOnly loc tree (tree.put loc (.file content)) := by
  refine ⟨keepsDirectories_put hloc fun h => absurd h hentry, fun other hother content => ?_⟩
  rw [get?_put _ hloc, if_neg hother.symm]

/-- One text was written: it is where a path leads, and no other file was changed. -/
def Wrote (before : FileTree) (path : Path) (s : String) (tree : FileTree) : Prop :=
  ∃ loc, tree.IsFileAt path loc (.text s) ∧ WritesOnly loc before tree

/-- Writing where nothing is leaves the files where they are. What counts is that nothing was there
before directories were made, so these must not be what lets the path lead somewhere. -/
theorem Wrote.open?_file {place : Path} {s : String} {content : FileContent}
    (h : before.Wrote place s tree) (hfree : before.exists? place ≠ .ok true)
    (hplace : ".." ∉ place.parts ∨ ∃ loc, before.locate place = .ok loc)
    (hopen : before.open? path = .ok (.file content)) : tree.open? path = .ok (.file content) := by
  obtain ⟨loc, hfile, honly⟩ := h
  obtain ⟨other, hlocated, hother⟩ := open?_eq_ok_file_iff.mp hopen
  have hne : other ≠ loc := by
    rintro rfl
    have hsame : before.locate place = .ok other := by
      rcases hplace with hup | ⟨there, hthere⟩
      · exact locate_of_directories hup hfile.located (directory_of_locate hlocated)
      · have hmade := honly.keeps.locate hthere
        rw [hfile.located, Except.ok.injEq] at hmade
        rw [hthere, hmade]
    exact hfree (exists?_of_open? (open?_eq_ok_file_iff.mpr ⟨other, hsame, hother⟩))
  rw [honly.open?_eq ⟨hlocated, hother⟩ hne, hopen]

/-- A text that cannot be written leaves the files alone. -/
theorem extends_of_writeText {s : String} {fault : WriteFault}
    (h : tree.writeText path s = (.error fault, made)) : Extends tree made := by
  have hmake := extends_makeDirectory tree path.parent
  unfold FileTree.writeText at h
  split at h
  · rename_i hparent
    cases h
    rwa [hparent] at hmake
  · rename_i hparent
    split at h <;> cases h
    rwa [hparent] at hmake

/-- A file that was written is there, and it is the only one. -/
theorem writeText_spec {s : String} (h : tree.writeText path s = (.ok (), made)) :
    ∃ loc, made.IsFileAt path loc (.text s) ∧ WritesOnly loc tree made := by
  rw [FileTree.writeText] at h
  split at h
  · cases h
  · rename_i between hmake
    split at h
    · rename_i made' hput
      cases h
      obtain ⟨hextends, above, habove, hdirectory⟩ := makeDirectory_spec hmake
      obtain ⟨loc, hloc, hentry, rfl⟩ := putAt_eq_ok_iff.mp hput
      have hfile := isFileAt_put (.text s) hloc hentry habove hdirectory
      have hput := writesOnly_put (.text s) hfile.ne_nil hentry
      refine ⟨loc, hfile, hextends.keeps.trans hput.keeps, fun other hother content => ?_⟩
      exact (hput.files other hother content).trans (hextends.files other content)
    · cases h

/-- Where a file is, it can be written. -/
theorem IsFileAt.writeText {content : FileContent} (h : tree.IsFileAt path loc content)
    (s : String) : ∃ made, tree.writeText path s = (.ok (), made) ∧
      made.IsFileAt path loc (.text s) ∧ WritesOnly loc tree made := by
  obtain ⟨above, habove, hdirectory⟩ := h.directory
  have hentry : tree.get? loc ≠ some .directory := by
    rw [h.file]
    rintro ⟨⟩
  have hmake : tree.makeDirectory path.parent = (.ok (), tree) := by
    have hadd : tree.addDirectory path.parent = .ok tree := by
      rw [addDirectory, bind_eq_ok_iff]
      exact ⟨above, habove, by rw [hdirectory]; rfl⟩
    rw [makeDirectory, hadd]
  have hput : tree.putAt path (.text s) = .ok (tree.put loc (.file (.text s))) :=
    putAt_eq_ok_iff.mpr ⟨loc, h.located, hentry, rfl⟩
  refine ⟨_, ?_, isFileAt_put _ h.located hentry habove hdirectory,
    writesOnly_put _ h.ne_nil hentry⟩
  rw [FileTree.writeText, hmake]
  simp only [hput]

/-- Where a text file is, its text is read with its line ends unified. -/
theorem IsFileAt.readText {s : String} (h : tree.IsFileAt path loc (.text s)) :
    tree.exists? path = .ok true ∧
      tree.readText path = .ok (String.ofList (Text.unifyLines s.toList)) := by
  have hopen : tree.open? path = .ok (.file (.text s)) := by
    rw [open?, h.located]
    simp [Except.bind, h.file]
  rw [exists?, ask, FileTree.readText, hopen]
  exact ⟨rfl, rfl⟩

/-- What is read as a text has been found in a file. -/
theorem exists_file_of_readText {s : String} (h : tree.readText path = .ok s) :
    ∃ loc content, tree.locate path = .ok loc ∧ tree.get? loc = some (.file content) := by
  unfold FileTree.readText open? at h
  cases hloc : tree.locate path with
  | error fault =>
    rw [hloc] at h
    cases h
  | ok loc =>
    rw [hloc] at h
    simp only [Except.bind] at h
    cases hentry : tree.get? loc with
    | none =>
      rw [hentry] at h
      cases h
    | some entry =>
      rw [hentry] at h
      cases entry with
      | directory => cases h
      | file content => exact ⟨loc, content, rfl, hentry⟩

end Tabletop.FileTree
