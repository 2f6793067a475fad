import Mathlib.Data.List.Induction
import Tabletop.Proofs.Command.Changing
import Tabletop.Proofs.Command.Words

/-!
# Characters across commands

A character is created by one command and given points by others, each of which loads it from its
file and saves it there again. All that time the file holds what a sheet in memory would hold that
was given the same points and never saved: by induction on the commands, what a command finds in the
file is what the commands before it have left in memory.
-/
namespace Tabletop

variable {c : Content} {who : Identity} {sheet : Sheet}

/-! ### Snapshots that can be read back -/

/-- No level and no number of points is too long to be read back. -/
def Snapshot.ProgressFits (s : Snapshot) : Prop :=
  ∀ e ∈ s.attributes ++ s.skills, Decimal.fits e.2.level ∧ Decimal.fits e.2.points

/-- Who it is can be read back. -/
structure Identity.IsLegible (who : Identity) : Prop where
  texts : ∀ t ∈ [who.name, who.pronouns, who.power], Json.IsWhole t
  numbers : ∀ n ∈ [who.level, who.age, who.wealthWeekly, who.wealthRemaining], Decimal.fits n

/-- The level and the points of a track are no longer than the number of its levels and its costs.
-/
theorem Track.IsProper.fits_progressOf {t : Track} (ht : t.IsProper)
    (hcosts : ∀ cost ∈ t.schedule, Decimal.fits cost) (hlevels : Decimal.fits t.schedule.length) :
    Decimal.fits (Snapshot.progressOf t).level ∧ Decimal.fits (Snapshot.progressOf t).points := by
  have hle := t.level_le
  refine ⟨Decimal.fits_of_natAbs_le hlevels (by simpa [Snapshot.progressOf] using hle), ?_⟩
  rcases Nat.lt_or_eq_of_le hle with hlt | heq
  · have hcost := hcosts _ (List.getElem_mem hlt)
    have hpoints := ht.lt_of_needed _ (List.getElem?_eq_getElem hlt)
    have hnonneg := ht.nonneg
    refine Decimal.fits_of_natAbs_le hcost ?_
    simp only [Snapshot.progressOf]
    omega
  · refine Decimal.fits_of_natAbs_le hlevels ?_
    simp [Snapshot.progressOf, ht.eq_zero_of_highest heq]

/-- The points that are missing are no more than a cost. -/
theorem Track.IsProper.hasProgressLine {t : Track} (ht : t.IsProper)
    (hcosts : ∀ cost ∈ t.schedule, Decimal.fits cost) (hlevels : Decimal.fits t.schedule.length) :
    Screen.hasProgressLine t := by
  have hpoints := (ht.fits_progressOf hcosts hlevels).2
  have hnonneg := ht.nonneg
  have hsame : ((Snapshot.progressOf t).points : Int) = t.points := by
    simp only [Snapshot.progressOf]
    omega
  rw [hsame] at hpoints
  have hmissing : t.missing?.all fun missing => Decimal.fits missing := by
    rw [Option.all_eq_true]
    intro missing hmem
    obtain ⟨cost, hcost, rfl⟩ := Option.map_eq_some_iff.mp hmem
    have hlt := ht.lt_of_needed cost hcost
    exact Decimal.fits_of_natAbs_le (hcosts cost (List.mem_of_getElem? hcost)) (by omega)
  rw [Screen.hasProgressLine, hpoints, hmissing]
  rfl

theorem Content.IsUpperId.isWhole {id : String} (h : Content.IsUpperId id) : Json.IsWhole id := by
  refine Snapshot.isWhole_of_ascii (List.all_eq_true.mpr fun ch hch => ?_)
  exact decide_eq_true (Content.toNat_lt_of_isIdChar (h ch hch).1)

namespace Sheet.IsReached

/-- The ids of valid content give no trouble. -/
theorem isLegible (hc : c.IsValid) (h : IsReached c who sheet) (hwho : who.IsLegible)
    (hfits : (Snapshot.ofSheet sheet).ProgressFits) : (Snapshot.ofSheet sheet).IsLegible := by
  obtain ⟨tracks, -, rfl⟩ := h
  have hentries (e : String × Progress)
      (he : e ∈ (Snapshot.ofSheet (ofTracks c who tracks)).attributes ++
        (Snapshot.ofSheet (ofTracks c who tracks)).skills) : Json.IsWhole e.1 :=
    (hc.isUpperId_of_mem (mem_keys_of_mem_ofSheet he)).isWhole
  rw [ofSheet_ofTracks] at hfits hentries ⊢
  have hkeys := List.nodup_append.mp hc.keys_nodup
  have hfst (ids : List String) :
      (ids.map fun id => (id, Snapshot.progressOf (tracks id))).map Prod.fst = ids := by
    rw [List.map_map]
    exact List.map_id ids
  refine ⟨hwho.texts, ?_, fun e he => ⟨hentries e he, hfits e he⟩, (hfst _).symm ▸ hkeys.1,
    (hfst _).symm ▸ hkeys.2.1⟩
  intro n hn
  rcases List.mem_cons.mp hn with rfl | hn
  · exact Decimal.fits_of_natAbs_lt_hundred (n := Snapshot.currentVersion) (by decide)
  · exact hwho.numbers n hn

/-- What can be written can be read back. -/
theorem isLegible_of_isWritable (hc : c.IsValid) (h : IsReached c who sheet)
    (hwritable : (Snapshot.ofSheet sheet).IsWritable) : (Snapshot.ofSheet sheet).IsLegible := by
  obtain ⟨hnumbers, hprogress⟩ := Snapshot.hasLongNumber_eq_false_iff.mp hwritable.hasLongNumber
  have htexts := Snapshot.hasHalf_eq_false_iff.mp hwritable.hasHalf
  have hidentity : (Snapshot.ofSheet sheet).identity = who := h.identity_eq
  rw [hidentity] at hnumbers htexts
  exact h.isLegible hc ⟨htexts, fun n hn => hnumbers n (List.mem_cons_of_mem _ hn)⟩ hprogress

/-- Where the costs and the numbers of levels can be read back, levels and points can be. -/
theorem progressFits (h : IsReached c who sheet)
    (hcosts : ∀ cost ∈ c.attributeSchedule ++ c.skillSchedule, Decimal.fits cost)
    (hlevels : Decimal.fits c.attributeSchedule.length ∧ Decimal.fits c.skillSchedule.length) :
    (Snapshot.ofSheet sheet).ProgressFits := by
  obtain ⟨tracks, hproper, rfl⟩ := h
  rw [ofSheet_ofTracks]
  intro e he
  rcases List.mem_append.mp he with hattribute | hskill
  · obtain ⟨id, hid, rfl⟩ := List.mem_map.mp hattribute
    obtain ⟨hschedule, htrack⟩ := hproper.attributes id hid
    refine htrack.fits_progressOf (fun cost h => ?_) (hschedule ▸ hlevels.1)
    exact hcosts cost (List.mem_append_left _ (hschedule ▸ h))
  · obtain ⟨id, hid, rfl⟩ := List.mem_map.mp hskill
    obtain ⟨hschedule, htrack⟩ := hproper.skills id hid
    refine htrack.fits_progressOf (fun cost h => ?_) (hschedule ▸ hlevels.2)
    exact hcosts cost (List.mem_append_right _ (hschedule ▸ h))

/-- Where the costs and the numbers of levels can be read back, progress can be told. -/
theorem hasProgressLine (h : IsReached c who sheet)
    (hcosts : ∀ cost ∈ c.attributeSchedule ++ c.skillSchedule, Decimal.fits cost)
    (hlevels : Decimal.fits c.attributeSchedule.length ∧ Decimal.fits c.skillSchedule.length)
    {id : String} {t : Track} (ht : sheet.track? id = some t) : Screen.hasProgressLine t := by
  have hid := h.mem_keys ht
  obtain ⟨tracks, hproper, rfl⟩ := h
  rw [track?_ofTracks, if_pos hid, Option.some.injEq] at ht
  subst ht
  rcases List.mem_append.mp hid with hattribute | hskill
  · obtain ⟨hschedule, htrack⟩ := hproper.attributes id hattribute
    refine htrack.hasProgressLine (fun cost h => ?_) (hschedule ▸ hlevels.1)
    exact hcosts cost (List.mem_append_left _ (hschedule ▸ h))
  · obtain ⟨hschedule, htrack⟩ := hproper.skills id hskill
    refine htrack.hasProgressLine (fun cost h => ?_) (hschedule ▸ hlevels.2)
    exact hcosts cost (List.mem_append_right _ (hschedule ▸ h))

end Sheet.IsReached

namespace Command

/-! ### Runs of commands -/

/-- A command that creates a character, and how it is run. -/
structure Creation where
  here : Surroundings
  verbose : Bool
  name : String
  pronouns : String
  power : String
  age : Int
  force : Bool
  manifest : String

/-- A command that gives points to a statistic of a character or takes them back, and how it is run.
-/
structure Order where
  here : Surroundings
  verbose : Bool
  direction : Direction
  stat : String
  points : Nat
  manifest : String

namespace Creation

def command (new : Creation) : Command :=
  .create new.name new.pronouns new.power new.age new.force new.manifest

/-- The run of the command. -/
def run (new : Creation) (files : FileTree) : Run :=
  Command.run new.here files new.verbose new.command

/-- Who is created. -/
def identity (new : Creation) : Identity :=
  { Identity.blank with
    name := new.name, pronouns := new.pronouns, power := new.power, age := new.age }

/-- An age that comes from a command line can be read back. -/
theorem fits_age {new : Creation} {words : List String}
    (h : read words = some (.run new.verbose new.command)) : Decimal.fits new.age :=
  fits_of_read h new.age (by simp [command, integers])

end Creation

namespace Order

/-- The command for the character of a name. -/
def command (o : Order) (name : String) : Command :=
  .change o.direction name o.stat o.points o.manifest

/-- The run of the command for the character of a name. -/
def run (o : Order) (name : String) (files : FileTree) : Run :=
  Command.run o.here files o.verbose (o.command name)

/-- The points of the command, given in memory. -/
def give (s : Session DiceSource) (o : Order) : Session DiceSource :=
  (fun s => (step o.direction (Text.upper o.stat) s).2)^[o.points] s

theorem sheet_give (s : Session DiceSource) (o : Order) :
    (give s o).sheet = (Sheet.moved o.direction (Text.upper o.stat))^[o.points] s.sheet :=
  sheet_iterate_step o.direction (Text.upper o.stat) o.points s

end Order

/-- The files after a character was created and given points. -/
def filesAfter (new : Creation) (files : FileTree) (orders : List Order) : FileTree :=
  orders.foldl (fun files o => (o.run new.name files).state.files) (new.run files).state.files

/-- A session in memory on a new character that is given points and never saved. -/
def inMemory (new : Creation) (c : Content) (dice : DiceSource) (journal : Journal)
    (orders : List Order) : Session DiceSource :=
  orders.foldl Order.give
    (Session.start (newSheet c new.name new.pronouns new.power new.age) dice journal)

variable {new : Creation} {files : FileTree} {directory : Path} {dice : DiceSource}
  {journal : Journal} {orders done : List Order} {o : Order}

theorem filesAfter_concat : filesAfter new files (done ++ [o]) =
    (o.run new.name (filesAfter new files done)).state.files := by
  rw [filesAfter, List.foldl_append]
  rfl

theorem inMemory_concat : inMemory new c dice journal (done ++ [o]) =
    Order.give (inMemory new c dice journal done) o := by
  rw [inMemory, List.foldl_append]
  rfl

theorem identity_inMemory (orders : List Order) :
    (inMemory new c dice journal orders).sheet.identity = new.identity := by
  induction orders using List.reverseRecOn with
  | nil => rfl
  | append_singleton done o ih =>
    rw [inMemory_concat, Order.sheet_give, Sheet.identity_iterate_moved]
    exact ih

theorem isReached_inMemory (hc : c.IsValid) (orders : List Order) :
    (inMemory new c dice journal orders).sheet.IsReached c new.identity := by
  induction orders using List.reverseRecOn with
  | nil => exact Sheet.isReached_start hc new.identity
  | append_singleton done o ih =>
    rw [inMemory_concat, Order.sheet_give]
    exact ih.iterate hc o.direction (Text.upper o.stat) o.points

/-- The name of a file is no way up. -/
theorem fileName_ne_up (name : String) : CharacterFile.fileName name ≠ ".." := by
  intro h
  have hlength := congrArg String.length h
  rw [CharacterFile.fileName, String.length_append] at hlength
  have hsuffix : ".json".length = 5 := by decide
  have hup : "..".length = 2 := by decide
  omega

theorem Keeps.getLast?_eq {loc : Location} (h : Keeps files directory loc sheet) :
    loc.getLast? = some (CharacterFile.fileName sheet.identity.name) :=
  FileTree.getLast?_of_locate_child (fileName_ne_up _) h.located

/-- What the commands leave in the file of the character is what they leave in memory, and they
leave all other files as they were. -/
theorem exists_keeps_filesAfter
    (hproject : project? new.here files new.manifest = some (directory, c))
    (hcreated : (new.run files).ending = .success) (hage : Decimal.fits new.age)
    (hfixed : ∀ done o, done ++ [o] <+: orders →
      project? o.here (filesAfter new files done) o.manifest = some (directory, c))
    (hfits : ∀ done, done <+: orders →
      (Snapshot.ofSheet (inMemory new c dice journal done).sheet).ProgressFits) :
    ∃ loc, ∀ done, done <+: orders →
      (Snapshot.ofSheet (inMemory new c dice journal done).sheet).IsLegible ∧
        Keeps (filesAfter new files done) directory loc (inMemory new c dice journal done).sheet ∧
          FileTree.WritesOnly loc files (filesAfter new files done) := by
  have hc : c.IsValid := by
    obtain ⟨m, -, hserves⟩ := exists_serves_of_project? hproject
    exact hserves.isValid
  obtain ⟨hwritable, loc, hkeeps, honly⟩ := files_run_create hproject hcreated
  have hwho : new.identity.IsLegible := by
    refine ⟨Snapshot.hasHalf_eq_false_iff.mp hwritable.hasHalf, ?_⟩
    have hzero : Decimal.fits 0 := Decimal.fits_of_natAbs_lt_hundred (by decide)
    intro n hn
    simp only [List.mem_cons, List.not_mem_nil, or_false] at hn
    rcases hn with rfl | rfl | rfl | rfl
    · exact hzero
    · exact hage
    · exact hzero
    · exact hzero
  refine ⟨loc, fun done hdone => ?_⟩
  have hlegible (done : List Order) (hdone : done <+: orders) :
      (Snapshot.ofSheet (inMemory new c dice journal done).sheet).IsLegible :=
    (isReached_inMemory hc done).isLegible hc hwho (hfits done hdone)
  refine ⟨hlegible done hdone, ?_⟩
  induction done using List.reverseRecOn with
  | nil => exact ⟨hkeeps, honly⟩
  | append_singleton done o ih =>
    have hbefore := (List.prefix_append done [o]).trans hdone
    obtain ⟨hkept, hwritten⟩ := ih hbefore
    have hnext := (hlegible (done ++ [o]) hdone).isWritable
    rw [inMemory_concat, Order.sheet_give] at hnext
    obtain ⟨hafter, honly'⟩ := files_run_change (hfixed done o hdone)
      (isReached_inMemory hc done) (hlegible done hbefore) hkept o.direction o.stat o.points hnext
    rw [filesAfter_concat, inMemory_concat, Order.sheet_give]
    exact ⟨hafter, hwritten.trans honly'⟩

/-- A project stays what it was at the beginning if its own files do not have the name of the
character's file. -/
theorem project?_filesAfter
    (hproject : project? new.here files new.manifest = some (directory, c))
    (hcreated : (new.run files).ending = .success) (hage : Decimal.fits new.age)
    (hapart : ∀ o ∈ orders, project? o.here files o.manifest = some (directory, c) ∧
      IsApart o.here files o.manifest (CharacterFile.fileName new.name))
    (hfits : ∀ done, done <+: orders →
      (Snapshot.ofSheet (inMemory new c dice journal done).sheet).ProgressFits)
    (hdone : done ++ [o] <+: orders) :
    project? o.here (filesAfter new files done) o.manifest = some (directory, c) := by
  induction hlength : done.length using Nat.strong_induction_on generalizing done o with
  | h n ih =>
    have hbefore := (List.prefix_append done [o]).trans hdone
    -- up to here the project has stayed what it was, so only the file of the character was written
    have hfixed : ∀ done' o', done' ++ [o'] <+: done →
        project? o'.here (filesAfter new files done') o'.manifest = some (directory, c) := by
      intro done' o' hdone'
      have hless : done'.length < n := by
        have hle := hdone'.length_le
        rw [List.length_append, List.length_singleton] at hle
        omega
      exact ih done'.length hless (hdone'.trans hbefore) rfl
    obtain ⟨place, hplaces⟩ := exists_keeps_filesAfter hproject hcreated hage hfixed
      fun done' hdone' => hfits done' (hdone'.trans hbefore)
    obtain ⟨-, hkeeps, honly⟩ := hplaces done (List.prefix_refl done)
    obtain ⟨ho, hfiles⟩ := hapart o (hdone.subset (by simp))
    refine project?_of_writesOnly ho hfiles ?_ honly
    have hname := hkeeps.getLast?_eq
    rw [identity_inMemory] at hname
    exact hname

/-- Saving and loading between commands cannot be seen: after each command the file of the character
holds the sheet that was given the same points in memory, and the files of characters with another
file name are as they were before the first command. -/
theorem loadSnapshot_filesAfter (new : Creation) (files : FileTree) (dice : DiceSource)
    (journal : Journal)
    (hproject : project? new.here files new.manifest = some (directory, c))
    (hcreated : (new.run files).ending = .success) (hage : Decimal.fits new.age)
    (hfixed : ∀ done o, done ++ [o] <+: orders →
      project? o.here (filesAfter new files done) o.manifest = some (directory, c))
    (hfits : ∀ done, done <+: orders →
      (Snapshot.ofSheet (inMemory new c dice journal done).sheet).ProgressFits)
    (hdone : done <+: orders) :
    CharacterFile.loadSnapshot (filesAfter new files done)
        (CharacterFile.pathOf directory new.name) =
          .ok (.ofSheet (inMemory new c dice journal done).sheet) ∧
      ∀ name, CharacterFile.fileName name ≠ CharacterFile.fileName new.name → ∀ loc,
        (filesAfter new files done).locate (CharacterFile.pathOf directory name) = .ok loc →
          ∀ content, (filesAfter new files done).get? loc = some (.file content) ↔
            files.get? loc = some (.file content) := by
  obtain ⟨place, hplaces⟩ := exists_keeps_filesAfter hproject hcreated hage hfixed hfits
  obtain ⟨hlegible, hkeeps, honly⟩ := hplaces done hdone
  constructor
  · have hload := hkeeps.loadSnapshot hlegible
    rw [identity_inMemory] at hload
    exact hload
  · intro name hname loc hloc
    refine honly.files loc ?_
    rintro rfl
    have hself := hkeeps.getLast?_eq
    rw [identity_inMemory, FileTree.getLast?_of_locate_child (fileName_ne_up name) hloc] at hself
    exact hname (Option.some.inj hself)

/-! ### A small project -/

/-- A manifest that says nothing, and content with one attribute that has two levels. -/
def smallFiles : FileTree :=
  ⟨[(["charsheet.toml"], .file (.text "")),
    (["gamedata.yaml"], .file (.text
      "attributeLevelUpPoints: [1, 2]\nattributeGroups:\n- attributes:\n    STR: \x7b\x7d"))]⟩

def smallContent : Content :=
  { Content.empty with
    attributeSchedule := [1, 2]
    groups := [⟨"", [⟨"STR", "", "", []⟩]⟩] }

def smallDirectory : Path := ⟨.root, [".charsheet", "characters"]⟩

def smallHere : Surroundings := ⟨⟨.root, []⟩, 0⟩

def smallCreation : Creation := ⟨smallHere, false, "ann", "", "", 18, false, "charsheet.toml"⟩

/-- The second command names no statistic. -/
def smallOrders : List Order :=
  [⟨smallHere, false, .up, "str", 2, "charsheet.toml"⟩,
    ⟨smallHere, true, .up, "luck", 1, "charsheet.toml"⟩,
    ⟨smallHere, false, .down, "STR", 1, "charsheet.toml"⟩]

theorem findManifest_small :
    findManifest smallHere smallFiles "charsheet.toml" = .ok (.default ⟨.root, []⟩) := by
  have hopen : smallFiles.open? ⟨.root, ["charsheet.toml"]⟩ = .ok (.file (.text "")) :=
    rfl
  have hpath : manifestPath smallHere "charsheet.toml" = ⟨.root, ["charsheet.toml"]⟩ := rfl
  have hrefusal : FileTree.refusal? (Path.ofText "charsheet.toml") = none := rfl
  simp [findManifest, hpath, hrefusal, Manifest.find, FileTree.exists?, FileTree.ask, Manifest.load,
    FileTree.readText, hopen, Text.unifyLines, Manifest.ofText_empty, Path.parent]

theorem load_small :
    (ContentFile.load smallFiles ⟨.root, ["gamedata.yaml"]⟩).toOption.map Prod.fst =
      some smallContent := by
  decide +kernel

theorem content?_small {m : Manifest} {path : Path}
    (hm : findManifest smallHere smallFiles "charsheet.toml" = .ok m)
    (hpath : m.content? = some path) : path = ⟨.root, ["gamedata.yaml"]⟩ := by
  rw [findManifest_small] at hm
  cases hm
  exact (Option.some.inj hpath).symm

theorem project?_small :
    project? smallHere smallFiles "charsheet.toml" = some (smallDirectory, smallContent) := by
  have hcharacters : (Manifest.default ⟨.root, []⟩).characters? = some smallDirectory := rfl
  have hpath : (Manifest.default ⟨.root, []⟩).content? = some ⟨.root, ["gamedata.yaml"]⟩ := rfl
  obtain ⟨⟨content, remarks⟩, hloaded, rfl⟩ := Option.map_eq_some_iff.mp load_small
  rw [project?, findManifest_small]
  simp [Except.toOption, hcharacters, hpath, toOption_eq_some_iff.mp hloaded]

theorem fileName_ann : CharacterFile.fileName "ann" = "ann.json" := by
  have hlower : Text.lower (Text.strip "ann") = "ann" := by
    rw [Text.lower_of_ascii (by decide)]
    decide
  rw [CharacterFile.fileName, CharacterFile.slug, hlower]
  decide

theorem pathOf_ann : CharacterFile.pathOf smallDirectory "ann" =
    ⟨.root, [".charsheet", "characters", "ann.json"]⟩ := by
  rw [CharacterFile.pathOf, fileName_ann]
  rfl

theorem isApart_small : IsApart smallHere smallFiles "charsheet.toml" "ann.json" where
  manifest_file := ⟨["charsheet.toml"], .text "", rfl, rfl, by decide⟩
  content_file m path loc hm hpath hloc := by
    obtain rfl := content?_small hm hpath
    have hplace : smallFiles.locate ⟨.root, ["gamedata.yaml"]⟩ = .ok ["gamedata.yaml"] := rfl
    rw [hplace] at hloc
    cases hloc
    decide

/-- The sheet of the small content with its one track. -/
def smallSheet (t : Track) : Sheet :=
  ⟨smallCreation.identity, [⟨"STR", "STR", "", t, []⟩], [], [], []⟩

theorem upper_str : Text.upper "str" = "STR" := Text.upper_of_ascii (by decide)

theorem upper_STR : Text.upper "STR" = "STR" := Text.upper_of_ascii (by decide)

theorem ofContent_small : Sheet.ofContent smallContent =
    ⟨.blank, [⟨"STR", "STR", "", .start [1, 2], []⟩], [], [], []⟩ := by
  have hattribute : Sheet.attributeOf smallContent ⟨"STR", "", "", []⟩ =
      ⟨"STR", "STR", "", .start [1, 2], []⟩ := by
    simp only [Sheet.attributeOf, upper_STR]
    rfl
  have hcontent : Sheet.ofContent smallContent =
      ⟨.blank, [Sheet.attributeOf smallContent ⟨"STR", "", "", []⟩], [], [], []⟩ := rfl
  rw [hcontent, hattribute]

theorem newSheet_small : newSheet smallContent "ann" "" "" 18 = smallSheet (.start [1, 2]) := by
  rw [newSheet, ofContent_small]
  rfl

theorem ending_run_small : (smallCreation.run smallFiles).ending = .success := by
  have htaken : smallFiles.exists? (CharacterFile.pathOf smallDirectory "ann") = .ok false := by
    rw [pathOf_ann]
    rfl
  have hsave : (CharacterFile.save smallFiles (CharacterFile.pathOf smallDirectory "ann")
      (newSheet smallContent "ann" "" "" 18)).1 = .ok () := by
    rw [pathOf_ann, newSheet_small, ← toOption_eq_some_iff]
    decide +kernel
  have hshown := Markup.isShown_createdLine "ann"
    (CharacterFile.pathOf smallDirectory "ann").text (by decide +kernel) (by
      rw [pathOf_ann]
      decide +kernel)
  exact ending_run_create project?_small htaken rfl hsave hshown

theorem moved_smallSheet (d : Direction) (id : String) (t : Track) :
    (smallSheet t).moved d id = smallSheet (if id = "STR" then (d.move? t).getD t else t) := by
  have hfamily : (smallSheet t).statistics = [.ofAttribute ⟨"STR", "STR", "", t, []⟩] := rfl
  by_cases hid : id = "STR"
  · have htrack : (smallSheet t).track? id = some t := by
      simp [Sheet.track?, Sheet.statistic?, hfamily, hid, Statistic.id, Statistic.track?]
    rw [Sheet.moved, htrack, Option.bind_some, if_pos hid]
    cases d.move? t with
    | none => rfl
    | some next => simp [smallSheet, Sheet.setTrack, Sheet.mapTracks, Sheet.mapFamily, hid]
  · have htrack : (smallSheet t).track? id = none := by
      simp [Sheet.track?, Sheet.statistic?, hfamily, Statistic.id, Ne.symm hid]
    rw [Sheet.moved_of_track?_eq_none htrack, if_neg hid]

theorem snapshot_small (dice : DiceSource) (journal : Journal) :
    Snapshot.ofSheet (inMemory smallCreation smallContent dice journal smallOrders).sheet =
      ⟨1, smallCreation.identity, [("STR", ⟨1, 0⟩)], []⟩ := by
  have hluck : Text.upper "luck" = "LUCK" := Text.upper_of_ascii (by decide)
  have hstart : (inMemory smallCreation smallContent dice journal []).sheet =
      smallSheet (.start [1, 2]) := newSheet_small
  have hthree (o₁ o₂ o₃ : Order) :
      (inMemory smallCreation smallContent dice journal [o₁, o₂, o₃]).sheet =
        (Sheet.moved o₃.direction (Text.upper o₃.stat))^[o₃.points]
          ((Sheet.moved o₂.direction (Text.upper o₂.stat))^[o₂.points]
            ((Sheet.moved o₁.direction (Text.upper o₁.stat))^[o₁.points]
              (inMemory smallCreation smallContent dice journal []).sheet)) := by
    simp only [inMemory, List.foldl_cons, List.foldl_nil, Order.sheet_give]
  have hsheet := hthree ⟨smallHere, false, .up, "str", 2, "charsheet.toml"⟩
    ⟨smallHere, true, .up, "luck", 1, "charsheet.toml"⟩
    ⟨smallHere, false, .down, "STR", 1, "charsheet.toml"⟩
  rw [upper_str, hluck, upper_STR, hstart] at hsheet
  rw [smallOrders, hsheet]
  simp only [Function.iterate_succ_apply, Function.iterate_zero_apply, moved_smallSheet]
  decide

/-- The costs of the small content and its numbers of levels can be read back. -/
theorem fits_small :
    (∀ cost ∈ smallContent.attributeSchedule ++ smallContent.skillSchedule, Decimal.fits cost) ∧
      Decimal.fits smallContent.attributeSchedule.length ∧
        Decimal.fits smallContent.skillSchedule.length := by
  have htwo : Decimal.fits 2 := Decimal.fits_of_natAbs_lt_hundred (by decide)
  have hsmall (n : Int) (hn : n.natAbs ≤ 2) : Decimal.fits n := Decimal.fits_of_natAbs_le htwo hn
  refine ⟨fun cost hcost => ?_, hsmall _ (by decide), hsmall _ (by decide)⟩
  rcases (by simpa [smallContent, Content.empty] using hcost : cost = 1 ∨ cost = 2) with rfl | rfl
  · exact hsmall 1 (by decide)
  · exact htwo

/-- What three commands leave in the file of a character. -/
theorem loadSnapshot_filesAfter_small :
    CharacterFile.loadSnapshot (filesAfter smallCreation smallFiles smallOrders)
        (CharacterFile.pathOf smallDirectory "ann") =
          .ok ⟨1, smallCreation.identity, [("STR", ⟨1, 0⟩)], []⟩ := by
  have hage : Decimal.fits smallCreation.age := Decimal.fits_of_natAbs_lt_hundred (by decide)
  have hfits : ∀ done, done <+: smallOrders → (Snapshot.ofSheet
      (inMemory smallCreation smallContent (.ofSeed 0) .empty done).sheet).ProgressFits := by
    have hc : smallContent.IsValid := by
      obtain ⟨m, -, hserves⟩ := exists_serves_of_project? project?_small
      exact hserves.isValid
    intro done _
    exact (isReached_inMemory hc done).progressFits fits_small.1 fits_small.2
  have hapart : ∀ o ∈ smallOrders,
      project? o.here smallFiles o.manifest = some (smallDirectory, smallContent) ∧
        IsApart o.here smallFiles o.manifest (CharacterFile.fileName smallCreation.name) := by
    have hone : IsApart smallHere smallFiles "charsheet.toml" (CharacterFile.fileName "ann") := by
      rw [fileName_ann]
      exact isApart_small
    simp only [smallOrders, List.mem_cons, List.not_mem_nil, or_false]
    rintro o (rfl | rfl | rfl)
    · exact ⟨project?_small, hone⟩
    · exact ⟨project?_small, hone⟩
    · exact ⟨project?_small, hone⟩
  have hfixed : ∀ done o, done ++ [o] <+: smallOrders →
      project? o.here (filesAfter smallCreation smallFiles done) o.manifest =
        some (smallDirectory, smallContent) :=
    fun done o hdone => project?_filesAfter project?_small ending_run_small hage hapart hfits hdone
  have hloaded := (loadSnapshot_filesAfter smallCreation smallFiles (.ofSeed 0) .empty
    project?_small ending_run_small hage hfixed hfits (List.prefix_refl smallOrders)).1
  rw [snapshot_small] at hloaded
  exact hloaded

end Command

end Tabletop
