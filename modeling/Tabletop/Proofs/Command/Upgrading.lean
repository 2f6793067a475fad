import Tabletop.Proofs.Command.Saving

/-!
# Points for characters of any file

The file of a character may come from elsewhere: from other content, from another program or from
somebody's hand. A command that gives points to one statistic takes from it what the content of the
project admits, and after that the file holds just this, moved on for that one statistic.
-/
namespace Tabletop.Command

open Work

variable {here : Surroundings} {verbose : Bool} {manifest name stat : String} {directory : Path}
  {c : Content} {files : FileTree} {before : Snapshot} {d : Direction} {points : Nat}

/-- What a command that gives points comes to: it fails if there is no track for them, and else it
saves a sheet on which that track has been moved. -/
theorem run_change_spec (verbose : Bool)
    (hproject : project? here files manifest = some (directory, c))
    (hload : CharacterFile.loadSnapshot files (CharacterFile.pathOf directory name) = .ok before)
    (d : Direction) (stat : String) (points : Nat) :
    let w := work here verbose (.change d name stat points manifest)
    ∃ m tracks, Serves m files directory c ∧ Sheet.AreProper c tracks ∧
      (∀ kind, ∀ id ∈ c.keys kind,
        Snapshot.progressOf (tracks id) = before.restored c kind id) ∧
      (Text.upper stat ∉ c.attributeKeys ++ c.skillKeys → Fails w (.start files)) ∧
      (Text.upper stat ∈ c.attributeKeys ++ c.skillKeys →
        let next := (Sheet.moved d (Text.upper stat))^[points] (.ofTracks c before.identity tracks)
        ∃ s, s.files = files ∧ ExceptT.run w (.start files) = ExceptT.run (do
          let _ ← saveCharacter m next
          sayProgress (Text.upper stat) next) s) := by
  intro w
  obtain ⟨m, s, journal, hserves, hfiles, hrun⟩ :=
    exists_run_change verbose hproject hload d stat points
  have hc := hserves.isValid
  obtain ⟨⟨tracks, hproper, hsheet, hprogress⟩, htold⟩ :=
    Session.restored_spec DiceSource.roll (diceOf here m none) journal hc before
  refine ⟨m, tracks, hserves, hproper, hprogress, fun hmissing => ?_, fun hid => ?_⟩
  · rw [Fails, hrun, changeCharacter_of_track?_eq_none m d points
      (by rw [hsheet, Sheet.track?_ofTracks, if_neg hmissing])]
    exact fails_refuse _ s
  · obtain ⟨s', hfiles', hchange⟩ :=
      run_changeCharacter m hc ⟨tracks, hproper, hsheet⟩ htold hid d points s
    rw [hsheet] at hchange
    exact ⟨s', hfiles'.trans hfiles, hrun.trans hchange⟩

/-- A command that gives points successfully has found a track for them, and its file holds all
tracks then, with that one moved on. -/
theorem files_run_change_of_success
    (hproject : project? here files manifest = some (directory, c))
    (hload : CharacterFile.loadSnapshot files (CharacterFile.pathOf directory name) = .ok before)
    (hsuccess :
      (run here files verbose (.change d name stat points manifest)).ending = .success) :
    let after := (run here files verbose (.change d name stat points manifest)).state.files
    Text.upper stat ∈ c.attributeKeys ++ c.skillKeys ∧
    ∃ tracks, Sheet.AreProper c tracks ∧
      (∀ kind, ∀ id ∈ c.keys kind,
        Snapshot.progressOf (tracks id) = before.restored c kind id) ∧
      let moved := (tracks (Text.upper stat)).after (List.replicate points d.request)
      let next := Sheet.ofTracks c before.identity (Function.update tracks (Text.upper stat) moved)
      (Snapshot.ofSheet next).IsLegible ∧
        ∃ loc, Keeps after directory loc next ∧ FileTree.WritesOnly loc files after := by
  have hfine := not_fails_of_success hsuccess
  obtain ⟨m, tracks, hserves, hproper, hprogress, hmissing, hfound⟩ :=
    run_change_spec verbose hproject hload d stat points
  have hid := not_not.mp fun h => hfine (hmissing h)
  obtain ⟨s, rfl, hrun⟩ := hfound hid
  have hc := hserves.isValid
  have hnext := Sheet.IsReached.iterate hc d (Text.upper stat) points
    (⟨tracks, hproper, rfl⟩ : Sheet.IsReached c before.identity _)
  rw [Fails, hrun] at hfine
  rw [run, state_run, hrun]
  rw [Sheet.iterate_moved_ofTracks d hid] at hfine hnext ⊢
  obtain ⟨hwritable, hkeeps⟩ :=
    hserves.files_saveCharacter_bind (fun _ => keepsFiles_sayProgress _ _) hfine
  exact ⟨hid, tracks, hproper, hprogress, hnext.isLegible_of_isWritable hc hwritable, hkeeps⟩

/-- A command that gives points successfully writes the file of the name that it has read, and no
other: with the same identity and with an entry for every attribute and every skill of the content,
where the points have led for the one statistic and what was restored for each other. -/
theorem written_run_change
    (hproject : project? here files manifest = some (directory, c))
    (hload : CharacterFile.loadSnapshot files (CharacterFile.pathOf directory name) = .ok before)
    (hsuccess :
      (run here files verbose (.change d name stat points manifest)).ending = .success) :
    let after := (run here files verbose (.change d name stat points manifest)).state.files
    let path := CharacterFile.pathOf directory before.identity.name
    ∃ changed t saved place,
      Text.upper stat ∈ c.keys changed ∧ t.schedule = c.schedule changed ∧ t.IsProper ∧
      Snapshot.progressOf t = before.restored c changed (Text.upper stat) ∧
      CharacterFile.loadSnapshot after path = .ok saved ∧ saved.identity = before.identity ∧
      (∀ kind, saved.entries kind = (c.keys kind).map fun id =>
        (id, if id = Text.upper stat then
            Snapshot.progressOf (t.after (List.replicate points d.request))
          else before.restored c kind id)) ∧
      after.locate path = .ok place ∧ FileTree.WritesOnly place files after := by
  intro after path
  obtain ⟨hid, tracks, hproper, hprogress, hlegible, place, hkeeps, honly⟩ :=
    files_run_change_of_success hproject hload hsuccess
  obtain ⟨changed, hchanged⟩ := Content.exists_mem_keys hid
  have hsaved := hkeeps.loadSnapshot hlegible
  have hplace := hkeeps.located
  rw [Sheet.identity_ofTracks] at hsaved hplace
  refine ⟨changed, tracks (Text.upper stat), _, place, hchanged,
    hproper.schedule_eq_of_mem hchanged, hproper.isProper hid, hprogress changed _ hchanged, hsaved,
    rfl, fun kind => ?_, hplace, honly⟩
  rw [Sheet.entries_ofSheet]
  refine List.map_congr_left fun id hkey => ?_
  rw [Function.update_apply]
  split
  · rfl
  · rw [hprogress kind id hkey]

/-- Whatever is in the file of a character that can be loaded, a command that gives points to a
statistic successfully leaves it with the same identity and with an entry for every attribute and
every skill of the content: where the points have led for that statistic, and for each other one
what the last of the entries that the content admits said before. No other file is written. -/
theorem loadSnapshot_run_change (here : Surroundings) (verbose : Bool) (d : Direction)
    (points : Nat) (hproject : project? here files manifest = some (directory, c))
    (hload : CharacterFile.loadSnapshot files (CharacterFile.pathOf directory name) = .ok before)
    (hname : CharacterFile.fileName before.identity.name = CharacterFile.fileName name)
    (hsuccess :
      (run here files verbose (.change d name stat points manifest)).ending = .success) :
    let after := (run here files verbose (.change d name stat points manifest)).state.files
    ∃ changed t saved place,
      Text.upper stat ∈ c.keys changed ∧ t.schedule = c.schedule changed ∧ t.IsProper ∧
      Snapshot.progressOf t = before.restored c changed (Text.upper stat) ∧
      CharacterFile.loadSnapshot after (CharacterFile.pathOf directory name) = .ok saved ∧
      saved.identity = before.identity ∧
      (∀ kind, saved.entries kind = (c.keys kind).map fun id =>
        (id, if id = Text.upper stat then
            Snapshot.progressOf (t.after (List.replicate points d.request))
          else before.restored c kind id)) ∧
      after.locate (CharacterFile.pathOf directory name) = .ok place ∧
      ∀ other ≠ place, ∀ content, after.get? other = some (.file content) ↔
        files.get? other = some (.file content) := by
  intro after
  obtain ⟨changed, t, saved, place, hkey, hschedule, hproper, hprogress, hsaved, hidentity,
    hentries, hplace, honly⟩ := written_run_change hproject hload hsuccess
  have hpath : CharacterFile.pathOf directory before.identity.name =
      CharacterFile.pathOf directory name := by
    rw [CharacterFile.pathOf, hname, CharacterFile.pathOf]
  rw [hpath] at hsaved hplace
  exact ⟨changed, t, saved, place, hkey, hschedule, hproper, hprogress, hsaved, hidentity, hentries,
    hplace, honly.files⟩

/-- Points can be given where there is a track for them and a file for the character, and no number
is too long to be read back. -/
theorem ending_run_change {loc : Location} {content : FileContent} (verbose : Bool) (d : Direction)
    (points : Nat) (hproject : project? here files manifest = some (directory, c))
    (hload : CharacterFile.loadSnapshot files (CharacterFile.pathOf directory name) = .ok before)
    (hfile : files.IsFileAt (CharacterFile.pathOf directory before.identity.name) loc content)
    (hid : Text.upper stat ∈ c.attributeKeys ++ c.skillKeys) (hwho : before.identity.IsLegible)
    (hcosts : ∀ cost ∈ c.attributeSchedule ++ c.skillSchedule, Decimal.fits cost)
    (hlevels : Decimal.fits c.attributeSchedule.length ∧ Decimal.fits c.skillSchedule.length) :
    (run here files verbose (.change d name stat points manifest)).ending = .success := by
  obtain ⟨m, tracks, hserves, hproper, -, -, hfound⟩ :=
    run_change_spec verbose hproject hload d stat points
  obtain ⟨s, rfl, hrun⟩ := hfound hid
  have hc := hserves.isValid
  have hnext := Sheet.IsReached.iterate hc d (Text.upper stat) points
    (⟨tracks, hproper, rfl⟩ : Sheet.IsReached c before.identity _)
  have hwritable := (hnext.isLegible hc hwho (hnext.progressFits hcosts hlevels)).isWritable
  rw [← hnext.identity_eq] at hfile
  obtain ⟨after, hsave, -, -⟩ := CharacterFile.exists_save_of_isFileAt hfile hwritable
  obtain ⟨s₁, hrun₁, -⟩ := hserves.run_saveCharacter hsave
  have hplain := Markup.isPlain_of_isUpperId (hc.isUpperId_of_mem hid)
  obtain ⟨_, s₂, hrun₂, -, -⟩ :=
    gives_sayProgress hplain (fun _ ht => hnext.hasProgressLine hcosts hlevels ht) s₁
  rw [run, Work.run, hrun, run_bind_of_ok hrun₁, hrun₂]

/-! ### Files from elsewhere -/

/-- Ann has a strength, written in small letters, and a charisma, which the small content lacks. -/
def annBefore : Snapshot :=
  ⟨1, { Identity.blank with name := "ann" }, [("str", ⟨1, 0⟩), ("CHA", ⟨0, 3⟩)], []⟩

/-- The small project with a file of Ann and a copy of it under the name of Bob. -/
def annFiles : FileTree :=
  ⟨smallFiles.entries ++
    [([".charsheet"], .directory), ([".charsheet", "characters"], .directory),
      ([".charsheet", "characters", "ann.json"], .file (.text annBefore.fileText)),
      ([".charsheet", "characters", "bob.json"], .file (.text annBefore.fileText))]⟩

theorem isLegible_ann : annBefore.IsLegible where
  texts t ht := Snapshot.isWhole_of_ascii ((by decide : ∀ t ∈ [annBefore.identity.name,
    annBefore.identity.pronouns, annBefore.identity.power],
      t.toList.all fun c => c.toNat < 128) t ht)
  numbers n hn := Decimal.fits_of_natAbs_lt_hundred ((by decide : ∀ n ∈ [annBefore.version,
    annBefore.identity.level, annBefore.identity.age, annBefore.identity.wealthWeekly,
      annBefore.identity.wealthRemaining], n.natAbs < 100) n hn)
  entries e he := by
    obtain ⟨htext, hlevel, hpoints⟩ := (by decide : ∀ e ∈ annBefore.attributes ++ annBefore.skills,
      (e.1.toList.all fun c => c.toNat < 128) ∧ (e.2.level : Int).natAbs < 100 ∧
        (e.2.points : Int).natAbs < 100) e he
    exact ⟨Snapshot.isWhole_of_ascii htext, Decimal.fits_of_natAbs_lt_hundred hlevel,
      Decimal.fits_of_natAbs_lt_hundred hpoints⟩
  attributes_nodup := by decide
  skills_nodup := by decide

theorem project?_ann :
    project? smallHere annFiles "charsheet.toml" = some (smallDirectory, smallContent) := by
  refine project?_congr project?_small rfl fun m path hm hpath _ => ?_
  obtain rfl := content?_small hm hpath
  rfl

theorem isFileAt_ann : annFiles.IsFileAt (CharacterFile.pathOf smallDirectory "ann")
    [".charsheet", "characters", "ann.json"] (.text annBefore.fileText) := by
  rw [pathOf_ann]
  exact ⟨rfl, rfl, [".charsheet", "characters"], rfl, rfl⟩

theorem isFileAt_bob : annFiles.IsFileAt (CharacterFile.pathOf smallDirectory "bob")
    [".charsheet", "characters", "bob.json"] (.text annBefore.fileText) := by
  have hlower : Text.lower (Text.strip "bob") = "bob" := by
    rw [Text.lower_of_ascii (by decide)]
    decide
  have hname : CharacterFile.fileName "bob" = "bob.json" := by
    rw [CharacterFile.fileName, CharacterFile.slug, hlower]
    decide
  rw [CharacterFile.pathOf, hname]
  exact ⟨rfl, rfl, [".charsheet", "characters"], rfl, rfl⟩

theorem loadSnapshot_ann :
    CharacterFile.loadSnapshot annFiles (CharacterFile.pathOf smallDirectory "ann") =
      .ok annBefore :=
  CharacterFile.loadSnapshot_of_isFileAt isFileAt_ann isLegible_ann le_rfl

theorem loadSnapshot_bob :
    CharacterFile.loadSnapshot annFiles (CharacterFile.pathOf smallDirectory "bob") =
      .ok annBefore :=
  CharacterFile.loadSnapshot_of_isFileAt isFileAt_bob isLegible_ann le_rfl

theorem keys_small (kind : SavedKind) :
    smallContent.keys kind = if kind = .attributes then ["STR"] else [] := by
  cases kind with
  | attributes => exact congrArg (fun id => [id]) upper_STR
  | skills => rfl

/-- Points can be given to Ann under each name that leads to what was written of her. -/
theorem ending_run_ann (hload :
    CharacterFile.loadSnapshot annFiles (CharacterFile.pathOf smallDirectory name) =
      .ok annBefore) :
    (run smallHere annFiles false (.change .up name "str" 1 "charsheet.toml")).ending =
      .success := by
  have hkey : "STR" ∈ smallContent.keys .attributes := keys_small _ ▸ List.mem_singleton_self _
  exact ending_run_change false .up 1 project?_ann hload isFileAt_ann
    (upper_str ▸ Content.mem_keys hkey)
    ⟨isLegible_ann.texts, fun n hn => isLegible_ann.numbers n (List.mem_cons_of_mem _ hn)⟩
    fits_small.1 fits_small.2

theorem restored_ann : annBefore.restored smallContent .attributes "STR" = ⟨1, 0⟩ := by
  have hcha : Text.upper "CHA" = "CHA" := Text.upper_of_ascii (by decide)
  have hentries : annBefore.entries .attributes =
    [] ++ ("str", ⟨1, 0⟩) :: [("CHA", ⟨0, 3⟩)] := rfl
  have hlater : ∀ x ∈ [("CHA", (⟨0, 3⟩ : Progress))], Text.upper x.1 = Text.upper "str" →
      ¬ x.2.isAdmitted (smallContent.schedule .attributes) := by
    intro x hx hsame
    obtain rfl := List.mem_singleton.mp hx
    rw [upper_str] at hsame
    exact absurd (hcha.symm.trans hsame) (by decide)
  rw [← upper_str]
  exact Snapshot.restored_eq (e := ("str", ⟨1, 0⟩)) hentries (by decide) hlater

/-- The strength of Ann stood at level one without points, and stands at one point then. -/
theorem entries_moved_ann {changed : SavedKind} {t : Track} {saved : Snapshot}
    (hkey : Text.upper "str" ∈ smallContent.keys changed)
    (hschedule : t.schedule = smallContent.schedule changed) (hproper : t.IsProper)
    (hprogress : Snapshot.progressOf t =
      annBefore.restored smallContent changed (Text.upper "str"))
    (hentries : ∀ kind, saved.entries kind = (smallContent.keys kind).map fun id =>
      (id, if id = Text.upper "str" then
          Snapshot.progressOf (t.after (List.replicate 1 Direction.up.request))
        else annBefore.restored smallContent kind id)) :
    saved.attributes = [("STR", ⟨1, 1⟩)] ∧ saved.skills = [] := by
  have hattributes := hentries .attributes
  have hskills := hentries .skills
  rw [keys_small] at hattributes hskills hkey
  cases changed with
  | skills => cases hkey
  | attributes =>
    rw [upper_str, restored_ann] at hprogress
    have ht : t = ⟨[1, 2], 1, 0, by decide⟩ := by
      obtain ⟨schedule, level, spent, hle⟩ := t
      obtain rfl : schedule = [1, 2] := hschedule
      simp only [Snapshot.progressOf, Progress.mk.injEq] at hprogress
      have hnonneg : 0 ≤ spent := hproper.nonneg
      obtain rfl : spent = 0 := by omega
      obtain rfl : level = 1 := hprogress.1
      rfl
    rw [ht, upper_str] at hattributes
    exact ⟨hattributes, hskills⟩

/-- Ann is given a point. -/
theorem loadSnapshot_run_change_ann :
    let after := (run smallHere annFiles false
      (.change .up "ann" "str" 1 "charsheet.toml")).state.files
    project? smallHere annFiles "charsheet.toml" = some (smallDirectory, smallContent) ∧
      CharacterFile.loadSnapshot annFiles (CharacterFile.pathOf smallDirectory "ann") =
        .ok annBefore ∧
      CharacterFile.fileName annBefore.identity.name = CharacterFile.fileName "ann" ∧
      (run smallHere annFiles false (.change .up "ann" "str" 1 "charsheet.toml")).ending =
        .success ∧
      ∃ saved, CharacterFile.loadSnapshot after (CharacterFile.pathOf smallDirectory "ann") =
          .ok saved ∧ saved.identity = annBefore.identity ∧
        saved.attributes = [("STR", ⟨1, 1⟩)] ∧ saved.skills = [] := by
  intro after
  obtain ⟨changed, t, saved, -, hkey, hschedule, hproper, hprogress, hload, hidentity, hentries,
    -⟩ := loadSnapshot_run_change smallHere false .up 1 project?_ann loadSnapshot_ann rfl
      (ending_run_ann loadSnapshot_ann)
  exact ⟨project?_ann, loadSnapshot_ann, rfl, ending_run_ann loadSnapshot_ann, saved, hload,
    hidentity, entries_moved_ann hkey hschedule hproper hprogress hentries⟩

/-- What the content lacks is gone once another statistic was given a point, and a point given to
the copy of a file goes to the original. -/
theorem exists_entry_dropped_and_point_misplaced :
    let ofAnn := (run smallHere annFiles false
      (.change .up "ann" "str" 1 "charsheet.toml")).state.files
    let ofBob := (run smallHere annFiles false
      (.change .up "bob" "str" 1 "charsheet.toml")).state.files
    let pathOf := CharacterFile.pathOf smallDirectory
    project? smallHere annFiles "charsheet.toml" = some (smallDirectory, smallContent) ∧
      (CharacterFile.loadSnapshot annFiles (pathOf "ann") = .ok annBefore ∧
        ("CHA", ⟨0, 3⟩) ∈ annBefore.attributes ∧
        (run smallHere annFiles false (.change .up "ann" "str" 1 "charsheet.toml")).ending =
          .success ∧
        ∃ saved, CharacterFile.loadSnapshot ofAnn (pathOf "ann") = .ok saved ∧
          saved.attributes = [("STR", ⟨1, 1⟩)] ∧ saved.skills = []) ∧
      CharacterFile.loadSnapshot annFiles (pathOf "bob") = .ok annBefore ∧
        (run smallHere annFiles false (.change .up "bob" "str" 1 "charsheet.toml")).ending =
          .success ∧
        CharacterFile.loadSnapshot ofBob (pathOf "bob") = .ok annBefore ∧
        ∃ saved, CharacterFile.loadSnapshot ofBob (pathOf "ann") = .ok saved ∧
          saved.attributes = [("STR", ⟨1, 1⟩)] ∧ saved.skills = [] := by
  intro ofAnn ofBob pathOf
  have hann : annBefore.identity.name = "ann" := rfl
  obtain ⟨_, _, savedAnn, -, hkey, hschedule, hproper, hprogress, hsavedAnn, -, hentries, -⟩ :=
    written_run_change project?_ann loadSnapshot_ann (ending_run_ann loadSnapshot_ann)
  have hmovedAnn := entries_moved_ann hkey hschedule hproper hprogress hentries
  obtain ⟨_, _, savedBob, place, hkey, hschedule, hproper, hprogress, hsavedBob, -, hentries,
    hplace, honly⟩ :=
      written_run_change project?_ann loadSnapshot_bob (ending_run_ann loadSnapshot_bob)
  have hmovedBob := entries_moved_ann hkey hschedule hproper hprogress hentries
  rw [hann] at hsavedAnn hsavedBob hplace
  -- the file of Ann is the one that was written, so the other one is as it was
  obtain rfl := Except.ok.inj ((honly.keeps.locate isFileAt_ann.located).symm.trans hplace)
  have hcopy := CharacterFile.loadSnapshot_of_isFileAt
    (honly.isFileAt isFileAt_bob (by decide)) isLegible_ann le_rfl
  exact ⟨project?_ann, ⟨loadSnapshot_ann, by decide, ending_run_ann loadSnapshot_ann, savedAnn,
    hsavedAnn, hmovedAnn⟩, loadSnapshot_bob, ending_run_ann loadSnapshot_bob, hcopy, savedBob,
    hsavedBob, hmovedBob⟩

end Tabletop.Command
