import Tabletop.Proofs.Command.Running
import Tabletop.Proofs.Session.Restoring

/-!
# Points that commands give

A command that gives points to a statistic or takes them back loads a character, moves the track of
the statistic on its sheet, says what that has done and saves the sheet. What is said can always be
shown, so that all depends on whether there is such a track and whether the sheet can be saved.
-/
namespace Tabletop

namespace Sheet

variable {c : Content} {who : Identity} {tracks : String → Track} {id : String}

/-- A point moves the track of its id alone. -/
theorem moved_ofTracks (d : Direction) (hid : id ∈ c.attributeKeys ++ c.skillKeys) :
    (ofTracks c who tracks).moved d id =
      ofTracks c who (Function.update tracks id ((tracks id).answer d.request).2) := by
  rw [moved, track?_ofTracks, if_pos hid, Option.bind_some, d.answer_request]
  cases d.move? (tracks id) with
  | none =>
    rw [Track.granted, Function.update_eq_self]
  | some next => exact setTrack_ofTracks id next

theorem iterate_moved_ofTracks (d : Direction) (hid : id ∈ c.attributeKeys ++ c.skillKeys)
    (n : Nat) :
    (moved d id)^[n] (ofTracks c who tracks) = ofTracks c who
      (Function.update tracks id ((tracks id).after (List.replicate n d.request))) := by
  induction n generalizing tracks with
  | zero =>
    have hself : Function.update tracks id ((tracks id).after (List.replicate 0 d.request)) =
        tracks := Function.update_eq_self id tracks
    rw [hself]
    rfl
  | succ n ih =>
    rw [Function.iterate_succ_apply, moved_ofTracks d hid, ih, Function.update_idem,
      Function.update_self]
    rfl

/-- On a sheet with tracks, all ids of the content have one. -/
theorem IsReached.exists_track? {sheet : Sheet} (h : sheet.IsReached c who)
    (hid : id ∈ c.attributeKeys ++ c.skillKeys) : ∃ t, sheet.track? id = some t := by
  obtain ⟨tracks, -, rfl⟩ := h
  exact ⟨tracks id, by rw [track?_ofTracks, if_pos hid]⟩

end Sheet

/-- A sheet whose tracks are proper is restored from its snapshot. -/
theorem Session.restored_of_isReached {σ : Type} (roller : Roller σ) (dice : σ) (journal : Journal)
    {c : Content} {who : Identity} {sheet : Sheet} (hc : c.IsValid) (h : sheet.IsReached c who) :
    let s := CharacterFile.restored roller c (.ofSheet sheet) dice journal
    s.sheet = sheet ∧ ∀ n ∈ s.told, n.change.stat ∈ c.attributeKeys ++ c.skillKeys := by
  obtain ⟨tracks, hproper, rfl⟩ := h
  exact restored_ofSheet hc hproper

namespace Command

open Work

variable {here : Surroundings} {verbose : Bool} {manifest name stat : String} {m : Manifest}
  {directory : Path} {c : Content} {s : State} {who : Identity} {sheet : Sheet} {d : Direction}
  {points : Nat} {session : Session DiceSource}

/-! ### What is said -/

/-- What points have done can be said. -/
theorem gives_reportChange {applied : Nat} (hstat : Markup.IsPlain stat.toList)
    (htold : ∀ n ∈ session.told, Markup.IsPlain n.change.stat.toList) (s : State) :
    Gives (reportChange d stat points applied session) s fun _ => True := by
  refine (gives_forM ?_ s).bind fun _ s' _ _ => ?_
  · intro line hline s
    obtain ⟨n, hn, hline⟩ := List.mem_filterMap.mp hline
    obtain ⟨shown, hshown⟩ := Markup.isShown_changeLine hline (htold n (List.mem_reverse.mp hn))
    exact gives_say hshown s
  · split
    · have hlimit : Markup.IsPlain (limit d).toList := by cases d <;> decide
      obtain ⟨shown, hshown⟩ := Markup.isShown_limitLine hstat hlimit
      exact gives_say hshown s'
    · exact ⟨(), s', rfl, rfl, trivial⟩

theorem keepsFiles_sayProgress (id : String) (sheet : Sheet) :
    KeepsFiles (sayProgress id sheet) := by
  unfold sayProgress
  split
  · exact keepsFiles_pure _
  · split
    · exact keepsFiles_say _
    · exact keepsFiles_breakOff _

theorem gives_sayProgress {id : String} (hid : Markup.IsPlain id.toList) {sheet : Sheet}
    (hfits : ∀ t, sheet.track? id = some t → Screen.hasProgressLine t) (s : State) :
    Gives (sayProgress id sheet) s fun _ => True := by
  unfold sayProgress
  split
  · exact ⟨(), s, rfl, rfl, trivial⟩
  · rename_i t ht
    rw [if_pos (hfits t ht)]
    obtain ⟨shown, hshown⟩ := Markup.isShown_progressLine hid
    exact gives_say hshown s

/-! ### Changes on a loaded sheet -/

/-- Without a track there is nothing to give points to. -/
theorem changeCharacter_of_track?_eq_none (m : Manifest) (d : Direction) (points : Nat)
    (h : session.sheet.track? (Text.upper stat) = none) :
    changeCharacter m d stat points session = changeCharacter.refuseStat stat := by
  have hbind : (session.sheet.find? stat).bind Statistic.track? = none := h
  unfold changeCharacter
  split
  · rfl
  · rename_i found hfind
    rw [hfind, Option.bind_some] at hbind
    rw [hbind]
    rfl

/-- What is done once points have been given. -/
def finishChange (m : Manifest) (d : Direction) (id : String) (points applied : Nat)
    (session : Session DiceSource) : Work Unit := do
  follow session
  reportChange d id points applied session
  let _ ← saveCharacter m session.sheet
  sayProgress id session.sheet

theorem changeCharacter_of_track? (m : Manifest) (d : Direction) (points : Nat) {t : Track}
    (h : session.sheet.track? (Text.upper stat) = some t) :
    let given := Session.repeatStep (step d (Text.upper stat)) points (session.listen observer)
    changeCharacter m d stat points session =
      finishChange m d (Text.upper stat) points given.1 given.2 := by
  have hbind : (session.sheet.find? stat).bind Statistic.track? = some t := h
  unfold changeCharacter
  split
  · rename_i hfind
    rw [hfind] at hbind
    cases hbind
  · rename_i found hfind
    have hid : found.id = Text.upper stat := by simpa using List.find?_some hfind
    rw [hfind, Option.bind_some] at hbind
    rw [hbind, hid]
    rfl

/-- What is said before the sheet is saved leaves the files alone. -/
theorem run_finishChange (m : Manifest) {id : String} {applied : Nat}
    (hid : Markup.IsPlain id.toList)
    (htold : ∀ n ∈ session.told, Markup.IsPlain n.change.stat.toList) (s : State) :
    ∃ s', s'.files = s.files ∧ ExceptT.run (finishChange m d id points applied session) s =
      ExceptT.run (saveCharacter m session.sheet >>= fun _ => sayProgress id session.sheet) s' := by
  obtain ⟨_, s₁, -, hfiles₁, hrun₁⟩ := (gives_follow session s).run_bind _
  obtain ⟨_, s₂, -, hfiles₂, hrun₂⟩ := (gives_reportChange hid htold s₁).run_bind _
  exact ⟨s₂, hfiles₂.trans hfiles₁, hrun₁.trans hrun₂⟩

/-- Points for a track are given on the sheet, which is all that is left to be saved. -/
theorem run_changeCharacter (m : Manifest) (hc : c.IsValid)
    (hsheet : session.sheet.IsReached c who)
    (htold : ∀ n ∈ session.told, n.change.stat ∈ c.attributeKeys ++ c.skillKeys)
    (hid : Text.upper stat ∈ c.attributeKeys ++ c.skillKeys) (d : Direction) (points : Nat)
    (s : State) :
    let next := (Sheet.moved d (Text.upper stat))^[points] session.sheet
    ∃ s', s'.files = s.files ∧ ExceptT.run (changeCharacter m d stat points session) s =
      ExceptT.run (saveCharacter m next >>= fun _ => sayProgress (Text.upper stat) next) s' := by
  intro next
  have hplain (id : String) (hid : id ∈ c.attributeKeys ++ c.skillKeys) :=
    Markup.isPlain_of_isUpperId (hc.isUpperId_of_mem hid)
  have hmoved : (Session.repeatStep (step d (Text.upper stat)) points
      (session.listen observer)).2.sheet = next := sheet_repeatStep d (Text.upper stat) points _
  obtain ⟨t, ht⟩ := hsheet.exists_track? hid
  rw [changeCharacter_of_track? m d points ht, ← hmoved]
  refine run_finishChange m (hplain _ hid) (fun n hn => ?_) s
  rcases mem_told_repeatStep hn with hbefore | hstat
  · exact hplain _ (htold n hbefore)
  · exact hplain _ (hstat ▸ hid)

/-! ### Whole commands -/

/-- A command that gives points loads its character first. -/
theorem exists_run_change {files : FileTree} {before : Snapshot} (verbose : Bool)
    (hproject : project? here files manifest = some (directory, c))
    (hload : CharacterFile.loadSnapshot files (CharacterFile.pathOf directory name) = .ok before)
    (d : Direction) (stat : String) (points : Nat) :
    ∃ m s journal, Serves m files directory c ∧ s.files = files ∧
      ExceptT.run (work here verbose (.change d name stat points manifest)) (.start files) =
        ExceptT.run (changeCharacter m d stat points
          (CharacterFile.restored DiceSource.roll c before (diceOf here m none) journal)) s := by
  obtain ⟨m, s₁, hserves, hfiles₁, hrun₁⟩ :=
    (gives_project (s := .start files) verbose hproject).run_bind _
  obtain rfl : s₁.files = files := hfiles₁
  replace hserves : Serves m s₁.files directory c := hserves
  obtain ⟨_, s₂, ⟨journal, rfl⟩, hfiles₂, hrun₂⟩ :=
    (hserves.gives_loadCharacter hload (diceOf here m none)).run_bind _
  exact ⟨m, s₂, journal, hserves, hfiles₂, hrun₁.trans hrun₂⟩

/-- A command that gives points does to the file what the points do to the sheet. -/
theorem files_run_change {files : FileTree} {loc : Location}
    (hproject : project? here files manifest = some (directory, c))
    (hsheet : sheet.IsReached c who) (hlegible : (Snapshot.ofSheet sheet).IsLegible)
    (hkeeps : Keeps files directory loc sheet) (d : Direction) (stat : String) (points : Nat)
    (hwritable :
      (Snapshot.ofSheet ((Sheet.moved d (Text.upper stat))^[points] sheet)).IsWritable) :
    let after := (run here files verbose (.change d who.name stat points manifest)).state.files
    Keeps after directory loc ((Sheet.moved d (Text.upper stat))^[points] sheet) ∧
      FileTree.WritesOnly loc files after := by
  have hload := hkeeps.loadSnapshot hlegible
  rw [hsheet.identity_eq] at hload
  obtain ⟨m, s, journal, hserves, rfl, hrun⟩ :=
    exists_run_change verbose hproject hload d stat points
  have hc := hserves.isValid
  rw [run, state_run, hrun]
  obtain ⟨hrestored, htold⟩ := Session.restored_of_isReached DiceSource.roll
    (diceOf here m none) journal hc hsheet
  by_cases hid : Text.upper stat ∈ c.attributeKeys ++ c.skillKeys
  · obtain ⟨s', hfiles, hchange⟩ :=
      run_changeCharacter m hc (hrestored ▸ hsheet) htold hid d points s
    rw [hrestored] at hchange
    have hnext := hsheet.iterate hc d (Text.upper stat) points
    have hfile := hkeeps
    rw [Keeps, hsheet.identity_eq, ← hnext.identity_eq, ← hfiles] at hfile
    obtain ⟨after, hsave, hafter, honly⟩ :=
      CharacterFile.exists_save_of_isFileAt hfile hwritable
    obtain ⟨s'', hrun', hfiles'⟩ := hserves.run_saveCharacter hsave
    rw [hchange, files_run_bind fun _ => keepsFiles_sayProgress _ _, hrun', hfiles', ← hfiles]
    exact ⟨hafter, honly⟩
  · have hnone : sheet.track? (Text.upper stat) = none := by
      by_contra hsome
      obtain ⟨t, ht⟩ := Option.ne_none_iff_exists'.mp hsome
      exact hid (hsheet.mem_keys ht)
    rw [changeCharacter_of_track?_eq_none m d points (hrestored.symm ▸ hnone),
      Function.iterate_fixed (Sheet.moved_of_track?_eq_none hnone)]
    have hrefuse : KeepsFiles (changeCharacter.refuseStat stat) := keepsFiles_refuse _
    rw [hrefuse s]
    exact ⟨hkeeps, .refl loc s.files⟩

end Command

end Tabletop
