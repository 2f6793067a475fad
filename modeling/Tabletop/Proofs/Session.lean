import Tabletop.CharacterFile
import Tabletop.Proofs.Session.Listening
import Tabletop.Proofs.Session.Setting
import Tabletop.Proofs.Sheet.Mapping
import Tabletop.Proofs.Sheet.Tracks

/-!
# Snapshots restored

A snapshot of a sheet whose tracks are proper gives the same tracks back when it is restored on
another one of the same content: no entry of it is skipped, and every entry moves its own track
only. So all that is done is to put the ids of the content on their tracks, one after the other.
-/
namespace Tabletop

namespace Session

variable {σ : Type} {c : Content} {who : Identity} {tracks current : String → Track}

/-! ### Restoring -/

theorem savedIds_attributes : savedIds (.ofTracks c who tracks) .attributes = c.attributeKeys :=
  Sheet.map_id_attributes who tracks

theorem savedIds_skills : savedIds (.ofTracks c who tracks) .skills = c.skillKeys :=
  Sheet.map_id_skills who tracks

theorem savedIds_mapTracks (f : String → Track → Track) (sheet : Sheet) (kind : SavedKind) :
    savedIds (sheet.mapTracks f) kind = savedIds sheet kind := by
  cases kind with
  | attributes => simp [savedIds, Sheet.mapTracks, Sheet.mapFamily, Function.comp_def]
  | skills =>
    simp [savedIds, Sheet.skills, Sheet.mapTracks, Sheet.mapFamily, Function.comp_def,
      List.flatMap_map, List.map_flatMap]

/-- Put an id on its track in a table. -/
def put (roller : Roller σ) (tracks : String → Track) (s : Session σ) (id : String) : Session σ :=
  s.moveTo roller id ((s.sheet.track? id).getD (tracks id)) (tracks id)

/-- The sheet takes the track of an id from a table when an entry of it is restored. -/
structure Takes (sheet : Sheet) (tracks : String → Track) (kind : SavedKind) (id : String) :
    Prop where
  saved : id ∈ savedIds sheet kind
  upper : Content.IsUpperId id
  track : ∃ old, sheet.track? id = some old ∧ old.schedule = (tracks id).schedule
  proper : (tracks id).IsProper

variable {kind : SavedKind} {id : String} {sheet : Sheet}

theorem Takes.edit (h : Takes sheet tracks kind id) (modifiers : List Modifier)
    (history : List Check) : Takes (sheet.edit who modifiers history) tracks kind id := by
  cases kind <;> exact ⟨h.saved, h.upper, h.track, h.proper⟩

theorem sheet_put (roller : Roller σ) (tracks : String → Track) (s : Session σ) (id : String) :
    (s.put roller tracks id).sheet = s.sheet.setTrack id (tracks id) :=
  sheet_moveTo _ _ _ _ _

/-- What a sheet takes, it still takes after others have been put on their tracks. -/
theorem Takes.put {roller : Roller σ} {s : Session σ} (h : Takes s.sheet tracks kind id)
    (other : String) : Takes (s.put roller tracks other).sheet tracks kind id := by
  obtain ⟨old, hold, hschedule⟩ := h.track
  rw [sheet_put]
  refine ⟨?_, h.upper, ?_, h.proper⟩
  · rw [Sheet.setTrack, savedIds_mapTracks]
    exact h.saved
  · rw [Sheet.track?_setTrack]
    split
    · rename_i hsame
      exact ⟨tracks other, by rw [← hsame, hold, Option.map_some], by rw [hsame]⟩
    · exact ⟨old, hold, hschedule⟩

/-- An entry that the sheet takes puts its id on the track that was saved. -/
theorem Takes.restoreOne_eq (roller : Roller σ) {s : Session σ}
    (h : Takes s.sheet tracks kind id) :
    restoreOne roller kind s (id, Snapshot.progressOf (tracks id)) = s.put roller tracks id := by
  obtain ⟨old, hold, hschedule⟩ := h.track
  have hpoints : ((Snapshot.progressOf (tracks id)).points : Int) = (tracks id).points :=
    Int.toNat_of_nonneg h.proper.nonneg
  have hset : setProgress roller s id old (Snapshot.progressOf (tracks id)).level
      (Snapshot.progressOf (tracks id)).points = .ok (s.moveTo roller id old (tracks id)) := by
    rw [setProgress, hpoints, Snapshot.progressOf, h.proper.set?_eq_ok hschedule]
    rfl
  unfold restoreOne
  simp only [h.upper.upper_eq, hold, List.contains_iff_mem.mpr h.saved, hset, Session.put,
    Option.getD_some]

/-- Entries of one kind put their ids on the tracks that were saved, one after the other. -/
theorem foldl_restoreOne_eq (roller : Roller σ) {ids : List String} {s : Session σ}
    (h : ∀ id ∈ ids, Takes s.sheet tracks kind id) :
    (ids.map fun id => (id, Snapshot.progressOf (tracks id))).foldl (restoreOne roller kind) s =
      ids.foldl (put roller tracks) s := by
  induction ids generalizing s with
  | nil => rfl
  | cons id ids ih =>
    rw [List.map_cons, List.foldl_cons, (h id List.mem_cons_self).restoreOne_eq]
    exact ih fun other hother => (h other (List.mem_cons_of_mem id hother)).put id

theorem takes_foldl_put (roller : Roller σ) (ids : List String) {s : Session σ}
    (h : Takes s.sheet tracks kind id) :
    Takes (ids.foldl (put roller tracks) s).sheet tracks kind id := by
  refine List.foldlRecOn (motive := fun t : Session σ => Takes t.sheet tracks kind id)
    ids (put roller tracks) h ?_
  exact fun t ht other _ => ht.put other

theorem sheet_foldl_put (roller : Roller σ) (tracks : String → Track) (ids : List String)
    (s : Session σ) :
    (ids.foldl (put roller tracks) s).sheet =
      s.sheet.mapTracks fun id old => if id ∈ ids then tracks id else old := by
  induction ids generalizing s with
  | nil => simp [Sheet.mapTracks_self]
  | cons id ids ih =>
    rw [List.foldl_cons, ih, sheet_put, Sheet.setTrack, Sheet.mapTracks_mapTracks]
    congr 1
    funext other old
    by_cases hsame : other = id <;> simp [hsame]

theorem mem_told_foldl_put {roller : Roller σ} {ids : List String} {s : Session σ} {n : Notice}
    (h : n ∈ (ids.foldl (put roller tracks) s).told) : n ∈ s.told ∨ n.change.stat ∈ ids := by
  refine List.foldlRecOn
    (motive := fun t : Session σ => n ∈ t.told → n ∈ s.told ∨ n.change.stat ∈ ids)
    ids (put roller tracks) (fun hn => .inl hn) (fun t ht id hid hn => ?_) h
  rcases mem_told_moveTo hn with hbefore | hstat
  · exact ht hbefore
  · exact .inr (hstat ▸ hid)

/-- A sheet of the same content takes all proper tracks. -/
theorem takes_ofTracks (hc : c.IsValid) (hcurrent : Sheet.AreProper c current)
    (htracks : Sheet.AreProper c tracks) (hkind : id ∈ savedIds (.ofTracks c who current) kind) :
    Takes (.ofTracks c who current) tracks kind id := by
  have hkey : id ∈ c.attributeKeys ++ c.skillKeys := by
    cases kind with
    | attributes => exact List.mem_append_left _ (savedIds_attributes ▸ hkind)
    | skills => exact List.mem_append_right _ (savedIds_skills ▸ hkind)
  refine ⟨hkind, hc.isUpperId_of_mem hkey, ⟨current id, ?_, hcurrent.schedule_eq htracks hkey⟩,
    htracks.isProper hkey⟩
  rw [Sheet.track?_ofTracks, if_pos hkey]

/-- A snapshot of proper tracks puts the ids of the content on them. -/
theorem restore_ofSheet (roller : Roller σ) (hc : c.IsValid) (hcurrent : Sheet.AreProper c current)
    (htracks : Sheet.AreProper c tracks) {s : Session σ} {now : Identity}
    (hs : s.sheet = (Sheet.ofTracks c now current).edit now s.sheet.modifiers s.sheet.history) :
    s.restore roller (.ofSheet (.ofTracks c who tracks)) =
      (c.attributeKeys ++ c.skillKeys).foldl (put roller tracks)
        { s with sheet := { s.sheet with identity := who } } := by
  let start : Session σ := { s with sheet := { s.sheet with identity := who } }
  have htakes (kind : SavedKind) (id : String)
      (hkind : id ∈ savedIds (.ofTracks c who current) kind) :
      Takes start.sheet tracks kind id := by
    have hstart : start.sheet =
        (Sheet.ofTracks c who current).edit who s.sheet.modifiers s.sheet.history :=
      congrArg (fun sheet : Sheet => { sheet with identity := who }) hs
    rw [hstart]
    exact (takes_ofTracks hc hcurrent htracks hkind).edit s.sheet.modifiers s.sheet.history
  have hattributes := foldl_restoreOne_eq roller fun id (hid : id ∈ c.attributeKeys) =>
    htakes .attributes id (savedIds_attributes ▸ hid)
  have hskills := foldl_restoreOne_eq roller fun id (hid : id ∈ c.skillKeys) =>
    takes_foldl_put roller c.attributeKeys (htakes .skills id (savedIds_skills ▸ hid))
  rw [Sheet.ofSheet_ofTracks, List.foldl_append, ← hskills, ← hattributes]
  rfl

/-- A sheet is restored from its snapshot, and keeps what is not saved. -/
theorem sheet_restore_ofSheet (roller : Roller σ) (hc : c.IsValid)
    (hcurrent : Sheet.AreProper c current) (htracks : Sheet.AreProper c tracks) {s : Session σ}
    {now : Identity}
    (hs : s.sheet = (Sheet.ofTracks c now current).edit now s.sheet.modifiers s.sheet.history) :
    (s.restore roller (.ofSheet (.ofTracks c who tracks))).sheet =
      (Sheet.ofTracks c who tracks).edit who s.sheet.modifiers s.sheet.history := by
  rw [restore_ofSheet roller hc hcurrent htracks hs, sheet_foldl_put, hs]
  have hmoved : (Sheet.ofTracks c who current).mapTracks
      (fun id old => if id ∈ c.attributeKeys ++ c.skillKeys then tracks id else old) =
        .ofTracks c who tracks := by
    rw [Sheet.mapTracks_ofTracks]
    exact Sheet.ofTracks_congr fun id hid => if_pos hid
  exact congrArg (Sheet.edit · who s.sheet.modifiers s.sheet.history) hmoved

/-- A sheet is restored from its snapshot. -/
theorem restored_ofSheet {roller : Roller σ} {dice : σ} {journal : Journal} (hc : c.IsValid)
    (htracks : Sheet.AreProper c tracks) :
    let s := CharacterFile.restored roller c (.ofSheet (.ofTracks c who tracks)) dice journal
    s.sheet = .ofTracks c who tracks ∧
      ∀ n ∈ s.told, n.change.stat ∈ c.attributeKeys ++ c.skillKeys := by
  have hnew := Sheet.areProper_newTracks hc
  have hs : (Session.start (Sheet.ofContent c) dice journal).sheet =
      (Sheet.ofTracks c .blank (Sheet.newTracks c)).edit .blank [] [] :=
    Sheet.ofContent_eq_ofTracks hc .blank
  refine ⟨sheet_restore_ofSheet roller hc hnew htracks hs, fun n hn => ?_⟩
  rw [CharacterFile.restored, restore_ofSheet roller hc hnew htracks hs] at hn
  rcases mem_told_foldl_put hn with hstart | hkey
  · cases hstart
  · exact hkey

end Session

end Tabletop
