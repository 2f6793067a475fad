import Mathlib.Logic.Function.Iterate
import Tabletop.Command.Run
import Tabletop.Proofs.Session

/-!
# Points in a direction

A point in a direction moves one track of the sheet, or nothing if the track is at its end or there
is no such track. So to repeat a step until it fails is to try it as often as it was asked for, and
on a sheet whose tracks are proper they stay proper.
-/
namespace Tabletop

namespace Direction

/-- One point in a direction. -/
def move? : Direction → Track → Option Track
  | up => Track.add?
  | down => Track.remove?

/-- What is asked of a track. -/
def request : Direction → TrackRequest
  | up => .add
  | down => .remove

theorem answer_request (d : Direction) (t : Track) :
    t.answer d.request = t.granted (d.move? t) := by
  cases d <;> rfl

end Direction

namespace Sheet

variable {c : Content} {who : Identity} {sheet : Sheet}

/-- A sheet after one point in a direction. -/
def moved (d : Direction) (id : String) (sheet : Sheet) : Sheet :=
  match (sheet.track? id).bind d.move? with
  | some next => sheet.setTrack id next
  | none => sheet

theorem moved_of_track?_eq_none {d : Direction} {id : String} (h : sheet.track? id = none) :
    sheet.moved d id = sheet := by
  rw [moved, h]
  rfl

/-- Points do not change who it is. -/
theorem identity_iterate_moved (d : Direction) (id : String) (n : Nat) (sheet : Sheet) :
    ((moved d id)^[n] sheet).identity = sheet.identity := by
  induction n with
  | zero => rfl
  | succ n ih =>
    rw [Function.iterate_succ_apply', moved]
    split
    · exact ih
    · exact ih

/-- The sheet of content for somebody, with all tracks where additions and removals can lead. -/
def IsReached (c : Content) (who : Identity) (sheet : Sheet) : Prop :=
  ∃ tracks, AreProper c tracks ∧ sheet = ofTracks c who tracks

theorem isReached_start (hc : c.IsValid) (who : Identity) :
    IsReached c who { ofContent c with identity := who } :=
  ⟨newTracks c, areProper_newTracks hc, ofContent_eq_ofTracks hc who⟩

theorem IsReached.identity_eq (h : IsReached c who sheet) : sheet.identity = who := by
  obtain ⟨tracks, -, rfl⟩ := h
  exact identity_ofTracks

/-- Only attributes and skills of the content have tracks. -/
theorem IsReached.mem_keys (h : IsReached c who sheet) {id : String} {t : Track}
    (ht : sheet.track? id = some t) : id ∈ c.attributeKeys ++ c.skillKeys := by
  obtain ⟨tracks, -, rfl⟩ := h
  rw [track?_ofTracks] at ht
  by_contra hmissing
  rw [if_neg hmissing] at ht
  cases ht

theorem IsReached.moved (hc : c.IsValid) (d : Direction) (id : String) (h : IsReached c who sheet) :
    IsReached c who (sheet.moved d id) := by
  obtain ⟨tracks, hproper, rfl⟩ := h
  by_cases hid : id ∈ c.attributeKeys ++ c.skillKeys
  · have hanswer := (hproper.isProper hid).answer (hproper.costs hc hid) d.request
    rw [d.answer_request] at hanswer
    rw [Sheet.moved, track?_ofTracks, if_pos hid, Option.bind_some]
    cases hmove : d.move? (tracks id) with
    | none => exact ⟨tracks, hproper, rfl⟩
    | some next =>
      rw [hmove] at hanswer
      exact ⟨_, hproper.update hanswer.1 hanswer.2, setTrack_ofTracks id next⟩
  · rw [moved_of_track?_eq_none (by rw [track?_ofTracks, if_neg hid])]
    exact ⟨tracks, hproper, rfl⟩

theorem IsReached.iterate (hc : c.IsValid) (d : Direction) (id : String) (n : Nat)
    (h : IsReached c who sheet) : IsReached c who ((Sheet.moved d id)^[n] sheet) := by
  induction n with
  | zero => exact h
  | succ n ih =>
    rw [Function.iterate_succ_apply']
    exact ih.moved hc d id

end Sheet

namespace Command

variable {d : Direction} {id : String} {s : Session DiceSource}

theorem step_eq (d : Direction) (id : String) (s : Session DiceSource) :
    step d id s = Session.step DiceSource.roll d.move? s id := by
  cases d <;> rfl

/-- A step moves the sheet, and one that fails changes nothing at all. -/
theorem sheet_step (d : Direction) (id : String) (s : Session DiceSource) :
    (step d id s).2.sheet = s.sheet.moved d id ∧
      ((step d id s).1 = false → (step d id s).2 = s) := by
  rw [step_eq, Session.step, Sheet.moved]
  cases s.sheet.track? id with
  | none => exact ⟨rfl, fun _ => rfl⟩
  | some old =>
    dsimp only [Option.bind_some]
    cases d.move? old with
    | none => exact ⟨rfl, fun _ => rfl⟩
    | some new => exact ⟨Session.sheet_moveTo _ _ _ _ _, fun h => by cases h⟩

/-- Of a step only changes of its statistic are told. -/
theorem mem_told_step {n : Notice} (h : n ∈ (step d id s).2.told) :
    n ∈ s.told ∨ n.change.stat = id := by
  rw [step_eq, Session.step] at h
  split at h
  · exact .inl h
  · split at h
    · exact .inl h
    · exact Session.mem_told_moveTo h

/-- A step repeated until it fails leads as far as one that is tried every time. -/
theorem sheet_repeatStep (d : Direction) (id : String) (times : Nat) (s : Session DiceSource) :
    (Session.repeatStep (step d id) times s).2.sheet = (Sheet.moved d id)^[times] s.sheet := by
  induction times generalizing s with
  | zero => rfl
  | succ times ih =>
    obtain ⟨hsheet, hfailed⟩ := sheet_step d id s
    rw [Session.repeatStep]
    split
    · rename_i after hstep
      rw [hstep] at hsheet hfailed
      -- after a failure nothing moves any more
      have hfixed : s.sheet.moved d id = s.sheet :=
        hsheet.symm.trans (congrArg Session.sheet (hfailed rfl))
      rw [Function.iterate_fixed hfixed]
      exact hsheet.trans hfixed
    · rename_i after hstep
      rw [hstep] at hsheet
      rw [Function.iterate_succ_apply, ← hsheet]
      exact ih after

theorem mem_told_repeatStep {times : Nat} {n : Notice}
    (h : n ∈ (Session.repeatStep (step d id) times s).2.told) :
    n ∈ s.told ∨ n.change.stat = id := by
  induction times generalizing s with
  | zero => exact .inl h
  | succ times ih =>
    have hstep := @mem_told_step d id s n
    rw [Session.repeatStep] at h
    split at h
    · rename_i after heq
      rw [heq] at hstep
      exact hstep h
    · rename_i after heq
      rw [heq] at hstep
      rcases ih h with htold | hstat
      · exact hstep htold
      · exact .inr hstat

/-- Steps in a session move its sheet. -/
theorem sheet_iterate_step (d : Direction) (id : String) (times : Nat) (s : Session DiceSource) :
    ((fun s => (step d id s).2)^[times] s).sheet = (Sheet.moved d id)^[times] s.sheet := by
  have hone : Function.Semiconj Session.sheet (fun s => (step d id s).2) (Sheet.moved d id) :=
    fun s => (sheet_step d id s).1
  exact hone.iterate_right times s

end Command

end Tabletop
