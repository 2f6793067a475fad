import Mathlib.Data.List.Basic
import Tabletop.Proofs.Evaluation.Valuation
import Tabletop.Proofs.Session.Requests
import Tabletop.Proofs.Sheet.Mapping

/-!
# Listeners keep copies

Who starts from a copy of all tracks and writes down every change that is told has the tracks of the
sheet at all times: everything that is changed is told, from the value that was there to another
one, and nothing else is. Every registration of a listener tells it once.
-/
namespace Tabletop

/-! ### Copies -/

/-- The value of a field. -/
def Track.read (t : Track) : TrackField → Int
  | .level => t.level
  | .points => t.points

/-- What a listener keeps of a sheet: the fields of the tracks of all ids. -/
abbrev Copy := String → TrackField → Option Int

/-- A copy of all tracks. -/
def Sheet.copy (sheet : Sheet) : Copy := fun id field =>
  (sheet.track? id).map fun t => t.read field

namespace Copy

/-- Write the new value over the field that has changed. -/
def write (copy : Copy) (e : Change) : Copy := fun id field =>
  if id = e.stat ∧ field = e.field then some e.new else copy id field

/-- Write changes down one after the other; none if one of them is not from the value that is there
to another one. -/
def follow? : Copy → List Change → Option Copy
  | copy, [] => some copy
  | copy, e :: rest =>
    if copy e.stat e.field = some e.old ∧ e.old ≠ e.new then (copy.write e).follow? rest else none

theorem follow?_append (copy : Copy) (events more : List Change) :
    copy.follow? (events ++ more) = (copy.follow? events).bind fun c => c.follow? more := by
  induction events generalizing copy with
  | nil => rfl
  | cons e events ih =>
    simp only [List.cons_append, follow?]
    split
    · exact ih _
    · rfl

end Copy

/-! ### Changes of a track -/

/-- The change of one field between two states of a track, if it is one. -/
def TrackField.changed (field : TrackField) (stat : String) (old new : Track) : List Change :=
  if old.read field = new.read field then []
  else [⟨stat, field, old.read field, new.read field⟩]

namespace Track

variable {stat : String} {old new : Track}

theorem changes_eq (stat : String) (old new : Track) :
    changes stat old new =
      TrackField.level.changed stat old new ++ TrackField.points.changed stat old new := by
  by_cases hlevel : old.level = new.level <;> by_cases hpoints : old.points = new.points <;>
    simp [changes, TrackField.changed, read, hlevel, hpoints]

theorem fields_changed (field : TrackField) (stat : String) (old new : Track) :
    ((field.changed stat old new).map Change.field).Sublist [field] := by
  unfold TrackField.changed
  split
  · exact List.nil_sublist _
  · exact .refl _

/-- Of a track at most its level and its points change, in this order. -/
theorem fields_changes (stat : String) (old new : Track) :
    ((changes stat old new).map Change.field).Sublist [.level, .points] := by
  rw [changes_eq, List.map_append]
  exact (fields_changed .level stat old new).append (fields_changed .points stat old new)

theorem stat_of_mem_changes {e : Change} (h : e ∈ changes stat old new) : e.stat = stat := by
  rw [changes_eq, List.mem_append] at h
  unfold TrackField.changed at h
  rcases h with h | h
  all_goals
    split at h
    · cases h
    · rw [List.mem_singleton.mp h]

theorem changes_eq_nil (h : ∀ field, old.read field = new.read field) :
    changes stat old new = [] := by
  rw [changes_eq, TrackField.changed, TrackField.changed, if_pos (h _), if_pos (h _)]
  rfl

/-- A change is written down, and where there is none the copy has the value already. -/
theorem follow?_changed {copy : Copy} {field : TrackField}
    (h : copy stat field = some (old.read field)) :
    copy.follow? (field.changed stat old new) =
      some (copy.write ⟨stat, field, old.read field, new.read field⟩) := by
  unfold TrackField.changed
  split
  · rename_i hsame
    refine congrArg some (funext fun id => funext fun other => ?_)
    unfold Copy.write
    split
    · rename_i hhere
      rw [hhere.1, hhere.2, h, hsame]
    · rfl
  · rename_i hne
    simp only [Copy.follow?, h, ne_eq, hne, not_false_eq_true, and_self, if_true]

/-- Who writes down the changes of a track keeps up with the sheet. -/
theorem follow?_changes {sheet : Sheet} (h : sheet.track? stat = some old) :
    sheet.copy.follow? (changes stat old new) = some (sheet.setTrack stat new).copy := by
  have hlevel : sheet.copy stat .level = some (old.read .level) := by
    simp only [Sheet.copy, h, Option.map_some]
  have hpoints (e : Change) (he : e.field = .level) :
      sheet.copy.write e stat .points = some (old.read .points) := by
    simp [Copy.write, he, Sheet.copy, h]
  rw [changes_eq, Copy.follow?_append, follow?_changed hlevel, Option.bind_some,
    follow?_changed (hpoints _ rfl)]
  refine congrArg some (funext fun id => funext fun field => ?_)
  unfold Sheet.copy
  rw [Sheet.track?_setTrack]
  by_cases hid : id = stat
  · subst hid
    cases field <;> simp [Copy.write, h]
  · simp [Copy.write, hid]

end Track

/-! ### What listeners hear -/

namespace Session

variable {σ : Type} {roller : Roller σ} {s t u : Session σ}

/-- The changes that listeners of a name were told of, in order. -/
def heard (s : Session σ) (name : String) : List Change :=
  (s.notices.filter fun n => n.listener == name).map Notice.change

/-- How often listeners of a name are registered for changes of a statistic. -/
def registrations (s : Session σ) (name stat : String) : Nat :=
  (s.audience stat).countP fun l => l.name == name

/-- From the first session to the second the events happened: they lead from the tracks of the one
to those of the other, and every registration was told of each. -/
structure Tells (s t : Session σ) (events : List Change) : Prop where
  copy : s.sheet.copy.follow? events = some t.sheet.copy
  heard : ∀ name, t.heard name =
    s.heard name ++ events.flatMap fun e => List.replicate (s.registrations name e.stat) e
  audience : ∀ stat, t.audience stat = s.audience stat

theorem Tells.refl (s : Session σ) : s.Tells s [] :=
  ⟨rfl, fun _ => (List.append_nil _).symm, fun _ => rfl⟩

theorem Tells.registrations_eq {events : List Change} (h : s.Tells t events)
    (name stat : String) : t.registrations name stat = s.registrations name stat := by
  rw [registrations, h.audience, registrations]

theorem Tells.trans {events more : List Change} (h : s.Tells t events) (k : t.Tells u more) :
    s.Tells u (events ++ more) := by
  refine ⟨?_, fun name => ?_, fun stat => (k.audience stat).trans (h.audience stat)⟩
  · rw [Copy.follow?_append, h.copy, Option.bind_some, k.copy]
  · simp only [k.heard, h.heard, h.registrations_eq, List.flatMap_append, List.append_assoc]

/-- What holds when a change has been recorded, and stays while listeners are told of it, holds when
the change has been announced. -/
theorem announce_induction {P : Session σ → Prop} {e : Change}
    (hrecord : P (s.record (.changed e))) (htell : ∀ t l, P t → P (tell roller e t l)) :
    P (announce roller s e) := by
  unfold announce
  exact List.foldlRecOn _ _ hrecord fun t ht l _ => htell t l ht

/-- What holds when a statistic has been put on another track, and stays while the changes of the
track are announced, holds after the move. -/
theorem moveTo_induction {P : Session σ → Prop} {id : String} {old new : Track}
    (hset : P { s with sheet := s.sheet.setTrack id new })
    (hannounce : ∀ t, ∀ e ∈ Track.changes id old new, P t → P (announce roller t e)) :
    P (s.moveTo roller id old new) := by
  unfold moveTo
  exact List.foldlRecOn _ _ hset fun t ht e he => hannounce t e he ht

theorem audience_tell (roller : Roller σ) (e : Change) (s : Session σ) (l : Listener)
    (stat : String) : (tell roller e s l).audience stat = s.audience stat := by
  unfold tell
  split <;> rfl

theorem heard_tell (roller : Roller σ) (e : Change) (s : Session σ) (l : Listener)
    (name : String) :
    (tell roller e s l).heard name = s.heard name ++ if l.name == name then [e] else [] := by
  have htold {seen : Option Number} {after : Session σ} (h : after.told = s.told) :
      heard { after with told := ⟨l.name, e, seen⟩ :: after.told } name =
        s.heard name ++ if l.name == name then [e] else [] := by
    simp only [heard, notices, List.reverse_cons, List.filter_append, List.map_append, h]
    by_cases hname : l.name = name <;> simp [hname]
  unfold tell
  split
  · exact htold rfl
  · exact htold rfl

/-- Everybody in a list is told once for each time that they are in it. -/
theorem heard_foldl_tell (roller : Roller σ) (e : Change) (ls : List Listener) (s : Session σ)
    (name : String) :
    (ls.foldl (tell roller e) s).heard name =
      s.heard name ++ List.replicate (ls.countP fun l => l.name == name) e := by
  induction ls generalizing s with
  | nil => exact (List.append_nil _).symm
  | cons l ls ih =>
    rw [List.foldl_cons, ih, heard_tell, List.append_assoc, List.countP_cons]
    congr 1
    split
    · rw [Nat.add_comm, List.replicate_add]
      rfl
    · rfl

theorem heard_announce (roller : Roller σ) (s : Session σ) (e : Change) (name : String) :
    (announce roller s e).heard name =
      s.heard name ++ List.replicate (s.registrations name e.stat) e :=
  heard_foldl_tell roller e _ _ name

theorem audience_announce (roller : Roller σ) (s : Session σ) (e : Change) (stat : String) :
    (announce roller s e).audience stat = s.audience stat :=
  announce_induction (P := fun t => t.audience stat = s.audience stat) rfl
    fun t l ht => (audience_tell roller e t l stat).trans ht

theorem heard_foldl_announce (roller : Roller σ) (events : List Change) (s : Session σ)
    (name : String) :
    (events.foldl (announce roller) s).heard name =
      s.heard name ++ events.flatMap fun e => List.replicate (s.registrations name e.stat) e := by
  induction events generalizing s with
  | nil => exact (List.append_nil _).symm
  | cons e events ih =>
    simp only [List.foldl_cons, ih, registrations, audience_announce]
    rw [heard_announce, List.flatMap_cons, List.append_assoc]
    rfl

theorem mem_told_tell {roller : Roller σ} {change : Change} {s : Session σ} {l : Listener}
    {n : Notice} (h : n ∈ (tell roller change s l).told) : n ∈ s.told ∨ n.change = change := by
  unfold tell at h
  split at h
  · rcases List.mem_cons.mp h with rfl | hn
    · exact .inr rfl
    · exact .inl hn
  · rcases List.mem_cons.mp h with rfl | hn
    · exact .inr rfl
    · exact .inl hn

theorem mem_told_announce {roller : Roller σ} {s : Session σ} {change : Change} {n : Notice}
    (h : n ∈ (announce roller s change).told) : n ∈ s.told ∨ n.change = change := by
  refine announce_induction (P := fun t => n ∈ t.told → n ∈ s.told ∨ n.change = change)
    (fun hn => .inl hn) (fun t l ht hn => ?_) h
  rcases mem_told_tell hn with hbefore | hchange
  · exact ht hbefore
  · exact .inr hchange

/-- Of a move only changes of the statistic that is moved are told. -/
theorem mem_told_moveTo {roller : Roller σ} {s : Session σ} {stat : String} {old new : Track}
    {n : Notice} (h : n ∈ (s.moveTo roller stat old new).told) :
    n ∈ s.told ∨ n.change.stat = stat := by
  refine moveTo_induction (P := fun t => n ∈ t.told → n ∈ s.told ∨ n.change.stat = stat)
    (fun hn => .inl hn) (fun t change hchange ht hn => ?_) h
  rcases mem_told_announce hn with hbefore | hsame
  · exact ht hbefore
  · exact .inr (hsame ▸ Track.stat_of_mem_changes hchange)

/-! ### What is told of requests -/

/-- A move tells of the changes of its track. -/
theorem tells_moveTo (roller : Roller σ) {id : String} {old : Track} (new : Track)
    (h : s.sheet.track? id = some old) :
    s.Tells (s.moveTo roller id old new) (Track.changes id old new) where
  copy := by
    rw [sheet_moveTo]
    exact Track.follow?_changes h
  heard name := heard_foldl_announce roller _ _ name
  audience stat :=
    moveTo_induction (P := fun t => t.audience stat = s.audience stat) rfl
      fun t e _ ht => (audience_announce roller t e stat).trans ht

theorem Acts.exists_tells (h : Acts roller s t) : ∃ events, s.Tells t events := by
  cases h with
  | grant h _ => exact ⟨_, tells_moveTo roller _ h⟩
  | record r => exact ⟨[], rfl, fun _ => (List.append_nil _).symm, fun _ => rfl⟩
  | edit who modifiers history =>
    exact ⟨[], rfl, fun _ => (List.append_nil _).symm, fun _ => rfl⟩

theorem exists_tells_after (roller : Roller σ) (s : Session σ) (requests : List SheetRequest) :
    ∃ events, s.Tells (s.after roller requests) events := by
  have hacts := acts_after roller s requests
  generalize s.after roller requests = t at hacts
  induction hacts with
  | refl => exact ⟨[], .refl s⟩
  | tail _ hlast ih =>
    obtain ⟨events, hevents⟩ := ih
    obtain ⟨more, hmore⟩ := hlast.exists_tells
    exact ⟨events ++ more, hevents.trans hmore⟩

/-- One request of a track tells of its level first and then of its points, at most once of each,
and only of what has changed. -/
theorem exists_tells_askTrack (roller : Roller σ) (s : Session σ) (id : String)
    (request : TrackRequest) :
    ∃ events, s.Tells (s.askTrack roller id request) events ∧
      (events.map Change.field).Sublist [.level, .points] ∧ (∀ e ∈ events, e.stat = id) ∧
      ((s.askTrack roller id request).sheet.copy = s.sheet.copy → events = []) := by
  have hnothing : ∃ events, s.Tells s events ∧
      (events.map Change.field).Sublist [.level, .points] ∧ (∀ e ∈ events, e.stat = id) ∧
      (s.sheet.copy = s.sheet.copy → events = []) :=
    ⟨[], .refl s, List.nil_sublist _, (fun _ he => nomatch he), fun _ => rfl⟩
  cases h : s.sheet.track? id with
  | none =>
    rw [askTrack_of_track?_eq_none h]
    exact hnothing
  | some old =>
    rw [askTrack_eq h]
    split
    · refine ⟨_, tells_moveTo roller _ h, Track.fields_changes _ _ _,
        fun e he => Track.stat_of_mem_changes he, fun hcopy => Track.changes_eq_nil fun field => ?_⟩
      have hfield := congrFun (congrFun hcopy id) field
      simpa [Sheet.copy, Sheet.track?_setTrack, h] using hfield.symm
    · exact hnothing

/-- All changes of tracks are told, so listeners can keep copies. Whatever is asked of a session,
there is a list of events that leads a copy of the tracks to what they are afterwards, and every
registration is told of each event; one request of a track makes at most one event for each field. A
listener that is registered once has therefore heard all that it needs. -/
theorem listeners_keep_copies (roller : Roller σ) (s : Session σ) :
    (∀ requests, ∃ events, s.Tells (s.after roller requests) events) ∧
    (∀ id request, ∃ events, s.Tells (s.ask roller (.track id request)) events ∧
      (events.map Change.field).Sublist [.level, .points] ∧ (∀ e ∈ events, e.stat = id) ∧
      ((s.ask roller (.track id request)).sheet.copy = s.sheet.copy → events = [])) ∧
    ∀ requests name, (∀ stat, s.registrations name stat = 1) →
      s.sheet.copy.follow? (((s.after roller requests).heard name).drop (s.heard name).length) =
        some (s.after roller requests).sheet.copy := by
  refine ⟨exists_tells_after roller s, exists_tells_askTrack roller s, ?_⟩
  intro requests name hone
  obtain ⟨events, hevents⟩ := exists_tells_after roller s requests
  have hheard : (s.after roller requests).heard name = s.heard name ++ events := by
    simp only [hevents.heard, hone, List.replicate_one, List.flatMap_singleton']
  rw [hheard, List.drop_left, hevents.copy]

/-- A session on the sheet of the fighter, with one listener. -/
def ofFighter : Session Unit := (start Sheet.fighter () .empty).listen ⟨"squire", none⟩

/-- The squire hears of the point that the fighter takes back from strength, in both fields, and
nothing of what is refused after it. -/
theorem listeners_keep_copies_ofFighter :
    let after := ofFighter.after (Roller.fixed 3)
      [.track "STR" .remove, .track "STR" (.set 1 20), .track "HIT" .add]
    let events := [⟨"STR", .level, 2, 1⟩, ⟨"STR", .points, 0, 19⟩]
    (∀ stat, ofFighter.registrations "squire" stat = 1) ∧ after.heard "squire" = events ∧
      ofFighter.sheet.copy.follow? events = some after.sheet.copy := by
  intro after events
  have hone : ∀ stat, ofFighter.registrations "squire" stat = 1 := fun _ => rfl
  have hheard : after.heard "squire" = events := by decide +kernel
  have hcopy := (listeners_keep_copies (Roller.fixed 3) ofFighter).2.2
    [.track "STR" .remove, .track "STR" (.set 1 20), .track "HIT" .add] "squire" hone
  refine ⟨hone, hheard, ?_⟩
  rw [← hheard]
  exact hcopy

end Session

end Tabletop
