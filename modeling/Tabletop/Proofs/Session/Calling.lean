import Tabletop.Proofs.Evaluation.Locality
import Tabletop.Proofs.Session.Listening

/-!
# What listeners find

A track is moved in stages: its level is assigned, then its points, and then everybody is told of
what has changed. Between the two assignments the track is half moved, but nobody is called there.
Every listener that is called finds the sheet as it stays. If dice show the same face whatever has
been rolled before, it also gets the same from every evaluation as after the move.
-/
namespace Tabletop

/-! ### Evaluations from different states of the dice -/

theorem Evaluated.Alike.eq {x y : Evaluated} (h : x.Alike .same y) : x = y := by
  induction h with
  | literal h | stat h =>
    obtain rfl := h
    rfl
  | @dice _ _ _ _ rolls others h hrolls =>
    obtain rfl := h
    have hsame : List.Forall₂ Eq rolls others := hrolls.imp fun _ _ => Number.int.inj
    rw [List.forall₂_eq_eq_eq] at hsame
    rw [hsame]
  | negation h _ ih =>
    obtain rfl := h
    rw [ih]
  | binary h _ _ ihl ihr =>
    obtain rfl := h
    rw [ihl, ihr]

theorem FormulaResult.eq_of_alike {r r' : FormulaResult}
    (h : Finding.Alike .same (.formula r) (.formula r')) : r = r' := by
  cases h with
  | formula h =>
    cases h with
    | none => rfl
    | some h => rw [h.eq]

variable {σ : Type} {roller : Roller σ} {face : Nat → Int}

/-- Dice that show the same faces give the same results from all states. -/
theorem Roller.Shows.alike (h : roller.Shows face) :
    roller.Alike .same (fun _ _ => True) roller := by
  intro sides s t _
  refine ⟨?_, trivial⟩
  rw [h sides s, h sides t]
  exact Number.Likeness.same.refl _

namespace Sheet

theorem pairNames_self (sheet : Sheet) (names : List String) : sheet.PairNames sheet Eq names := by
  intro name _
  cases sheet.find? name with
  | none => exact .none
  | some stat => exact .some rfl

/-- Every statistic paired with itself. -/
def pairingSelf (sheet : Sheet) : sheet.Pairing .same sheet where
  rel := Eq
  id_eq h := congrArg Statistic.id h
  level {x _} h := by
    rw [← h]
    cases x.level? with
    | none => exact .none
    | some n => exact .some rfl
  formula_eq h := congrArg Statistic.formula? h
  modifiers_eq h := congrArg (fun stat : Statistic => sheet.modifiersOn stat.id) h
  names _ _ _ := sheet.pairNames_self _

theorem evaluate_eq_of_shows (sheet : Sheet) (hface : roller.Shows face) (name : String)
    {c d : Course σ} (hmarks : c.marks = d.marks) :
    (sheet.evaluate roller name c).1 = (sheet.evaluate roller name d).1 := by
  cases hf : sheet.find? name with
  | none => simp only [evaluate, hf]
  | some stat =>
    obtain ⟨found, d', he, halike, -⟩ := (sheet.evaluates_evaluate roller hf c).hasAlike hface.alike
      sheet.pairingSelf (.statistic rfl) (d := d) ⟨trivial, hmarks⟩
    obtain ⟨rfl, -⟩ := he.unique (sheet.evaluates_evaluate roller hf d)
    cases halike with
    | statistic h => exact h.eq

theorem evaluateFormula_eq_of_shows (sheet : Sheet) (hface : roller.Shows face) (source : String)
    {c d : Course σ} (hmarks : c.marks = d.marks) :
    (sheet.evaluateFormula roller source c).1 = (sheet.evaluateFormula roller source d).1 := by
  obtain ⟨found, d', he, halike, -⟩ :=
    (sheet.evaluates_evaluateFormula roller source c).hasAlike hface.alike sheet.pairingSelf
      (.formula (sheet.pairNames_self _)) (d := d) ⟨trivial, hmarks⟩
  obtain ⟨rfl, -⟩ := he.unique (sheet.evaluates_evaluateFormula roller source d)
  exact FormulaResult.eq_of_alike halike

end Sheet

namespace Session

variable {s t : Session σ}

/-- Sessions on one sheet evaluate a statistic to the same. -/
theorem evaluate_eq_of_shows (hface : roller.Shows face) (h : s.sheet = t.sheet) (name : String) :
    (s.evaluate roller name).1 = (t.evaluate roller name).1 := by
  have hsame := s.sheet.evaluate_eq_of_shows hface name (c := s.course) (d := t.course) rfl
  rw [evaluate, evaluate, ← h]
  exact hsame

theorem evaluateFormula_eq_of_shows (hface : roller.Shows face) (h : s.sheet = t.sheet)
    (source : String) :
    (s.evaluateFormula roller source).1 = (t.evaluateFormula roller source).1 := by
  have hsame := s.sheet.evaluateFormula_eq_of_shows hface source (c := s.course) (d := t.course) rfl
  rw [evaluateFormula, evaluateFormula, ← h]
  exact hsame

end Session

/-! ### Stages of a move -/

/-- The track with one field taken from another one. What is assigned to the level is on the other
schedule. -/
def Track.assign (field : TrackField) (new old : Track) : Track :=
  match field with
  | .level => ⟨new.schedule, new.level, old.points, new.level_le⟩
  | .points => ⟨old.schedule, old.level, new.points, old.level_le⟩

/-- What is done at one time when a track is moved. -/
inductive Stage where
  | assign (stat : String) (field : TrackField) (new : Track)
  | tell (change : Change)

/-- A listener is told of a change, and finds the session like this. -/
structure Call (σ : Type) where
  session : Session σ
  change : Change
  listener : Listener

/-- What the listener was told, and what it finds if it looks at a session. -/
def Call.notice (roller : Roller σ) (session : Session σ) (call : Call σ) : Notice :=
  ⟨call.listener.name, call.change,
    call.listener.watched.map fun name => (session.evaluate roller name).1.final⟩

/-- The calls when listeners are told of a change one after the other. -/
def callsTo (roller : Roller σ) (change : Change) : Session σ → List Listener → List (Call σ)
  | _, [] => []
  | s, l :: rest => ⟨s, change, l⟩ :: callsTo roller change (s.tell roller change l) rest

namespace Stage

/-- The session after the stage. -/
def run (roller : Roller σ) (s : Session σ) : Stage → Session σ
  | assign stat field new =>
    { s with sheet := s.sheet.mapTracks fun id old =>
        if id == stat then new.assign field old else old }
  | tell change => s.announce roller change

/-- The calls during the stage. -/
def calls (roller : Roller σ) (s : Session σ) : Stage → List (Call σ)
  | assign .. => []
  | tell change => callsTo roller change (s.record (.changed change)) (s.audience change.stat)

/-- The calls during stages one after the other. -/
def allCalls (roller : Roller σ) : Session σ → List Stage → List (Call σ)
  | _, [] => []
  | s, stage :: rest => stage.calls roller s ++ allCalls roller (stage.run roller s) rest

/-- The stages of a move. -/
def ofMove (stat : String) (old new : Track) : List Stage :=
  assign stat .level new :: assign stat .points new :: (Track.changes stat old new).map tell

/-- Once both fields are assigned, the track is the new one. -/
theorem run_assign_assign (roller : Roller σ) (s : Session σ) (stat : String) (new : Track) :
    run roller (run roller s (assign stat .level new)) (assign stat .points new) =
      { s with sheet := s.sheet.setTrack stat new } := by
  have htrack : (fun id old => if id == stat then new.assign .points
      (if id == stat then new.assign .level old else old) else
        (if id == stat then new.assign .level old else old)) =
      fun (id : String) (old : Track) => if id == stat then new else old := by
    funext id old
    by_cases h : id == stat <;> simp [h, Track.assign]
  simp only [run, Sheet.mapTracks_mapTracks, htrack, Sheet.setTrack]

/-- The stages of a move are the move. -/
theorem foldl_run_ofMove (roller : Roller σ) (s : Session σ) (stat : String) (old new : Track) :
    (ofMove stat old new).foldl (run roller) s = s.moveTo roller stat old new := by
  rw [ofMove, List.foldl_cons, List.foldl_cons, run_assign_assign, List.foldl_map]
  rfl

/-! ### What is told -/

theorem told_tell (roller : Roller σ) (change : Change) (s : Session σ) (l : Listener) :
    (s.tell roller change l).told = (Call.mk s change l).notice roller s :: s.told := by
  unfold Session.tell Call.notice
  cases l.watched <;> rfl

theorem told_foldl_tell (roller : Roller σ) (change : Change) (s : Session σ) (ls : List Listener) :
    (ls.foldl (Session.tell roller change) s).told =
      ((callsTo roller change s ls).map fun call => call.notice roller call.session).reverse ++
        s.told := by
  induction ls generalizing s with
  | nil => rfl
  | cons l ls ih =>
    rw [List.foldl_cons, ih, told_tell, callsTo, List.map_cons, List.reverse_cons,
      List.append_assoc]
    rfl

theorem told_foldl_run (roller : Roller σ) (stages : List Stage) (s : Session σ) :
    (stages.foldl (run roller) s).told =
      ((allCalls roller s stages).map fun call => call.notice roller call.session).reverse ++
        s.told := by
  induction stages generalizing s with
  | nil => rfl
  | cons stage rest ih =>
    have hstage : (stage.run roller s).told =
        ((stage.calls roller s).map fun call => call.notice roller call.session).reverse ++
          s.told := by
      cases stage with
      | assign stat field new => rfl
      | tell change => exact told_foldl_tell roller change (s.record (.changed change)) _
    rw [List.foldl_cons, ih, hstage, allCalls, List.map_append, List.reverse_append,
      List.append_assoc]

/-- Who is told, and of what, in order. -/
theorem map_callsTo (roller : Roller σ) (change : Change) (s : Session σ) (ls : List Listener) :
    (callsTo roller change s ls).map (fun call => (call.change, call.listener)) =
      ls.map fun l => (change, l) := by
  induction ls generalizing s with
  | nil => rfl
  | cons l ls ih => rw [callsTo, List.map_cons, ih, List.map_cons]

theorem map_allCalls_tell (roller : Roller σ) (changes : List Change) (s : Session σ) :
    (allCalls roller s (changes.map tell)).map (fun call => (call.change, call.listener)) =
      changes.flatMap fun change => (s.audience change.stat).map fun l => (change, l) := by
  induction changes generalizing s with
  | nil => rfl
  | cons change rest ih =>
    have hrest := ih (s.announce roller change)
    simp only [Session.audience_announce] at hrest
    rw [List.map_cons, allCalls, List.map_append, calls, map_callsTo, List.flatMap_cons]
    exact congrArg _ hrest

/-! ### What is found -/

theorem sheet_of_mem_callsTo {change : Change} {s : Session σ} {ls : List Listener} {call : Call σ}
    (h : call ∈ callsTo roller change s ls) : call.session.sheet = s.sheet := by
  induction ls generalizing s with
  | nil => cases h
  | cons l ls ih =>
    rcases List.mem_cons.mp h with rfl | h
    · rfl
    · rw [ih h, Session.sheet_tell]

/-- As long as everybody is only told, everybody finds the same sheet. -/
theorem sheet_of_mem_allCalls_tell {changes : List Change} {s : Session σ} {call : Call σ}
    (h : call ∈ allCalls roller s (changes.map tell)) : call.session.sheet = s.sheet := by
  induction changes generalizing s with
  | nil => cases h
  | cons change rest ih =>
    rcases List.mem_append.mp h with h | h
    · have hfound : call.session.sheet = (s.record (.changed change)).sheet :=
        sheet_of_mem_callsTo h
      exact hfound
    · rw [ih h]
      exact Session.sheet_announce roller s change

/-- In the stages of a move nobody finds another sheet than the one that stays. -/
theorem sheet_of_mem_allCalls_ofMove {s : Session σ} {stat : String} {old new : Track}
    {call : Call σ} (h : call ∈ allCalls roller s (ofMove stat old new)) :
    call.session.sheet = (s.moveTo roller stat old new).sheet := by
  -- nobody is called while the fields are assigned
  have htold := sheet_of_mem_allCalls_tell (h : call ∈ allCalls roller
    (run roller (run roller s (assign stat .level new)) (assign stat .points new)) _)
  rw [run_assign_assign] at htold
  rw [htold, Session.sheet_moveTo]

end Stage

namespace Session

/-- The stages of what is asked of the track of an id; none if it is refused. -/
def stages (s : Session σ) (id : String) (request : TrackRequest) : List Stage :=
  match s.sheet.track? id with
  | none => []
  | some old =>
    if (old.answer request).1 then Stage.ofMove id old (old.answer request).2 else []

theorem foldl_run_stages (roller : Roller σ) (s : Session σ) (id : String)
    (request : TrackRequest) :
    (s.stages id request).foldl (Stage.run roller) s = s.askTrack roller id request := by
  unfold stages
  cases h : s.sheet.track? id with
  | none => exact (askTrack_of_track?_eq_none h request).symm
  | some old =>
    rw [askTrack_eq h]
    dsimp only
    split
    · exact Stage.foldl_run_ofMove roller s id old _
    · rfl

theorem sheet_of_mem_allCalls_stages {s : Session σ} {id : String} {request : TrackRequest}
    {call : Call σ} (h : call ∈ Stage.allCalls roller s (s.stages id request)) :
    call.session.sheet = (s.askTrack roller id request).sheet := by
  unfold stages at h
  cases htrack : s.sheet.track? id with
  | none =>
    rw [htrack] at h
    cases h
  | some old =>
    rw [htrack] at h
    rw [askTrack_eq htrack]
    dsimp only at h
    split at h
    · rename_i hgranted
      rw [if_pos hgranted]
      exact Stage.sheet_of_mem_allCalls_ofMove h
    · cases h

end Session

/-- Whatever the listener looks at when it is called, it finds what stands there in the other
session. -/
structure Call.Finds (call : Call σ) (roller : Roller σ) (session : Session σ) : Prop where
  track : ∀ id, call.session.sheet.track? id = session.sheet.track? id
  statistic : ∀ name, (call.session.evaluate roller name).1 = (session.evaluate roller name).1
  formula : ∀ source,
    (call.session.evaluateFormula roller source).1 = (session.evaluateFormula roller source).1

theorem Call.finds_of_sheet_eq {call : Call σ} {session : Session σ} (hface : roller.Shows face)
    (h : call.session.sheet = session.sheet) : call.Finds roller session where
  track id := by rw [h]
  statistic := Session.evaluate_eq_of_shows hface h
  formula := Session.evaluateFormula_eq_of_shows hface h

theorem Call.Finds.notice_eq {call : Call σ} {session : Session σ}
    (h : call.Finds roller session) :
    call.notice roller call.session = call.notice roller session := by
  simp only [notice, h.statistic]

namespace Session

/-- No listener finds a track half moved. Whatever is asked of a track, it is done in stages that
assign its fields before anybody is called; every call finds what is found after the last of them,
and what listeners have been told is just that, with the values that they would find then. -/
theorem listeners_find_the_end (hface : roller.Shows face) (s : Session σ) (id : String)
    (request : TrackRequest) :
    let after := s.askTrack roller id request
    let calls := Stage.allCalls roller s (s.stages id request)
    (s.stages id request).foldl (Stage.run roller) s = after ∧
      (∀ call ∈ calls, call.Finds roller after) ∧
      after.told = (calls.map (Call.notice roller after)).reverse ++ s.told ∧
      ∀ old, s.sheet.track? id = some old →
        calls.map (fun call => (call.change, call.listener)) =
          (Track.changes id old ((after.sheet.track? id).getD old)).flatMap fun change =>
            (s.audience change.stat).map fun l => (change, l) := by
  intro after calls
  have hafter := s.foldl_run_stages roller id request
  have hfinds : ∀ call ∈ calls, call.Finds roller after := fun call hcall =>
    Call.finds_of_sheet_eq hface (sheet_of_mem_allCalls_stages hcall)
  refine ⟨hafter, hfinds, ?_, ?_⟩
  · have htold := Stage.told_foldl_run roller (s.stages id request) s
    rw [hafter] at htold
    refine htold.trans ?_
    rw [List.map_congr_left fun call hcall => (hfinds call hcall).notice_eq]
  · intro old hold
    have hstages : s.stages id request =
        if (old.answer request).1 then Stage.ofMove id old (old.answer request).2 else [] := by
      rw [stages, hold]
    dsimp only [calls, after]
    rw [hstages, askTrack_eq hold]
    split
    · rw [sheet_moveTo, Sheet.track?_setTrack, if_pos rfl, hold]
      exact Stage.map_allCalls_tell roller _ _
    · rw [hold]
      simp [Stage.allCalls]

/-- A session on the sheet of the fighter with a listener of the sheet that looks at the hit, and
one of strength that looks at strength. -/
def ofWatchedFighter : Session Unit :=
  ((start Sheet.fighter () .empty).listen ⟨"squire", some "HIT"⟩).listenTo "STR"
    ⟨"page", some "STR"⟩

/-- A point that is taken back from strength changes both fields, and all four calls find a level
that has gone down already. -/
theorem listeners_find_the_end_ofWatchedFighter :
    let after := ofWatchedFighter.askTrack (.fixed 3) "STR" .remove
    let calls := Stage.allCalls (.fixed 3) ofWatchedFighter (ofWatchedFighter.stages "STR" .remove)
    (Roller.fixed 3).Shows (fun sides => max 1 (min 3 sides)) ∧ calls.length = 4 ∧
      (∀ call ∈ calls, call.Finds (.fixed 3) after) ∧
      after.notices.map Notice.seen =
        [some (.int 9), some (.int 4), some (.int 9), some (.int 4)] := by
  intro after calls
  have hface : (Roller.fixed 3).Shows (fun sides => max 1 (min 3 sides)) := fun _ _ => rfl
  have hall := listeners_find_the_end hface ofWatchedFighter "STR" .remove
  have hnow : calls.length = 4 ∧ after.notices.map Notice.seen =
      [some (.int 9), some (.int 4), some (.int 9), some (.int 4)] := by decide +kernel
  exact ⟨hface, hnow.1, hall.2.1, hnow.2⟩

end Session

end Tabletop
