import Mathlib.Logic.Relation
import Tabletop.Proofs.Track.Counter
import Tabletop.Session

/-!
# What can be asked of a session

Points are spent and taken back, progress is set, snapshots are restored, and all else on a sheet is
edited. Whatever is asked, a session does nothing but grant requests of tracks one after the other,
write records and edit what is no track. So a law of all runs needs one case for each of these.
-/
namespace Tabletop

/-- What can be asked of a session. -/
inductive SheetRequest where
  | track (id : String) (request : TrackRequest)
  | restore (snapshot : Snapshot)
  | edit (who : Identity) (modifiers : List Modifier) (history : List Check)

/-- The sheet with all but its statistics edited. -/
def Sheet.edit (sheet : Sheet) (who : Identity) (modifiers : List Modifier)
    (history : List Check) : Sheet :=
  { sheet with identity := who, modifiers := modifiers, history := history }

namespace Session

variable {σ : Type}

/-- Ask something of the track of an id. -/
def askTrack (roller : Roller σ) (s : Session σ) (id : String) : TrackRequest → Session σ
  | .add => (s.add roller id).2
  | .remove => (s.remove roller id).2
  | .set level points =>
    match s.sheet.track? id with
    | none => s
    | some old => ((s.setProgress roller id old level points).toOption).getD s

/-- Ask something of a session, which may be refused. -/
def ask (roller : Roller σ) (s : Session σ) : SheetRequest → Session σ
  | .track id request => s.askTrack roller id request
  | .restore snapshot => s.restore roller snapshot
  | .edit who modifiers history => { s with sheet := s.sheet.edit who modifiers history }

/-- The session after requests, some of which may be refused. -/
def after (roller : Roller σ) (s : Session σ) (requests : List SheetRequest) : Session σ :=
  requests.foldl (ask roller) s

/-- The smallest things that a session does when something is asked of it. -/
inductive Acts (roller : Roller σ) : Session σ → Session σ → Prop
  | grant {s : Session σ} {id : String} {old : Track} {request : TrackRequest}
      (h : s.sheet.track? id = some old) (hgranted : (old.answer request).1 = true) :
      Acts roller s (s.moveTo roller id old (old.answer request).2)
  | record {s : Session σ} (r : Record) : Acts roller s (s.record r)
  | edit {s : Session σ} (who : Identity) (modifiers : List Modifier) (history : List Check) :
      Acts roller s { s with sheet := s.sheet.edit who modifiers history }

variable {roller : Roller σ} {s : Session σ}

theorem step_eq (move? : Track → Option Track) {id : String} {old : Track}
    (h : s.sheet.track? id = some old) :
    (step roller move? s id).2 =
      if (old.granted (move? old)).1 then s.moveTo roller id old (old.granted (move? old)).2
      else s := by
  simp only [step, h]
  cases move? old with
  | none => rfl
  | some new => rfl

theorem step_of_track?_eq_none (move? : Track → Option Track) {id : String}
    (h : s.sheet.track? id = none) : (step roller move? s id).2 = s := by
  simp only [step, h]

/-- A request of an id moves its track to the answer, if it has one that grants the request. -/
theorem askTrack_eq {id : String} {old : Track} (h : s.sheet.track? id = some old)
    (request : TrackRequest) :
    s.askTrack roller id request =
      if (old.answer request).1 then s.moveTo roller id old (old.answer request).2 else s := by
  cases request with
  | add => exact step_eq Track.add? h
  | remove => exact step_eq Track.remove? h
  | set level points =>
    have hset : s.askTrack roller id (.set level points) =
        ((old.set? level points).map fun new => s.moveTo roller id old new).toOption.getD s := by
      simp only [askTrack, h, setProgress]
    rw [hset, Track.answer]
    cases old.set? level points with
    | ok new => rfl
    | error e => rfl

theorem askTrack_of_track?_eq_none {id : String} (h : s.sheet.track? id = none)
    (request : TrackRequest) : s.askTrack roller id request = s := by
  cases request with
  | add => exact step_of_track?_eq_none Track.add? h
  | remove => exact step_of_track?_eq_none Track.remove? h
  | set level points => simp only [askTrack, h]

/-! ### What requests come down to -/

theorem acts_askTrack (roller : Roller σ) (s : Session σ) (id : String) (request : TrackRequest) :
    Relation.ReflTransGen (Acts roller) s (s.askTrack roller id request) := by
  cases h : s.sheet.track? id with
  | none =>
    rw [askTrack_of_track?_eq_none h]
  | some old =>
    rw [askTrack_eq h]
    split
    · rename_i hgranted
      exact .single (.grant h hgranted)
    · exact .refl

/-- A saved entry is set like any progress, or it is passed over and recorded. -/
theorem restoreOne_eq (roller : Roller σ) (kind : SavedKind) (s : Session σ)
    (entry : String × Progress) :
    let id := Text.upper entry.1
    restoreOne roller kind s entry =
        s.askTrack roller id (.set entry.2.level entry.2.points) ∨
      ∃ r, restoreOne roller kind s entry = s.record r := by
  intro id
  unfold restoreOne
  dsimp only
  split
  · rename_i old hkind htrack
    simp only [askTrack, id, htrack]
    cases s.setProgress roller (Text.upper entry.1) old entry.2.level entry.2.points with
    | ok next => exact .inl rfl
    | error e => exact .inr ⟨_, rfl⟩
  · exact .inr ⟨_, rfl⟩

theorem acts_restoreOne (roller : Roller σ) (kind : SavedKind) (s : Session σ)
    (entry : String × Progress) :
    Relation.ReflTransGen (Acts roller) s (restoreOne roller kind s entry) := by
  rcases restoreOne_eq roller kind s entry with h | ⟨r, h⟩
  · rw [h]
    exact acts_askTrack roller s _ _
  · rw [h]
    exact .single (.record r)

theorem acts_foldl {α : Type} {f : Session σ → α → Session σ}
    (hf : ∀ s a, Relation.ReflTransGen (Acts roller) s (f s a)) (as : List α) (s : Session σ) :
    Relation.ReflTransGen (Acts roller) s (as.foldl f s) := by
  refine List.foldlRecOn as f .refl ?_
  exact fun t ht a _ => ht.trans (hf t a)

theorem acts_restore (roller : Roller σ) (s : Session σ) (snapshot : Snapshot) :
    Relation.ReflTransGen (Acts roller) s (s.restore roller snapshot) := by
  have hidentity : Acts roller s
      { s with sheet := { s.sheet with identity := snapshot.identity } } :=
    .edit snapshot.identity s.sheet.modifiers s.sheet.history
  have hattributes := acts_foldl (acts_restoreOne roller .attributes) snapshot.attributes
    { s with sheet := { s.sheet with identity := snapshot.identity } }
  exact (hattributes.head hidentity).trans (acts_foldl (acts_restoreOne roller .skills) _ _)

theorem acts_ask (roller : Roller σ) (s : Session σ) (request : SheetRequest) :
    Relation.ReflTransGen (Acts roller) s (s.ask roller request) := by
  cases request with
  | track id request => exact acts_askTrack roller s id request
  | restore snapshot => exact acts_restore roller s snapshot
  | edit who modifiers history => exact .single (.edit who modifiers history)

theorem acts_after (roller : Roller σ) (s : Session σ) (requests : List SheetRequest) :
    Relation.ReflTransGen (Acts roller) s (s.after roller requests) :=
  acts_foldl (acts_ask roller) requests s

end Session

end Tabletop
