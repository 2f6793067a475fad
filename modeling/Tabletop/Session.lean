import Tabletop.Sheet.Checking
import Tabletop.Snapshot

/-!
# Sessions

A session is a sheet in use: with dice, with a journal, and with listeners that are told of every
change of a track. A track is put into its new state first and told of afterwards, the level before
the points, so that a listener that looks at the sheet finds it as it will stay. The listeners of
the whole sheet come before those of the statistic, each group in the order of registration.
-/
namespace Tabletop

/-- Somebody who is told of changes. A watching listener looks up a statistic whenever it is told.
-/
structure Listener where
  name : String
  watched : Option String
  deriving DecidableEq, Repr

/-- What a listener was told, and the value that it found when it looked. -/
structure Notice where
  listener : String
  change : Change
  seen : Option Number
  deriving DecidableEq, Repr

/-- A sheet in use. -/
structure Session (σ : Type) where
  sheet : Sheet
  dice : σ
  journal : Journal
  /-- The listeners of the whole sheet. -/
  listeners : List Listener
  /-- The listeners of single statistics. -/
  statListeners : List (String × Listener)
  /-- What listeners were told, the latest first. -/
  told : List Notice

namespace Session

variable {σ : Type}

/-- A session on a new sheet, which leaves the records of its building. -/
def start (sheet : Sheet) (dice : σ) (journal : Journal) : Session σ :=
  ⟨sheet, dice, journal.addAll sheet.buildRecords, [], [], []⟩

/-- Write a record into the journal. -/
def record (s : Session σ) (r : Record) : Session σ := { s with journal := s.journal.add r }

/-- Write what has been recorded so far off: an empty journal, and nobody has been told anything. -/
def turnPage (s : Session σ) : Session σ := { s with journal := .empty, told := [] }

/-- The notices in the order in which they were given. -/
def notices (s : Session σ) : List Notice := s.told.reverse

/-! ### Evaluation -/

/-- A course of its own for an evaluation. -/
def course (s : Session σ) : Course σ := .fresh s.dice s.journal

/-- Go on after an evaluation. -/
def resume (s : Session σ) (c : Course σ) : Session σ :=
  { s with dice := c.dice, journal := c.journal }

/-- The breakdown of a statistic. -/
def evaluate (s : Session σ) (roller : Roller σ) (name : String) : Breakdown × Session σ :=
  let (b, c) := s.sheet.evaluate roller name s.course
  (b, s.resume c)

/-- The outcome of a formula. -/
def evaluateFormula (s : Session σ) (roller : Roller σ) (source : String) :
    FormulaResult × Session σ :=
  let (r, c) := s.sheet.evaluateFormula roller source s.course
  (r, s.resume c)

/-- Make a check. -/
def check (s : Session σ) (roller : Roller σ) (name : String) (base : Difficulty)
    (advantage bonus : Int) : Except CheckFault (Option Check) × Session σ :=
  let (result, sheet, c) := s.sheet.check roller name base advantage bonus s.course
  (result, { s with sheet := sheet }.resume c)

/-! ### Listeners -/

/-- Tell a listener of a change. -/
def tell (roller : Roller σ) (change : Change) (s : Session σ) (l : Listener) : Session σ :=
  match l.watched with
  | none => { s with told := ⟨l.name, change, none⟩ :: s.told }
  | some name =>
      let (b, s) := s.evaluate roller name
      { s with told := ⟨l.name, change, some b.final⟩ :: s.told }

@[simp] theorem sheet_tell (roller : Roller σ) (change : Change) (s : Session σ) (l : Listener) :
    (tell roller change s l).sheet = s.sheet := by
  unfold tell
  split <;> rfl

/-- Everybody who is told of changes of a statistic, in order. -/
def audience (s : Session σ) (stat : String) : List Listener :=
  s.listeners ++ (s.statListeners.filter fun (id, _) => id == stat).map Prod.snd

/-- Tell everybody of a change. -/
def announce (roller : Roller σ) (s : Session σ) (change : Change) : Session σ :=
  (s.audience change.stat).foldl (tell roller change) (s.record (.changed change))

/-- Listeners change nothing on the sheet. -/
@[simp] theorem sheet_announce (roller : Roller σ) (s : Session σ) (change : Change) :
    (announce roller s change).sheet = s.sheet := by
  have told (ls : List Listener) (s : Session σ) :
      (ls.foldl (tell roller change) s).sheet = s.sheet := by
    induction ls generalizing s with
    | nil => rfl
    | cons l ls ih => rw [List.foldl_cons, ih, sheet_tell]
  exact told _ _

/-- Register a listener of the whole sheet. -/
def listen (s : Session σ) (l : Listener) : Session σ := { s with listeners := s.listeners ++ [l] }

/-- Register a listener of one statistic. -/
def listenTo (s : Session σ) (stat : String) (l : Listener) : Session σ :=
  { s with statListeners := s.statListeners ++ [(stat, l)] }

/-- Take back one registration of a listener of the whole sheet; none if there is none. -/
def unlisten? (s : Session σ) (l : Listener) : Option (Session σ) :=
  if s.listeners.contains l then some { s with listeners := s.listeners.erase l } else none

/-- Take back one registration of a listener of a statistic; none if there is none. -/
def unlistenTo? (s : Session σ) (stat : String) (l : Listener) : Option (Session σ) :=
  if s.statListeners.contains (stat, l) then
    some { s with statListeners := s.statListeners.erase (stat, l) }
  else none

/-! ### Progress -/

/-- Put a statistic on another track and tell everybody what has changed. -/
def moveTo (roller : Roller σ) (s : Session σ) (stat : String) (old new : Track) : Session σ :=
  (Track.changes stat old new).foldl (announce roller) { s with sheet := s.sheet.setTrack stat new }

/-- Everybody is told on the sheet as it will stay. -/
@[simp] theorem sheet_moveTo (roller : Roller σ) (s : Session σ) (stat : String)
    (old new : Track) : (s.moveTo roller stat old new).sheet = s.sheet.setTrack stat new := by
  have announced (cs : List Change) (s : Session σ) :
      (cs.foldl (announce roller) s).sheet = s.sheet := by
    induction cs generalizing s with
    | nil => rfl
    | cons c cs ih => rw [List.foldl_cons, ih, sheet_announce]
  exact announced _ _

/-- Take one step on the track of a statistic; false if the track is at its end. -/
def step (roller : Roller σ) (move? : Track → Option Track) (s : Session σ) (stat : String) :
    Bool × Session σ :=
  match s.sheet.track? stat with
  | none => (false, s)
  | some old =>
      match move? old with
      | none => (false, s)
      | some new => (true, s.moveTo roller stat old new)

/-- Spend a point on a statistic. -/
def add (roller : Roller σ) (s : Session σ) (stat : String) : Bool × Session σ :=
  step roller Track.add? s stat

/-- Take a point back from a statistic. -/
def remove (roller : Roller σ) (s : Session σ) (stat : String) : Bool × Session σ :=
  step roller Track.remove? s stat

/-- Repeat a step until it fails, at most `times` times, and count how often it succeeded. -/
def repeatStep (step : Session σ → Bool × Session σ) : (times : Nat) → Session σ → Nat × Session σ
  | 0, s => (0, s)
  | times + 1, s =>
      match step s with
      | (false, s) => (0, s)
      | (true, s) =>
          let (count, s) := repeatStep step times s
          (count + 1, s)

/-- Set the level and the points of a statistic, if its schedule reaches them. -/
def setProgress (roller : Roller σ) (s : Session σ) (stat : String) (old : Track)
    (level points : Int) : Except TrackError (Session σ) :=
  (old.set? level points).map fun new => s.moveTo roller stat old new

/-! ### Snapshots -/

/-- The ids of the statistics of a kind. -/
def savedIds (sheet : Sheet) : SavedKind → List String
  | .attributes => sheet.attributes.map Attribute.id
  | .skills => sheet.skills.map Skill.id

/-- Restore the progress of one saved statistic, unless the sheet does not have it or its schedule
does not reach that far. -/
def restoreOne (roller : Roller σ) (kind : SavedKind) (s : Session σ) (entry : String × Progress) :
    Session σ :=
  let (saved, progress) := entry
  let id := Text.upper saved
  match (savedIds s.sheet kind).contains id, s.sheet.track? id with
  | true, some old =>
      match s.setProgress roller id old progress.level progress.points with
      | .ok s => s
      | .error e => s.record (.savedUnreachable kind saved (e.message id))
  | _, _ => s.record (.savedUnknown kind saved)

/-- Restore a snapshot: the identity, then attributes, then skills. -/
def restore (roller : Roller σ) (s : Session σ) (snapshot : Snapshot) : Session σ :=
  let s := { s with sheet := { s.sheet with identity := snapshot.identity } }
  let s := snapshot.attributes.foldl (restoreOne roller .attributes) s
  snapshot.skills.foldl (restoreOne roller .skills) s

end Session

end Tabletop
