import Tabletop.Number.Decimal
import Tabletop.Text.Quoted

/-!
# Upgrade tracks

An attribute or a skill is raised by spending points. The schedule says for every level how many
points lead to the next one; its length is the highest level. Points past a level count towards the
next and start again from zero when it is reached. Taking a point back undoes this.

The level never leaves the schedule, whatever its entries are.
-/
namespace Tabletop

/-- A level with the points collected towards the next one. -/
structure Track where
  schedule : List Int
  level : Nat
  points : Int
  level_le : level ≤ schedule.length
  deriving DecidableEq, Repr

/-- The parts of a track that change. -/
inductive TrackField where
  | level
  | points
  deriving DecidableEq, Repr

/-- The name of a field in messages. -/
def TrackField.label : TrackField → String
  | level => "upgrade_level"
  | points => "upgrade_points"

/-- A change of one field of the track of a statistic. -/
structure Change where
  stat : String
  field : TrackField
  old : Int
  new : Int
  deriving DecidableEq, Repr

/-- The change on one line. -/
def Change.line (c : Change) : String :=
  c.stat ++ "." ++ c.field.label ++ ": " ++ Decimal.text c.old ++ " -> " ++ Decimal.text c.new

/-- Why a level and points cannot be set. -/
inductive TrackError where
  | levelOutside (level : Int) (highest : Nat)
  | pointsAtHighest
  | pointsOutside (level : Nat) (points needed : Int)
  deriving DecidableEq, Repr

/-- The integers that the words for an error hold. -/
def TrackError.numbers : TrackError → List Int
  | levelOutside level highest => [level, highest]
  | pointsAtHighest => []
  | pointsOutside level points needed => [points, needed - 1, level]

/-- What is wrong, for the statistic of the given id, with all integers in full. -/
def TrackError.text (id : String) : TrackError → String
  | levelOutside level highest =>
      id ++ ": upgrade level " ++ Decimal.text level ++ " outside 0.." ++ Decimal.text highest
  | pointsAtHighest => id ++ ": points must be 0 at max level"
  | pointsOutside level points needed =>
      id ++ ": upgrade points " ++ Decimal.text points ++ " outside 0.." ++
        Decimal.text (needed - 1) ++ " at level " ++ Decimal.text level

/-- What is said of an error. Where one of its integers has too many digits, only that is said. -/
def TrackError.message (id : String) (e : TrackError) : String :=
  if e.numbers.all Decimal.fits then e.text id else Decimal.limitMessage

namespace Track

/-- Level zero without points. -/
def start (schedule : List Int) : Track := ⟨schedule, 0, 0, Nat.zero_le _⟩

/-- The highest level. -/
def highest (t : Track) : Nat := t.schedule.length

/-- The points between the level and the next one, below the highest level. -/
def needed? (t : Track) : Option Int := t.schedule[t.level]?

/-- The highest level is reached. -/
def isHighest (t : Track) : Bool := t.highest ≤ t.level

/-- The points that are missing for the next level, below the highest one. -/
def missing? (t : Track) : Option Int := t.needed?.map (· - t.points)

/-- One point more, unless the highest level is reached. -/
def add? (t : Track) : Option Track :=
  if h : t.level < t.schedule.length then
    let points := t.points + 1
    if t.schedule[t.level] ≤ points then some ⟨t.schedule, t.level + 1, 0, h⟩
    else some ⟨t.schedule, t.level, points, t.level_le⟩
  else none

/-- One point less, taken from the level below when there is none; nothing can be taken from level
zero without points. -/
def remove? (t : Track) : Option Track :=
  if 0 < t.points then some ⟨t.schedule, t.level, t.points - 1, t.level_le⟩
  else
    match h : t.level with
    | 0 => none
    | level + 1 =>
        have below : level < t.schedule.length := by have := t.level_le; omega
        some ⟨t.schedule, level, t.schedule[level] - 1, Nat.le_of_lt below⟩

/-- Set level and points, if additions could have led there. -/
def set? (t : Track) (level points : Int) : Except TrackError Track :=
  if h : 0 ≤ level ∧ level ≤ t.schedule.length then
    let n := level.toNat
    match t.schedule[n]? with
    | none => if points = 0 then .ok ⟨t.schedule, n, 0, by omega⟩ else .error .pointsAtHighest
    | some needed =>
        if 0 ≤ points ∧ points < needed then .ok ⟨t.schedule, n, points, by omega⟩
        else .error (.pointsOutside n points needed)
  else .error (.levelOutside level t.schedule.length)

theorem schedule_of_add? {t next : Track} (h : t.add? = some next) :
    next.schedule = t.schedule := by
  simp only [add?] at h
  split at h
  · split at h <;> cases h <;> rfl
  · cases h

theorem schedule_of_remove? {t next : Track} (h : t.remove? = some next) :
    next.schedule = t.schedule := by
  unfold remove? at h
  split at h
  · cases h; rfl
  · split at h <;> cases h; rfl

theorem schedule_of_set? {t next : Track} {level points : Int}
    (h : t.set? level points = .ok next) : next.schedule = t.schedule := by
  unfold set? at h
  split at h
  · dsimp only at h
    split at h <;> split at h <;> cases h <;> rfl
  · cases h

/-- The fields in which two states of a track differ, the level first. -/
def changes (stat : String) (old new : Track) : List Change :=
  (if old.level = new.level then [] else [⟨stat, .level, old.level, new.level⟩]) ++
    (if old.points = new.points then [] else [⟨stat, .points, old.points, new.points⟩])

@[simp] theorem changes_self (stat : String) (t : Track) : changes stat t t = [] := by
  simp [changes]

/-- The state of a track with the kind and the id of its statistic. -/
def describe (kind id : String) (t : Track) : String :=
  kind ++ "(" ++ Text.quoted id ++ ", level=" ++ Decimal.text t.level ++ ", points=" ++
    Decimal.text t.points ++ ")"

end Track

end Tabletop
