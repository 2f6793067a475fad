import Tabletop.Dice.Twister

/-!
# Rolling dice

A roller answers a number of sides with a result and goes on from a new state. Nothing is assumed
about the results. Rollers that keep a tally remember every die they were asked for.
-/
namespace Tabletop

/-- Rolls a die of the given number of sides. -/
abbrev Roller (σ : Type) := Nat → σ → Int × σ

namespace Roller

/-- Every die shows the same value, or the nearest face that it has. -/
def fixed (value : Int) : Roller Unit := fun sides _ => (max 1 (min value sides), ())

/-- Roll dice of one kind, one after the other. -/
def rolls {σ : Type} (roller : Roller σ) (sides : Nat) : (count : Nat) → σ → List Int × σ
  | 0, s => ([], s)
  | count + 1, s =>
      let (value, s) := roller sides s
      let (values, s) := rolls roller sides count s
      (value :: values, s)

theorem length_rolls {σ : Type} (roller : Roller σ) (sides count : Nat) (s : σ) :
    (rolls roller sides count s).1.length = count := by
  induction count generalizing s with
  | zero => rfl
  | succ count ih => simp [rolls, ih]

end Roller

/-- A die that was rolled. -/
structure Throw where
  sides : Nat
  value : Int
  deriving DecidableEq, Repr

/-- A state that remembers what was rolled, the latest die first. -/
structure Tally (σ : Type) where
  state : σ
  latest : List Throw

namespace Tally

/-- Nothing has been rolled yet. -/
def fresh {σ : Type} (state : σ) : Tally σ := ⟨state, []⟩

/-- The dice in the order in which they were rolled. -/
def throws {σ : Type} (t : Tally σ) : List Throw := t.latest.reverse

end Tally

/-- The same roller, keeping a tally. -/
def Roller.tallied {σ : Type} (roller : Roller σ) : Roller (Tally σ) := fun sides t =>
  let (value, state) := roller sides t.state
  (value, ⟨state, ⟨sides, value⟩ :: t.latest⟩)

/-- Keeping a tally does not change the results. -/
theorem Roller.fst_tallied {σ : Type} (roller : Roller σ) (sides : Nat) (t : Tally σ) :
    (roller.tallied sides t).1 = (roller sides t.state).1 := rfl

@[simp] theorem Roller.throws_tallied {σ : Type} (roller : Roller σ) (sides : Nat) (t : Tally σ) :
    (roller.tallied sides t).2.throws = t.throws ++ [⟨sides, (roller sides t.state).1⟩] := by
  simp [Tally.throws, tallied]

/-- Where results come from. -/
inductive DiceSource where
  /-- Always the same value, or the nearest face. -/
  | fixed (value : Int)
  /-- Given values in turn, starting again at the end. -/
  | cycle (values : Array Int) (next : Nat)
  | seeded (generator : Twister)

namespace DiceSource

/-- The source of a seed. -/
def ofSeed (seed : Int) : DiceSource := seeded (Twister.ofSeed seed)

/-- Roll a die. -/
def roll : Roller DiceSource := fun sides source =>
  match source with
  | fixed value => ((Roller.fixed value sides ()).1, source)
  | cycle values next => (values.getD (next % values.size) 1, cycle values (next + 1))
  | seeded generator =>
      let (n, generator) := generator.below sides
      ((n : Int) + 1, seeded generator)

end DiceSource

end Tabletop
