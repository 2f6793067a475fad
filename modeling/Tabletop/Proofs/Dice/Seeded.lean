import Tabletop.Proofs.Evaluation.Traces

/-!
# Seeded dice

A seeded generator draws until a number is below the bound, and answers with zero should it give up,
so a seeded die always shows one of its faces. The dice stay seeded, whatever is evaluated on them.
-/
namespace Tabletop

namespace Twister

theorem belowWith_lt {bound : Nat} (hbound : 0 < bound) (fuel : Nat) (t : Twister) :
    (belowWith bound fuel t).1 < bound := by
  induction fuel generalizing t with
  | zero => exact hbound
  | succ fuel ih =>
    rw [belowWith]
    dsimp only
    split
    · assumption
    · exact ih _

theorem below_lt {bound : Nat} (hbound : 0 < bound) (t : Twister) : (below bound t).1 < bound :=
  belowWith_lt hbound _ t

end Twister

namespace DiceSource

/-- The dice come from a seed. -/
def IsSeeded (source : DiceSource) : Prop := ∃ generator, source = seeded generator

theorem isSeeded_seeded (generator : Twister) : (seeded generator).IsSeeded := ⟨generator, rfl⟩

theorem roll_seeded (sides : Nat) (generator : Twister) :
    DiceSource.roll sides (seeded generator) =
      (((generator.below sides).1 : Int) + 1, seeded (generator.below sides).2) := by
  rw [DiceSource.roll]

variable {source source' : DiceSource}

theorem IsSeeded.roll (h : source.IsSeeded) (sides : Nat) :
    (DiceSource.roll sides source).2.IsSeeded := by
  obtain ⟨generator, rfl⟩ := h
  rw [roll_seeded]
  exact isSeeded_seeded _

/-- A seeded die shows one of its faces. -/
theorem IsSeeded.face (h : source.IsSeeded) {sides : Nat} (hsides : 0 < sides) :
    1 ≤ (DiceSource.roll sides source).1 ∧ (DiceSource.roll sides source).1 ≤ sides := by
  obtain ⟨generator, rfl⟩ := h
  have hlt := Twister.below_lt hsides generator
  rw [roll_seeded]
  omega

theorem IsSeeded.runs {thrown : List Throw} (h : source.IsSeeded)
    (hruns : Roller.Runs DiceSource.roll source thrown source') : source'.IsSeeded := by
  induction hruns with
  | none => exact h
  | throw _ ih => exact ih (h.roll _)

end DiceSource

namespace Sheet

end Sheet

end Tabletop
