import Tabletop.Breakdown
import Tabletop.Check.Difficulty

/-!
# Skill checks

A check rolls the die of its tier against the value of a statistic. The degree is what the die shows
less the value: zero or more is a success. A roll of one never fails. Every five points of the
degree are one step of a critical success or failure.
-/
namespace Tabletop

/-- A check that was made. The breakdown holds the value that was rolled against, with the lines for
the bonus and for advantage that found no tier. -/
structure Check where
  stat : String
  breakdown : Breakdown
  base : Difficulty
  advantage : Int
  bonus : Int
  rolled : Difficulty
  overflow : Int
  die : Int
  deriving DecidableEq, Repr

namespace Check

/-- Points of the degree for each step of a critical result. -/
def criticalStep : Nat := 5

/-- The value that was rolled against. -/
def value (c : Check) : Number := c.breakdown.final

/-- The degree of success, or of failure below zero. None if the die shows an integer too large to
be set against a binary number. -/
def degree? (c : Check) : Option Number :=
  (Number.intSub? c.die c.value).map fun degree =>
    if c.die = 1 && degree.isBelowZero then .int 0 else degree

/-- The steps of a critical result for a degree: positive for a success, negative for a failure,
none for a degree that is not finite. -/
def criticalSteps : Number → Int
  | .int n => Int.tdiv n criticalStep
  | .real x => if x.isFinite then (x.div (Binary64.ofInt criticalStep)).truncate else 0

/-- The steps of a critical result. -/
def critical? (c : Check) : Option Int := c.degree?.map criticalSteps

/-- Whether the check succeeded. -/
def succeeds? (c : Check) : Option Bool := c.degree?.map Number.isAtLeastZero

end Check

end Tabletop
