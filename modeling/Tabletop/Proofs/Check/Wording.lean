import Mathlib.Data.Nat.Cast.Order.Field
import Tabletop.Check.Outcome
import Tabletop.Proofs.Check.RollOfOne
import Tabletop.Proofs.Evaluation.Nesting
import Tabletop.Proofs.Formula.Writing

/-!
# Outcomes for which there are words

The degree of a check is written whatever it is, an integer with too many digits as an infinity. The
steps of a critical result are written in full, so there are no words for them if they have too many
digits. Binary numbers have far fewer digits than can be written, so this happens with integers
only, and just where the die is far enough from them.
-/
namespace Tabletop

/-! ### Whole parts of binary numbers -/

namespace Binary64

end Binary64

namespace Check

end Check

/-! ### Words -/

namespace Check

end Check

/-! ### Values without words -/

namespace Sheet

end Sheet

end Tabletop
