import Tabletop.Number.Decimal

/-!
# Breakdowns

The value of a statistic as it is shown to a player: a base value and a line for everything that is
added to it, with what the line is called, where its amount comes from, and the amount.
-/
namespace Tabletop

/-- One amount that is added. -/
structure BreakdownLine where
  label : String
  formula : String
  amount : Number
  deriving DecidableEq, Repr

/-- A base value with the lines that are added to it, in order. -/
structure Breakdown where
  base : Number
  lines : List BreakdownLine
  deriving DecidableEq, Repr

namespace Breakdown

/-- The base value with all lines added, one after the other. -/
def final (b : Breakdown) : Number := b.lines.foldl (fun total line => total.add line.amount) b.base

/-- The breakdown with more lines after its own. -/
def extend (b : Breakdown) (lines : List BreakdownLine) : Breakdown := ⟨b.base, b.lines ++ lines⟩

@[simp] theorem base_extend (b : Breakdown) (lines : List BreakdownLine) :
    (b.extend lines).base = b.base := rfl

@[simp] theorem lines_extend (b : Breakdown) (lines : List BreakdownLine) :
    (b.extend lines).lines = b.lines ++ lines := rfl

theorem final_extend (b : Breakdown) (lines : List BreakdownLine) :
    (b.extend lines).final =
      lines.foldl (fun total line => total.add line.amount) b.final := by
  simp [final, extend]

end Breakdown

end Tabletop
