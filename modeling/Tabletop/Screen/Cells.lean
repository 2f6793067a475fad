import Tabletop.Sheet.Evaluation

/-!
# Cells

How the progress and the value of a statistic are shown in a table, in the markup of the screen.
-/
namespace Tabletop.Screen

/-- Points out of the points to the next level; nothing for what is neither an attribute nor a
skill. -/
def progressCell (sheet : Sheet) (name : String) : String :=
  match (sheet.find? name).bind Statistic.track? with
  | none => ""
  | some t =>
      match t.needed? with
      | none => "[green]max[/green]"
      | some needed => Decimal.text t.points ++ "/" ++ Decimal.text needed

/-- No number in the cell has too many digits. -/
def hasProgressCell (sheet : Sheet) (name : String) : Bool :=
  match (sheet.find? name).bind Statistic.track? with
  | none => true
  | some t => t.needed?.all fun needed => Decimal.fits t.points && Decimal.fits needed

/-- The final value, with the base value beside it if anything is added to that. -/
def valueText (b : Breakdown) : String :=
  b.final.display ++
    (if b.lines.isEmpty then "" else " [dim](base " ++ b.base.display ++ ")[/dim]")

/-- The value of a statistic, found anew. -/
def valueCell {σ : Type} (sheet : Sheet) (roller : Roller σ) (name : String) (c : Course σ) :
    String × Course σ :=
  let (b, c) := sheet.evaluate roller name c
  (valueText b, c)

end Tabletop.Screen
