import Tabletop.Check.Score

/-!
# The outcome of a check in words

Success or failure with the degree, and the steps of a critical result, in the markup of the screen.
-/
namespace Tabletop

/-- Why an outcome cannot be put into words. -/
inductive OutcomeFault where
  /-- The steps of the critical result have too many digits. -/
  | tooManyDigits
  /-- There is no degree. -/
  | noDegree
  deriving DecidableEq, Repr

/-- What is wrong. -/
def OutcomeFault.message : OutcomeFault → String
  | tooManyDigits => Decimal.limitMessage
  | noDegree => "int too large to convert to float"

/-- The steps of a critical result in words; nothing for none. -/
def criticalText (steps : Int) : Except OutcomeFault String :=
  if steps = 0 then .ok ""
  else if !Decimal.fits steps then .error .tooManyDigits
  else
    let color := if 0 < steps then "green" else "red"
    .ok (" [" ++ color ++ "]critical x" ++ Decimal.text steps.natAbs ++ "[/" ++ color ++ "]")

/-- The outcome of a degree in words. -/
def degreeText (degree : Number) : Except OutcomeFault String := do
  let head :=
    if degree.isAtLeastZero then "[bold green]Success[/bold green]"
    else "[bold red]Failure[/bold red]"
  let critical ← criticalText (Check.criticalSteps degree)
  pure (head ++ " (degree " ++ degree.display ++ ")" ++ critical)

/-- The outcome of a check in words. -/
def Check.outcome (c : Check) : Except OutcomeFault String :=
  match c.degree? with
  | none => .error .noDegree
  | some degree => degreeText degree

end Tabletop
