import Tabletop.Sheet.Evaluation

/-!
# Making a check

A check evaluates the statistic once, adds lines for the bonus and for advantage that found no tier,
rolls one die and enters the check into the history of the sheet. It fails before the die is rolled
if an amount has too many digits to be written on its line, and after that if the die shows less
than one; the history is then as it was. A die too large to be set against a binary number is
noticed only after the check has been entered.
-/
namespace Tabletop

/-- Why a check fails. -/
inductive CheckFault where
  | tooManyDigits
  | dieBelowOne
  | degreeTooLarge
  deriving DecidableEq, Repr

namespace CheckFault

/-- What is wrong, where there is more to say than which part is to blame. -/
def message : CheckFault → String
  | tooManyDigits => Decimal.limitMessage
  | dieBelowOne => ""
  | degreeTooLarge => "int too large to convert to float"

/-- The parts of the check that are to blame. -/
def problems : CheckFault → List Problem
  | dieBelowOne => [⟨[.key "die_roll"], .tooSmall⟩]
  | _ => []

end CheckFault

namespace Sheet

variable {σ : Type}

/-- The line of a bonus or a penalty, unless it is zero. -/
def bonusLines (bonus : Int) : Except CheckFault (List BreakdownLine) :=
  if bonus = 0 then .ok []
  else if !Decimal.fits bonus then .error .tooManyDigits
  else
    .ok [⟨if 0 < bonus then "Bonus" else "Penalty", Decimal.signedText bonus ++ " net bonus",
      .int bonus⟩]

/-- The line of advantage that found no tier, unless there is none. -/
def overflowLines (advantage : Int) (e : EffectiveDifficulty) :
    Except CheckFault (List BreakdownLine) :=
  if e.overflow = 0 then .ok []
  else if !Decimal.fits advantage then .error .tooManyDigits
  else
    .ok [⟨if 0 < e.overflow then "Advantage" else "Disadvantage",
      Decimal.signedText advantage ++ " advantage past " ++ e.rolled.label, .int e.overflow⟩]

/-- Roll the die of a check on a breakdown that is complete. -/
def rollCheck (roller : Roller σ) (stat : String) (breakdown : Breakdown) (base : Difficulty)
    (advantage bonus : Int) (e : EffectiveDifficulty) (c : Course σ) : Check × Course σ :=
  let (die, dice) := roller e.rolled.sides c.dice
  (⟨stat, breakdown, base, advantage, bonus, e.rolled, e.overflow, die⟩, { c with dice := dice })

/-- Enter a check into the history. -/
def enter (sheet : Sheet) (c : Check) : Sheet := { sheet with history := sheet.history ++ [c] }

/-- Make a check on a statistic that the sheet has. -/
def checkStatistic (sheet : Sheet) (roller : Roller σ) (stat : Statistic) (base : Difficulty)
    (advantage bonus : Int) (c : Course σ) : Except CheckFault Check × Sheet × Course σ :=
  let (breakdown, c) := sheet.evaluate roller stat.id c
  let e := base.effective advantage
  match bonusLines bonus, overflowLines advantage e with
  | .error fault, _ => (.error fault, sheet, c)
  | _, .error fault => (.error fault, sheet, c)
  | .ok own, .ok past =>
      let breakdown := breakdown.extend (own ++ past)
      let (check, c) := rollCheck roller stat.id breakdown base advantage bonus e c
      if check.die < 1 then (.error .dieBelowOne, sheet, c)
      else
        let sheet := sheet.enter check
        match check.degree? with
        | none => (.error .degreeTooLarge, sheet, c)
        | some degree =>
            let told := c.record (.checked stat.id check.die e.rolled.sides check.value degree)
            (.ok check, sheet, told)

/-- Make a check on the statistic with an id in any letter case; none if there is no such statistic.
-/
def check (sheet : Sheet) (roller : Roller σ) (name : String) (base : Difficulty)
    (advantage bonus : Int) (c : Course σ) : Except CheckFault (Option Check) × Sheet × Course σ :=
  match sheet.find? name with
  | none => (.ok none, sheet, c.record (.checkUnknown name))
  | some stat =>
      let (result, sheet, c) := sheet.checkStatistic roller stat base advantage bonus c
      (result.map some, sheet, c)

end Sheet

end Tabletop
