import Mathlib.Tactic.Common
import Tabletop.Proofs.Text.LetterCase
import Tabletop.Sheet.Checking

/-!
# What a bonus does to a check

A bonus and advantage that found no tier are amounts added to the value that is rolled against, and
the degree is what the die shows less that value. So what the roller is given beyond the tier counts
against the roller: every point takes one point off the degree, down to the zero that a roll of one
keeps.
-/
namespace Tabletop

namespace Check

/-- The degree of a die against an integer. -/
def score (die value : Int) : Int := if die = 1 then max 0 (die - value) else die - value

/-- A higher value to roll against is never better. -/
theorem score_le_score {die u v : Int} (huv : u ≤ v) : score die v ≤ score die u := by
  unfold score
  split <;> omega

/-- It makes no difference only to a roll of one that is kept at zero. -/
theorem score_eq_score_iff {die u v : Int} (huv : u ≤ v) :
    score die v = score die u ↔ u = v ∨ (die = 1 ∧ 1 ≤ u) := by
  unfold score
  split <;> omega

/-- A check against an integer has an integer degree. -/
theorem degree?_of_value {c : Check} {v : Int} (hvalue : c.value = .int v) :
    c.degree? = some (.int (score c.die v)) := by
  unfold degree? score
  rw [hvalue]
  simp only [Number.intSub?, Option.map_some, Number.isBelowZero]
  by_cases hone : c.die = 1
  · by_cases hneg : c.die - v < 0
    · simp only [hone, hone ▸ hneg, decide_true, Bool.and_self, if_true, Option.some.injEq,
        Number.int.injEq]
      omega
    · simp only [hone, hone ▸ hneg, decide_true, decide_false, Bool.and_false, Bool.false_eq_true,
        if_false, if_true, Option.some.injEq, Number.int.injEq]
      omega
  · simp [hone]

end Check

namespace Sheet

variable {σ : Type}

/-! ### The lines of a check -/

/-- The line of a bonus or a penalty. -/
def bonusLine (bonus : Int) : BreakdownLine :=
  ⟨if 0 < bonus then "Bonus" else "Penalty", Decimal.signedText bonus ++ " net bonus", .int bonus⟩

/-- The line of advantage that found no tier. -/
def overflowLine (advantage : Int) (e : EffectiveDifficulty) : BreakdownLine :=
  ⟨if 0 < e.overflow then "Advantage" else "Disadvantage",
    Decimal.signedText advantage ++ " advantage past " ++ e.rolled.label, .int e.overflow⟩

/-- The lines that a check adds to those of its statistic. -/
def checkLines (advantage bonus : Int) (e : EffectiveDifficulty) : List BreakdownLine :=
  (if bonus = 0 then [] else [bonusLine bonus]) ++
    if e.overflow = 0 then [] else [overflowLine advantage e]

/-- The line of an amount, unless it is zero. On the line an integer is to be written. -/
def amountLines (amount written : Int) (line : BreakdownLine) :
    Except CheckFault (List BreakdownLine) :=
  if amount = 0 then .ok []
  else if !Decimal.fits written then .error .tooManyDigits
  else .ok [line]

theorem bonusLines_eq (bonus : Int) :
    bonusLines bonus = amountLines bonus bonus (bonusLine bonus) := rfl

theorem overflowLines_eq (advantage : Int) (e : EffectiveDifficulty) :
    overflowLines advantage e = amountLines e.overflow advantage (overflowLine advantage e) := rfl

theorem amountLines_of_fits {amount written : Int} (h : amount = 0 ∨ Decimal.fits written)
    (line : BreakdownLine) :
    amountLines amount written line = .ok (if amount = 0 then [] else [line]) := by
  by_cases hzero : amount = 0
  · simp [amountLines, hzero]
  · simp [amountLines, hzero, h.resolve_left hzero]

theorem amountLines_of_not_fits {amount written : Int} (h : ¬ (amount = 0 ∨ Decimal.fits written))
    (line : BreakdownLine) : amountLines amount written line = .error .tooManyDigits := by
  obtain ⟨hzero, hfits⟩ := not_or.mp h
  simp [amountLines, hzero, hfits]

/-- What is written on the lines that a check adds can be written. -/
structure AmountsFit (base : Difficulty) (advantage bonus : Int) : Prop where
  bonus_fits : bonus = 0 ∨ Decimal.fits bonus
  advantage_fits : (base.effective advantage).overflow = 0 ∨ Decimal.fits advantage

/-- A check adds the bonus and what advantage left over. -/
theorem final_extend_checkLines {b : Breakdown} {v : Int} (hb : b.final = .int v)
    (advantage bonus : Int) (e : EffectiveDifficulty) :
    (b.extend (checkLines advantage bonus e)).final = .int (v + bonus + e.overflow) := by
  rw [Breakdown.final_extend, hb, checkLines, List.foldl_append]
  by_cases hbonus : bonus = 0 <;> by_cases hover : e.overflow = 0 <;>
    simp [hbonus, hover, bonusLine, overflowLine]

/-! ### Checks that are made -/

section

variable {sheet : Sheet} {roller : Roller σ} {base : Difficulty} {advantage bonus : Int}
  {c : Course σ}

/-- The die that a check on a statistic rolls. -/
def checkDie (sheet : Sheet) (roller : Roller σ) (stat : Statistic) (e : EffectiveDifficulty)
    (c : Course σ) : Int :=
  (roller e.rolled.sides (sheet.evaluate roller stat.id c).2.dice).1

/-- The check that rolls a die on this breakdown. -/
def checkOf (base : Difficulty) (advantage bonus : Int) (stat : Statistic) (b : Breakdown)
    (die : Int) : Check :=
  let e := base.effective advantage
  ⟨stat.id, b.extend (checkLines advantage bonus e), base, advantage, bonus, e.rolled, e.overflow,
    die⟩

/-- The check on a statistic, as it is rolled, whether it counts or not. -/
def rolledCheck (sheet : Sheet) (roller : Roller σ) (stat : Statistic) (base : Difficulty)
    (advantage bonus : Int) (c : Course σ) : Check :=
  checkOf base advantage bonus stat (sheet.evaluate roller stat.id c).1
    (sheet.checkDie roller stat (base.effective advantage) c)

/-- What the evaluation of a statistic and the die of a check after it leave. -/
def rolledCourse (sheet : Sheet) (roller : Roller σ) (stat : Statistic) (e : EffectiveDifficulty)
    (c : Course σ) : Course σ :=
  let after := (sheet.evaluate roller stat.id c).2
  { after with dice := (roller e.rolled.sides after.dice).2 }

/-- Nothing is rolled and nothing entered if a line of a check cannot be written. -/
theorem checkStatistic_of_not_amountsFit (h : ¬ AmountsFit base advantage bonus)
    (stat : Statistic) :
    sheet.checkStatistic roller stat base advantage bonus c =
      (.error .tooManyDigits, sheet, (sheet.evaluate roller stat.id c).2) := by
  unfold checkStatistic
  dsimp only
  rw [bonusLines_eq, overflowLines_eq]
  by_cases hbonus : bonus = 0 ∨ Decimal.fits bonus
  · have hadvantage := mt (AmountsFit.mk hbonus) h
    rw [amountLines_of_fits hbonus, amountLines_of_not_fits hadvantage]
  · rw [amountLines_of_not_fits hbonus]

/-- If they can, the die decides, and then the degree, which is found out after the check has been
entered. -/
theorem checkStatistic_of_amountsFit (h : AmountsFit base advantage bonus) (stat : Statistic) :
    let k := sheet.rolledCheck roller stat base advantage bonus c
    let after := sheet.rolledCourse roller stat (base.effective advantage) c
    sheet.checkStatistic roller stat base advantage bonus c =
      if k.die < 1 then (.error .dieBelowOne, sheet, after)
      else match k.degree? with
        | none => (.error .degreeTooLarge, sheet.enter k, after)
        | some degree =>
            (.ok k, sheet.enter k,
              after.record (.checked stat.id k.die k.rolled.sides k.value degree)) := by
  intro k after
  unfold checkStatistic
  dsimp only
  rw [bonusLines_eq, overflowLines_eq, amountLines_of_fits h.bonus_fits,
    amountLines_of_fits h.advantage_fits]
  rfl

/-- A check is made just if its lines can be written, the die shows one or more and there is a
degree. -/
theorem checkStatistic_eq_ok_iff {stat : Statistic} {k : Check} :
    (sheet.checkStatistic roller stat base advantage bonus c).1 = .ok k ↔
      AmountsFit base advantage bonus ∧
        k = sheet.rolledCheck roller stat base advantage bonus c ∧ 1 ≤ k.die ∧
        ∃ degree, k.degree? = some degree := by
  by_cases hfit : AmountsFit base advantage bonus
  · rw [checkStatistic_of_amountsFit hfit]
    split
    · rename_i hlow
      refine iff_of_false nofun ?_
      rintro ⟨-, rfl, hone, -⟩
      omega
    · rename_i hdie
      split
      · rename_i hnone
        refine iff_of_false nofun ?_
        rintro ⟨-, rfl, -, degree, hdegree⟩
        cases hnone.symm.trans hdegree
      · rename_i degree hdegree
        constructor
        · rintro ⟨⟩
          exact ⟨hfit, rfl, Int.not_lt.mp hdie, degree, hdegree⟩
        · rintro ⟨-, rfl, -⟩
          rfl
  · rw [checkStatistic_of_not_amountsFit hfit]
    exact iff_of_false nofun fun h => hfit h.1

/-- What a check holds that was made. -/
theorem checkStatistic_eq_ok {stat : Statistic} {k : Check}
    (h : (sheet.checkStatistic roller stat base advantage bonus c).1 = .ok k) :
    k.die = sheet.checkDie roller stat (base.effective advantage) c ∧
      k.breakdown = (sheet.evaluate roller stat.id c).1.extend
        (checkLines advantage bonus (base.effective advantage)) := by
  obtain ⟨-, rfl, -⟩ := checkStatistic_eq_ok_iff.mp h
  exact ⟨rfl, rfl⟩

/-- The value of a check that was made, with the bonus and what advantage left over. -/
theorem value_of_checkStatistic {stat : Statistic} {k : Check} {v : Int}
    (hvalue : (sheet.evaluate roller stat.id c).1.final = .int v)
    (h : (sheet.checkStatistic roller stat base advantage bonus c).1 = .ok k) :
    k.value = .int (v + bonus + (base.effective advantage).overflow) := by
  rw [Check.value, (checkStatistic_eq_ok h).2]
  exact final_extend_checkLines hvalue advantage bonus _

/-- A check on a name that was made is one on the statistic of that name. -/
theorem check_eq_ok_some_iff {name : String} {stat : Statistic} {k : Check}
    (hfind : sheet.find? name = some stat) :
    (sheet.check roller name base advantage bonus c).1 = .ok (some k) ↔
      (sheet.checkStatistic roller stat base advantage bonus c).1 = .ok k := by
  unfold check
  rw [hfind]
  dsimp only
  cases (sheet.checkStatistic roller stat base advantage bonus c).1 <;> simp [Except.map]

end

/-- Two checks on one statistic that roll the same die differ by what they were given beyond the
tier, and more of it is never better: the degree falls with the bonus and the advantage left over
together, and stays the same only if they do or if a roll of one is at zero already. -/
theorem check_degree_antitone {sheet : Sheet} {roller : Roller σ} {name : String}
    {stat : Statistic} {v : Int} {base base' : Difficulty} {advantage advantage' bonus bonus' : Int}
    {c : Course σ} {k k' : Check} (hfind : sheet.find? name = some stat)
    (hvalue : (sheet.evaluate roller stat.id c).1.final = .int v)
    (htier : (base'.effective advantage').rolled = (base.effective advantage).rolled)
    (hle : bonus + (base.effective advantage).overflow ≤
      bonus' + (base'.effective advantage').overflow)
    (hk : (sheet.check roller name base advantage bonus c).1 = .ok (some k))
    (hk' : (sheet.check roller name base' advantage' bonus' c).1 = .ok (some k')) :
    k'.die = k.die ∧ ∃ degree degree' : Int,
      k.degree? = some (.int degree) ∧ k'.degree? = some (.int degree') ∧ degree' ≤ degree ∧
      (degree' = degree ↔
        bonus + (base.effective advantage).overflow =
            bonus' + (base'.effective advantage').overflow ∨
          (k.die = 1 ∧ 1 ≤ v + bonus + (base.effective advantage).overflow)) := by
  rw [check_eq_ok_some_iff hfind] at hk hk'
  have hdie : k'.die = k.die := by
    rw [(checkStatistic_eq_ok hk).1, (checkStatistic_eq_ok hk').1, checkDie, checkDie, htier]
  refine ⟨hdie, _, _, Check.degree?_of_value (value_of_checkStatistic hvalue hk),
    Check.degree?_of_value (value_of_checkStatistic hvalue hk'), ?_, ?_⟩
  · rw [hdie]
    exact Check.score_le_score (by omega)
  · rw [hdie, Check.score_eq_score_iff (by omega)]
    omega

/-- Strength at level zero. -/
def feeble : Attribute := ⟨"STR", "STR", "", ⟨[2], 0, 0, by decide⟩, []⟩

/-- A character who has nothing else. -/
def novice : Sheet := ⟨.blank, [feeble], [], [], []⟩

theorem find?_novice {name : String} (hname : Text.upper name = "STR") :
    novice.find? name = some (.ofAttribute feeble) := by
  rw [find?, hname]
  rfl

theorem upper_str : Text.upper "str" = "STR" := Text.upper_of_ascii (by decide)

theorem upper_STR : Text.upper "STR" = "STR" := Text.upper_of_ascii (by decide)

theorem evaluate_novice {roller : Roller Unit} :
    novice.evaluate roller (Statistic.ofAttribute feeble).id (.fresh () .empty) =
      (⟨.int 0, []⟩, .fresh () .empty) := by
  have hid : (Statistic.ofAttribute feeble).id = "STR" := rfl
  rw [evaluate, hid, find?_novice upper_STR]
  rfl

/-- An easy check on it with one point of advantage, on dice that show a 3. -/
def easyCheck : Check := ⟨"STR", ⟨.int 0, []⟩, .easy, 1, 0, .trivial, 0, 3⟩

/-- A trivial one with three points of advantage and a penalty. -/
def trivialCheck : Check :=
  ⟨"STR", ⟨.int 0, [⟨"Penalty", "-1 net bonus", .int (-1)⟩,
    ⟨"Advantage", "+3 advantage past trivial", .int 3⟩]⟩, .trivial, 3, -1, .trivial, 3, 3⟩

theorem check_degree_antitone_novice :
    (novice.check (.fixed 3) "str" .easy 1 0 (.fresh () .empty)).1 = .ok (some easyCheck) ∧
      (novice.check (.fixed 3) "str" .trivial 3 (-1) (.fresh () .empty)).1 =
        .ok (some trivialCheck) ∧
      trivialCheck.die = easyCheck.die ∧ ∃ degree degree' : Int,
        easyCheck.degree? = some (.int degree) ∧ trivialCheck.degree? = some (.int degree') ∧
        degree' < degree := by
  have hfind := find?_novice upper_str
  have hvalue : (novice.evaluate (.fixed 3) (Statistic.ofAttribute feeble).id
      (.fresh () .empty)).1.final = .int 0 := by
    rw [evaluate_novice]
    rfl
  have heasy : (novice.check (.fixed 3) "str" .easy 1 0 (.fresh () .empty)).1 =
      .ok (some easyCheck) := by
    rw [check_eq_ok_some_iff hfind, checkStatistic, evaluate_novice]
    decide +kernel
  have htrivial : (novice.check (.fixed 3) "str" .trivial 3 (-1) (.fresh () .empty)).1 =
      .ok (some trivialCheck) := by
    rw [check_eq_ok_some_iff hfind, checkStatistic, evaluate_novice]
    decide +kernel
  obtain ⟨hdie, degree, degree', hdegree, hdegree', hle, heq⟩ :=
    check_degree_antitone hfind hvalue (by decide) (by decide) heasy htrivial
  refine ⟨heasy, htrivial, hdie, degree, degree', hdegree, hdegree', ?_⟩
  rw [Int.lt_iff_le_and_ne, Ne, heq]
  exact ⟨hle, by decide⟩

/-- On a die that shows a 3, a bonus of four turns a success into a failure. -/
theorem exists_bonus_degree_lt :
    ∃ k k' : Check,
      (novice.check (.fixed 3) "STR" .easy 0 0 (.fresh () .empty)).1 = .ok (some k) ∧
      (novice.check (.fixed 3) "STR" .easy 0 4 (.fresh () .empty)).1 = .ok (some k') ∧
      k'.die = k.die ∧ k.degree? = some (.int 3) ∧ k'.degree? = some (.int (-1)) := by
  refine ⟨⟨"STR", ⟨.int 0, []⟩, .easy, 0, 0, .easy, 0, 3⟩,
    ⟨"STR", ⟨.int 0, [⟨"Bonus", "+4 net bonus", .int 4⟩]⟩, .easy, 0, 4, .easy, 0, 3⟩, ?_⟩
  have hfind := find?_novice upper_STR
  rw [check_eq_ok_some_iff hfind, check_eq_ok_some_iff hfind, checkStatistic, checkStatistic,
    evaluate_novice]
  decide +kernel

end Sheet

end Tabletop
