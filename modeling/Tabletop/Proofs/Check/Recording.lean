import Tabletop.Proofs.Check.RollOfOne
import Tabletop.Session

/-!
# What enters the history

A check ends in one of five ways. If it is answered, the answer is the one entry that the history
gains; if there is no such statistic, a line cannot be written or the die shows less than one, the
sheet stays as it was. The fifth way is neither: a die past the range of binary numbers that is
rolled against one has no degree, and this is noticed only after the check has been entered. On dice
in range the history is what was answered, check after check.
-/
namespace Tabletop

namespace Sheet

variable {σ : Type}

/-- The sheet with checks entered into the history after all others. -/
def enterAll (sheet : Sheet) (checks : List Check) : Sheet :=
  { sheet with history := sheet.history ++ checks }

@[simp] theorem enterAll_nil (sheet : Sheet) : sheet.enterAll [] = sheet := by
  simp [enterAll]

theorem enterAll_append (sheet : Sheet) (ks ls : List Check) :
    sheet.enterAll (ks ++ ls) = (sheet.enterAll ks).enterAll ls := by
  simp [enterAll]

theorem enterAll_inj {sheet : Sheet} {ks ls : List Check} :
    sheet.enterAll ks = sheet.enterAll ls ↔ ks = ls := by
  simp [enterAll]

/-- The check that is answered, if one is. -/
def answered : Except CheckFault (Option Check) → List Check
  | .ok (some k) => [k]
  | .ok none => []
  | .error _ => []

/-! ### Dice past the range -/

/-- The lines that a check adds leave an integer an integer and a binary number a binary number. -/
theorem isInt_value_checkOf (base : Difficulty) (advantage bonus : Int) (stat : Statistic)
    (b : Breakdown) (die : Int) :
    (checkOf base advantage bonus stat b die).value.isInt = b.final.isInt := by
  have hlines : ∀ line ∈ checkLines advantage bonus (base.effective advantage),
      line.amount.isInt := by
    unfold checkLines bonusLine overflowLine
    split_ifs <;> simp [Number.isInt]
  have hvalue : (checkOf base advantage bonus stat b die).value =
      (b.extend (checkLines advantage bonus (base.effective advantage))).final := rfl
  rw [hvalue, Breakdown.final_extend, Breakdown.isInt_foldl, List.all_eq_true.mpr hlines,
    Bool.and_true]

section

variable (sheet : Sheet) (roller : Roller σ) (stat : Statistic) (name : String) (base : Difficulty)
  (advantage bonus : Int) (c : Course σ)

/-- The value of a statistic is a binary number, and the die of the check on it is past the range of
binary numbers. -/
structure DiePastRange : Prop where
  amounts : AmountsFit base advantage bonus
  binary : (sheet.evaluate roller stat.id c).1.final.isInt = false
  past : Binary64.overflow ≤ sheet.checkDie roller stat (base.effective advantage) c

variable {sheet roller stat base advantage bonus c}

/-- A die past the range shows one or more. -/
theorem DiePastRange.one_le (h : sheet.DiePastRange roller stat base advantage bonus c) :
    1 ≤ sheet.checkDie roller stat (base.effective advantage) c := by
  have hface : (1 : ℚ) ≤ Difficulty.trivial.sides := by norm_num [Difficulty.sides]
  exact_mod_cast (hface.trans_lt (Difficulty.sides_lt_overflow _)).le.trans h.past

theorem degree?_rolledCheck_eq_none_iff (hamounts : AmountsFit base advantage bonus)
    (hone : 1 ≤ sheet.checkDie roller stat (base.effective advantage) c) :
    (sheet.rolledCheck roller stat base advantage bonus c).degree? = none ↔
      sheet.DiePastRange roller stat base advantage bonus c := by
  have hsize : |((sheet.rolledCheck roller stat base advantage bonus c).die : ℚ)| =
      sheet.checkDie roller stat (base.effective advantage) c :=
    abs_of_nonneg (by exact_mod_cast (by omega : 0 ≤ sheet.checkDie roller stat _ c))
  rw [Check.degree?_eq_none_iff, hsize, rolledCheck, isInt_value_checkOf]
  exact ⟨fun h => ⟨hamounts, h.1, h.2⟩, fun h => ⟨h.binary, h.past⟩⟩

/-! ### How checks end -/

variable (sheet roller base advantage bonus c)

/-- How a check on a name ends: what is answered, and what the history has gained by then. -/
inductive CheckEnds : Except CheckFault (Option Check) → List Check → Prop
  | unknown (hname : sheet.find? name = none) : CheckEnds (.ok none) []
  | unwritten {stat : Statistic} (hname : sheet.find? name = some stat)
      (hamounts : ¬ AmountsFit base advantage bonus) : CheckEnds (.error .tooManyDigits) []
  | low {stat : Statistic} (hname : sheet.find? name = some stat)
      (hamounts : AmountsFit base advantage bonus)
      (hdie : sheet.checkDie roller stat (base.effective advantage) c < 1) :
      CheckEnds (.error .dieBelowOne) []
  | made {stat : Statistic} (hname : sheet.find? name = some stat)
      (hamounts : AmountsFit base advantage bonus)
      (hdie : 1 ≤ sheet.checkDie roller stat (base.effective advantage) c)
      (hrange : ¬ sheet.DiePastRange roller stat base advantage bonus c) :
      CheckEnds (.ok (some (sheet.rolledCheck roller stat base advantage bonus c)))
        [sheet.rolledCheck roller stat base advantage bonus c]
  | pastRange {stat : Statistic} (hname : sheet.find? name = some stat)
      (hrange : sheet.DiePastRange roller stat base advantage bonus c) :
      CheckEnds (.error .degreeTooLarge) [sheet.rolledCheck roller stat base advantage bonus c]

/-- Every check ends in one of these ways, and nothing else on the sheet has changed. -/
theorem exists_checkEnds :
    ∃ entered, CheckEnds sheet roller name base advantage bonus c
        (sheet.check roller name base advantage bonus c).1 entered ∧
      (sheet.check roller name base advantage bonus c).2.1 = sheet.enterAll entered := by
  unfold check
  cases hname : sheet.find? name with
  | none => exact ⟨[], .unknown hname, (enterAll_nil sheet).symm⟩
  | some stat =>
    dsimp only
    by_cases hamounts : AmountsFit base advantage bonus
    · rw [checkStatistic_of_amountsFit hamounts]
      split
      · rename_i hlow
        exact ⟨[], .low hname hamounts hlow, (enterAll_nil sheet).symm⟩
      · rename_i hdie
        have hone := Int.not_lt.mp hdie
        have hiff := degree?_rolledCheck_eq_none_iff hamounts hone
        split
        · rename_i hnone
          exact ⟨_, .pastRange hname (hiff.mp hnone), rfl⟩
        · rename_i degree hdegree
          have hrange := mt hiff.mpr (hdegree ▸ Option.some_ne_none degree)
          exact ⟨_, .made hname hamounts hone hrange, rfl⟩
    · rw [checkStatistic_of_not_amountsFit hamounts]
      exact ⟨[], .unwritten hname hamounts, (enterAll_nil sheet).symm⟩

variable {sheet roller name base advantage bonus c}

/-- Ends in which the history gains something else than the answer are those on a die past the
range. -/
theorem CheckEnds.entered_eq_iff {result : Except CheckFault (Option Check)} {entered : List Check}
    (h : CheckEnds sheet roller name base advantage bonus c result entered) :
    entered = answered result ↔ ¬ ∃ stat, sheet.find? name = some stat ∧
      sheet.DiePastRange roller stat base advantage bonus c := by
  have hothers {stat : Statistic} (hname : sheet.find? name = some stat)
      (hnot : ¬ sheet.DiePastRange roller stat base advantage bonus c) :
      ¬ ∃ stat, sheet.find? name = some stat ∧
        sheet.DiePastRange roller stat base advantage bonus c := by
    rintro ⟨other, hother, hrange⟩
    cases hname.symm.trans hother
    exact hnot hrange
  cases h with
  | unknown hname =>
    refine iff_of_true rfl ?_
    rintro ⟨stat, hstat, -⟩
    cases hname.symm.trans hstat
  | unwritten hname hamounts => exact iff_of_true rfl (hothers hname fun h => hamounts h.amounts)
  | low hname hamounts hdie => exact iff_of_true rfl (hothers hname fun h => by
      have hone := h.one_le
      omega)
  | made hname hamounts hdie hrange => exact iff_of_true rfl (hothers hname hrange)
  | pastRange hname hrange => exact iff_of_false nofun (not_not_intro ⟨_, hname, hrange⟩)

/-- On such a die there is but one end. -/
theorem CheckEnds.eq_of_diePastRange {result : Except CheckFault (Option Check)}
    {entered : List Check} {stat : Statistic}
    (h : CheckEnds sheet roller name base advantage bonus c result entered)
    (hname : sheet.find? name = some stat)
    (hrange : sheet.DiePastRange roller stat base advantage bonus c) :
    result = .error .degreeTooLarge ∧
      entered = [sheet.rolledCheck roller stat base advantage bonus c] := by
  have hone := hrange.one_le
  cases h with
  | unknown hnone => cases hnone.symm.trans hname
  | unwritten hother hamounts => exact absurd hrange.amounts hamounts
  | low hother hamounts hdie =>
    cases hother.symm.trans hname
    omega
  | made hother hamounts hdie hnot =>
    cases hother.symm.trans hname
    exact absurd hrange hnot
  | pastRange hother hrange' =>
    cases hother.symm.trans hname
    exact ⟨rfl, rfl⟩

end

/-- A check that is answered is entered, and no other, just unless a die past the range of binary
numbers is rolled against one of them. Such a check fails and stays in the history. In both cases
nothing else on the sheet has changed. -/
theorem check_enters_answered_iff (sheet : Sheet) (roller : Roller σ) (name : String)
    (base : Difficulty) (advantage bonus : Int) (c : Course σ) :
    let made := sheet.check roller name base advantage bonus c
    (made.2.1 = { sheet with history := sheet.history ++ answered made.1 } ↔
      ¬ ∃ stat, sheet.find? name = some stat ∧
        sheet.DiePastRange roller stat base advantage bonus c) ∧
    ∀ stat, sheet.find? name = some stat →
      sheet.DiePastRange roller stat base advantage bonus c →
      let k := sheet.rolledCheck roller stat base advantage bonus c
      made.1 = .error .degreeTooLarge ∧
        made.2.1 = { sheet with history := sheet.history ++ [k] } := by
  intro made
  obtain ⟨entered, hends, hsheet⟩ := exists_checkEnds sheet roller name base advantage bonus c
  have hiff : made.2.1 = sheet.enterAll (answered made.1) ↔ entered = answered made.1 := by
    rw [hsheet, enterAll_inj]
  refine ⟨hiff.trans hends.entered_eq_iff, fun stat hname hrange => ?_⟩
  obtain ⟨hresult, rfl⟩ := hends.eq_of_diePastRange hname hrange
  exact ⟨hresult, hsheet⟩

/-- A die that shows a number past the range, whatever its sides are. -/
def endlessDie : Roller Unit := fun _ dice => (2 ^ 1024, dice)

/-- Against an integer such a die counts, and its check is the one entry of the history. -/
theorem check_enters_answered_iff_novice :
    ∃ k : Check, k.die = 2 ^ 1024 ∧
      (novice.check endlessDie "str" .trivial 3 (-1) (.fresh () .empty)).1 = .ok (some k) ∧
      (novice.check endlessDie "str" .trivial 3 (-1) (.fresh () .empty)).2.1.history = [k] := by
  have hrange : ¬ ∃ stat, novice.find? "str" = some stat ∧
      novice.DiePastRange endlessDie stat .trivial 3 (-1) (.fresh () .empty) := by
    rintro ⟨stat, hstat, hrange⟩
    cases (find?_novice upper_str).symm.trans hstat
    have hbinary := hrange.binary
    rw [evaluate_novice] at hbinary
    cases hbinary
  have hmade : (novice.check endlessDie "str" .trivial 3 (-1) (.fresh () .empty)).1 =
      .ok (some { trivialCheck with die := 2 ^ 1024 }) := by
    rw [check_eq_ok_some_iff (find?_novice upper_str), checkStatistic, evaluate_novice]
    decide +kernel
  have hsheet :=
    (check_enters_answered_iff novice endlessDie "str" .trivial 3 (-1) (.fresh () .empty)).1.mpr
      hrange
  refine ⟨_, rfl, hmade, ?_⟩
  rw [hsheet, hmade]
  rfl

/-- One half is a binary number. -/
theorem diePastRange_gambler :
    (gambler "1 / 2").DiePastRange endlessDie (.ofDerived (luck "1 / 2")) .moderate 0 0
      (.fresh () .empty) where
  amounts := ⟨.inl rfl, .inl (by decide)⟩
  binary := by
    rw [evaluate, find?_gambler]
    decide +kernel
  past := by
    have hdie : (gambler "1 / 2").checkDie endlessDie (.ofDerived (luck "1 / 2"))
        (Difficulty.moderate.effective 0) (.fresh () .empty) = 2 ^ 1024 := rfl
    rw [hdie]
    exact_mod_cast Binary64.overflow_lt_pow.le

/-- Against luck of one half such a die fails, and the check is in the history. -/
theorem exists_entered_unanswered :
    ∃ k : Check, k.die = 2 ^ 1024 ∧
      ((gambler "1 / 2").check endlessDie "LUCK" .moderate 0 0 (.fresh () .empty)).1 =
        .error .degreeTooLarge ∧
      (gambler "1 / 2").history = [] ∧
      ((gambler "1 / 2").check endlessDie "LUCK" .moderate 0 0
        (.fresh () .empty)).2.1.history = [k] := by
  obtain ⟨entered, hends, hsheet⟩ := exists_checkEnds (gambler "1 / 2") endlessDie "LUCK" .moderate
    0 0 (.fresh () .empty)
  obtain ⟨hresult, rfl⟩ := hends.eq_of_diePastRange (find?_gambler _) diePastRange_gambler
  exact ⟨_, rfl, hresult, rfl, congrArg Sheet.history hsheet⟩

end Sheet

/-! ### Checks one after the other -/

/-- A check that is asked for. -/
structure CheckRequest where
  name : String
  base : Difficulty
  advantage : Int
  bonus : Int

/-- Every die of a check shows a number that is in the range of binary numbers. -/
def Roller.StaysInRange {σ : Type} (roller : Roller σ) : Prop :=
  ∀ (d : Difficulty) dice, ((roller d.sides dice).1 : ℚ) < Binary64.overflow

theorem Roller.ShowsFaces.staysInRange {σ : Type} {roller : Roller σ} (h : roller.ShowsFaces) :
    roller.StaysInRange := by
  intro d dice
  have hmost : ((roller d.sides dice).1 : ℚ) ≤ d.sides := by
    exact_mod_cast (h d.sides dice d.sides_pos).2
  exact hmost.trans_lt d.sides_lt_overflow

namespace Session

variable {σ : Type}

/-- Make checks one after the other. -/
def checks (roller : Roller σ) :
    List CheckRequest → Session σ → List (Except CheckFault (Option Check)) × Session σ
  | [], s => ([], s)
  | r :: rest, s =>
      let (result, s) := s.check roller r.name r.base r.advantage r.bonus
      let (results, s) := checks roller rest s
      (result :: results, s)

variable {roller : Roller σ}

theorem sheet_check (hdice : roller.StaysInRange) (s : Session σ) (name : String)
    (base : Difficulty) (advantage bonus : Int) :
    (s.check roller name base advantage bonus).2.sheet =
      s.sheet.enterAll (Sheet.answered (s.check roller name base advantage bonus).1) := by
  obtain ⟨entered, hends, hsheet⟩ :=
    s.sheet.exists_checkEnds roller name base advantage bonus s.course
  have hentered := hends.entered_eq_iff.mpr fun ⟨stat, _, hrange⟩ =>
    (hdice _ _).not_ge hrange.past
  exact hsheet.trans (congrArg s.sheet.enterAll hentered)

/-- On dice in range the history after any checks is what it was, with what was answered behind it,
and nothing else on the sheet has changed. -/
theorem sheet_checks (hdice : roller.StaysInRange) (requests : List CheckRequest) (s : Session σ) :
    (checks roller requests s).2.sheet =
      s.sheet.enterAll ((checks roller requests s).1.flatMap Sheet.answered) := by
  induction requests generalizing s with
  | nil => exact (Sheet.enterAll_nil _).symm
  | cons r rest ih =>
    rw [checks]
    dsimp only
    rw [ih, sheet_check hdice, List.flatMap_cons, Sheet.enterAll_append]

end Session

end Tabletop
