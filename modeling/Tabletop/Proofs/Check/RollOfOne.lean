import Tabletop.Proofs.Check.Making
import Tabletop.Proofs.Number.Range

/-!
# Rolls of one

A roll of one is kept from failing by comparing its degree with zero: what is below becomes zero. So
it is a flat success at least against every integer and every binary number, infinities included. A
value that is no number makes the degree none either, and that is not below zero, nor is it a
success.
-/
namespace Tabletop

/-! ### Signs of binary numbers -/

namespace Binary64

variable {x y : Binary64}

/-- Among numbers, zero and above is what is not below zero. -/
theorem isAtLeastZero_eq (h : x ≠ nan) : x.isAtLeastZero = !x.isBelowZero := by
  cases x with
  | finite negative m e => cases negative <;> simp [isAtLeastZero, isBelowZero, bne]
  | infinite negative => rfl
  | nan => exact absurd rfl h

theorem value_nonneg (h : x.isAtLeastZero = true) : 0 ≤ x.value := by
  cases x with
  | finite negative m e =>
    have hsize : 0 ≤ (m : ℚ) * 2 ^ e := by positivity
    cases negative with
    | false => simpa [value, twoPow_eq] using hsize
    | true =>
      obtain rfl : m = 0 := by simpa [isAtLeastZero] using h
      simp [value]
  | infinite negative => exact le_rfl
  | nan => exact le_rfl

theorem truncate_nonneg (h : 0 ≤ x.value) : 0 ≤ x.truncate :=
  Int.tdiv_nonneg (Rat.num_nonneg.mpr h) (Int.natCast_nonneg _)

/-- A rational is rounded to a number. -/
theorem ofRat_ne_nan (zeroSign : Bool) (q : ℚ) : ofRat zeroSign q ≠ nan := by
  unfold ofRat
  split
  · exact nofun
  · rcases ofQuotient_cases (decide (q < 0)) q.num.natAbs q.den with h | ⟨m, e, h, -⟩ <;>
      rw [h] <;> exact nofun

/-- What is not below zero is not rounded below it. -/
theorem value_ofRat_nonneg (zeroSign : Bool) {q : ℚ} (h : 0 ≤ q) :
    0 ≤ (ofRat zeroSign q).value := by
  unfold ofRat
  split
  · simp [zero, value]
  · rw [decide_eq_false h.not_gt]
    rcases ofQuotient_cases false q.num.natAbs q.den with h | ⟨m, e, h, -⟩ <;> rw [h]
    · exact le_rfl
    · exact value_nonneg rfl

/-- A difference from a finite number is a number if the other one is. -/
theorem sub_eq_nan_iff (hx : x.isFinite = true) : x.sub y = nan ↔ y = nan := by
  cases x with
  | finite s m e =>
    cases y with
    | finite t n f => exact iff_of_false (ofRat_ne_nan _ _) nofun
    | infinite t => exact iff_of_false nofun nofun
    | nan => exact iff_of_true rfl rfl
  | infinite s => cases hx
  | nan => cases hx

/-- Dividing by a number above zero keeps a number above it. -/
theorem value_div_nonneg (hx : x.isFinite = true) (hxsign : x.isAtLeastZero = true)
    (hy : y.isFinite = true) (hysign : y.isAtLeastZero = true) (hzero : y.isZero = false) :
    0 ≤ (x.div y).value := by
  have hquotient : 0 ≤ x.value / y.value := div_nonneg (value_nonneg hxsign) (value_nonneg hysign)
  cases x with
  | finite s m e =>
    cases y with
    | finite t n f =>
      rw [div, if_neg (by simp [hzero])]
      exact value_ofRat_nonneg _ hquotient
    | infinite t => cases hy
    | nan => cases hy
  | infinite s => cases hx
  | nan => cases hx

end Binary64

namespace Check

/-- The steps of a critical result are not negative for a success. -/
theorem criticalSteps_nonneg {degree : Number} (h : degree.isAtLeastZero = true) :
    0 ≤ criticalSteps degree := by
  cases degree with
  | int n => exact Int.tdiv_nonneg (by simpa [Number.isAtLeastZero] using h) (by decide)
  | real x =>
    rw [criticalSteps]
    split
    · rename_i hfinite
      exact Binary64.truncate_nonneg (Binary64.value_div_nonneg hfinite h (by decide +kernel)
        (by decide +kernel) (by decide +kernel))
    · exact le_rfl

/-- The die against any value. -/
theorem intSub?_one (v : Number) :
    ∃ degree, Number.intSub? 1 v = some degree ∧ (degree = .real .nan ↔ v = .real .nan) := by
  cases v with
  | int n => exact ⟨_, rfl, by simp⟩
  | real y =>
    have hone : (Binary64.ofInt 1).isFinite = true := by decide +kernel
    have hsub : Number.intSub? 1 (.real y) = some (.real ((Binary64.ofInt 1).sub y)) := by
      simp [Number.intSub?, hone]
    refine ⟨_, hsub, ?_⟩
    rw [Number.real.injEq, Number.real.injEq, Binary64.sub_eq_nan_iff hone]

/-- What is a number is at least zero once it is raised to zero from below. -/
theorem isAtLeastZero_of_ne_nan {degree : Number} (h : degree ≠ .real .nan) :
    (if degree.isBelowZero then Number.int 0 else degree).isAtLeastZero = true := by
  split
  · rfl
  · rename_i hbelow
    cases degree with
    | int n => simpa [Number.isBelowZero, Number.isAtLeastZero] using hbelow
    | real x =>
      have hx : x ≠ .nan := fun hnan => h (congrArg Number.real hnan)
      simpa [Number.isBelowZero, Number.isAtLeastZero, Binary64.isAtLeastZero_eq hx] using hbelow

/-- A roll of one has a degree against every value, and no negative steps of a critical result. It
succeeds just if the value is a number; if not, the degree is none either. -/
theorem succeeds_on_one {c : Check} (hone : c.die = 1) :
    ∃ degree steps, c.degree? = some degree ∧ c.critical? = some steps ∧ 0 ≤ steps ∧
      c.succeeds? = some degree.isAtLeastZero ∧
      (degree.isAtLeastZero = true ↔ c.value ≠ .real .nan) ∧
      (c.value = .real .nan → degree = .real .nan ∧ steps = 0) := by
  obtain ⟨plain, hplain, hnan⟩ := intSub?_one c.value
  have hdegree : c.degree? = some (if plain.isBelowZero then .int 0 else plain) := by
    simp [degree?, hone, hplain]
  by_cases hvalue : c.value = .real .nan
  · obtain rfl := hnan.mpr hvalue
    have hcritical : c.critical? = some 0 := by
      rw [critical?, hdegree]
      rfl
    refine ⟨_, 0, hdegree, hcritical, le_rfl, by rw [succeeds?, hdegree]; rfl, ?_,
      fun _ => ⟨rfl, rfl⟩⟩
    exact iff_of_false nofun (not_not_intro hvalue)
  · have hzero := isAtLeastZero_of_ne_nan (mt hnan.mp hvalue)
    refine ⟨_, _, hdegree, by rw [critical?, hdegree]; rfl, criticalSteps_nonneg hzero,
      by rw [succeeds?, hdegree]; rfl, iff_of_true hzero hvalue, fun h => absurd h hvalue⟩

end Check

namespace Sheet

/-- Luck that is worth what its formula is. -/
def luck (formula : String) : Derived := ⟨"LUCK", "Luck", "", formula⟩

/-- A character who has nothing else. -/
def gambler (formula : String) : Sheet := ⟨.blank, [], [luck formula], [], []⟩

theorem find?_gambler (formula : String) :
    (gambler formula).find? (Statistic.ofDerived (luck formula)).id =
      some (.ofDerived (luck formula)) := by
  have hid : (Statistic.ofDerived (luck formula)).id = "LUCK" := rfl
  rw [hid, find?, Text.upper_of_ascii (by decide)]
  rfl

/-- A moderate check on luck with a die that shows a one. -/
def luckCheck (value : Binary64) : Check :=
  ⟨"LUCK", ⟨.real value, []⟩, .moderate, 0, 0, .moderate, 0, 1⟩

/-- Against luck without bounds a one is a flat success. -/
theorem succeeds_on_one_boundless :
    ((gambler "1 / 0").check (.fixed 1) "LUCK" .moderate 0 0 (.fresh () .empty)).1 =
        .ok (some (luckCheck (.infinite false))) ∧
      (luckCheck (.infinite false)).die = 1 ∧ (luckCheck (.infinite false)).succeeds? = some true ∧
      (luckCheck (.infinite false)).degree? = some (.int 0) := by
  have hdie : (luckCheck (.infinite false)).die = 1 := rfl
  have hvalue : (luckCheck (.infinite false)).value ≠ .real .nan := by decide
  obtain ⟨degree, steps, hdegree, -, -, hsucceeds, hiff, -⟩ := Check.succeeds_on_one hdie
  refine ⟨?_, hdie, by rw [hsucceeds, hiff.mpr hvalue], by decide +kernel⟩
  refine (check_eq_ok_some_iff (find?_gambler _)).mpr ?_
  rw [checkStatistic, evaluate, find?_gambler]
  decide +kernel

/-- Luck of nothing divided by nothing fails a roll of one. -/
theorem exists_failure_on_one :
    ∃ k, ((gambler "0 / 0").check (.fixed 1) "LUCK" .moderate 0 0 (.fresh () .empty)).1 =
        .ok (some k) ∧
      k.die = 1 ∧ k.degree? = some (.real .nan) ∧ k.succeeds? = some false := by
  refine ⟨luckCheck .nan, ?_, by decide +kernel⟩
  refine (check_eq_ok_some_iff (find?_gambler _)).mpr ?_
  rw [checkStatistic, evaluate, find?_gambler]
  decide +kernel

end Sheet

end Tabletop
