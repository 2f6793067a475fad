import Mathlib.Algebra.Order.Field.Power
import Mathlib.Data.Int.Log
import Mathlib.Data.Rat.Floor
import Mathlib.Tactic.Linarith
import Mathlib.Tactic.Positivity
import Mathlib.Tactic.Ring
import Tabletop.Proofs.Number.Guarded

/-!
# The range of binary numbers

There is a largest finite number. What is less than half a unit of its last place above it is
rounded to a finite number, and all from there on is infinite. So a quotient is finite exactly if it
is in this range, however large the numbers are that are divided.
-/
namespace Tabletop

namespace Binary64

/-- The largest finite number. -/
def largest : ℚ := (mantissaBound - 1) * 2 ^ maxExponent

/-- The least number that is rounded to an infinity, half a unit above the largest finite one. -/
def overflow : ℚ := (mantissaBound - 1 / 2) * 2 ^ maxExponent

theorem largest_lt_overflow : largest < overflow := by
  unfold largest overflow
  gcongr
  norm_num

/-- The end of the last binade. -/
theorem overflow_lt_pow : overflow < 2 ^ 1024 := by
  have hbound : (mantissaBound : ℚ) = 2 ^ 53 := by norm_num [mantissaBound]
  calc overflow < mantissaBound * 2 ^ maxExponent := by
        unfold overflow
        gcongr
        linarith
    _ = 2 ^ 1024 := by
        rw [hbound, ← zpow_natCast, ← zpow_natCast, ← zpow_add₀ two_ne_zero]
        rfl

theorem twoPow_eq (e : Int) : twoPow e = 2 ^ e := by
  unfold twoPow
  split
  · rename_i hnonneg
    obtain ⟨n, rfl⟩ := Int.eq_ofNat_of_zero_le hnonneg
    rw [Int.toNat_natCast, zpow_natCast]
    exact_mod_cast rfl
  · rename_i hneg
    obtain ⟨n, hn⟩ := Int.eq_ofNat_of_zero_le (show 0 ≤ -e by omega)
    obtain rfl : e = -n := by omega
    rw [Int.neg_neg, Int.toNat_natCast, zpow_neg, zpow_natCast, Rat.mkRat_eq_div]
    simp

theorem largest_pos : 0 < largest := by
  have hbound : (1 : ℚ) < mantissaBound := by norm_num [mantissaBound]
  exact mul_pos (sub_pos.mpr hbound) (by positivity)

theorem abs_value_le_largest (negative : Bool) {m : Nat} {e : Int} (hm : m < mantissaBound)
    (he : e ≤ maxExponent) : |(finite negative m e).value| ≤ largest := by
  have hbound : (1 : ℚ) ≤ mantissaBound := by norm_num [mantissaBound]
  have hmantissa : (m : ℚ) ≤ mantissaBound - 1 := by
    have : (m : ℚ) + 1 ≤ mantissaBound := by exact_mod_cast hm
    linarith
  have hsize : |(finite negative m e).value| = m * 2 ^ e := by
    cases negative <;> simp [value, twoPow_eq, abs_mul]
  rw [hsize, largest]
  gcongr

/-- No number that 64 bits hold is larger. -/
theorem isGreatest_largest :
    IsGreatest {q | ∃ x : Binary64, x.Canonical ∧ x.value = q} largest := by
  constructor
  · refine ⟨finite false (mantissaBound - 1) maxExponent,
      ⟨by decide, by decide, le_rfl, .inl (by decide)⟩, ?_⟩
    simp only [value, twoPow_eq, largest]
    have hone : 1 ≤ mantissaBound := by decide
    push_cast [hone]
    simp
  · rintro _ ⟨x, hx, rfl⟩
    cases x with
    | finite negative m e =>
      obtain ⟨hm, -, he, -⟩ := hx
      exact (le_abs_self _).trans (abs_value_le_largest negative hm he)
    | infinite negative => exact largest_pos.le
    | nan => exact largest_pos.le

/-! ### The exponent of a quotient -/

/-- A quotient is compared with a power of two in natural numbers. -/
theorem isBelow_iff {num den : Nat} (hden : 0 < den) (top : Int) :
    (if 0 ≤ top then decide (num < den * Nat.pow 2 top.toNat)
      else decide (num * Nat.pow 2 (-top).toNat < den)) = true ↔ (num : ℚ) / den < 2 ^ top := by
  have hpos : (0 : ℚ) < den := by exact_mod_cast hden
  rw [div_lt_iff₀ hpos]
  split
  · rename_i hnonneg
    obtain ⟨n, rfl⟩ := Int.eq_ofNat_of_zero_le hnonneg
    rw [Int.toNat_natCast, zpow_natCast, mul_comm, decide_eq_true_iff]
    exact_mod_cast Iff.rfl
  · rename_i hneg
    obtain ⟨n, hn⟩ := Int.eq_ofNat_of_zero_le (show 0 ≤ -top by omega)
    obtain rfl : top = -n := by omega
    rw [Int.neg_neg, Int.toNat_natCast, zpow_neg, zpow_natCast, inv_mul_eq_div,
      lt_div_iff₀ (by positivity), decide_eq_true_iff]
    exact_mod_cast Iff.rfl

/-- The logarithms of the two parts of a quotient tell its own, up to one. -/
theorem log_div_bounds {num den : Nat} (hnum : 0 < num) (hden : 0 < den) :
    let top : Int := (num.log2 : Int) - (den.log2 : Int)
    top - 1 ≤ Int.log 2 ((num : ℚ) / den) ∧ Int.log 2 ((num : ℚ) / den) < top + 1 := by
  intro top
  have hpos : (0 : ℚ) < den := by exact_mod_cast hden
  have hquotient : (0 : ℚ) < (num : ℚ) / den := div_pos (by exact_mod_cast hnum) hpos
  have hnumLow : (2 : ℚ) ^ (num.log2 : Int) ≤ num := by
    exact_mod_cast Nat.log2_self_le hnum.ne'
  have hnumHigh : (num : ℚ) < 2 ^ ((num.log2 : Int) + 1) := by
    exact_mod_cast Nat.lt_log2_self
  have hdenLow : (2 : ℚ) ^ (den.log2 : Int) ≤ den := by
    exact_mod_cast Nat.log2_self_le hden.ne'
  have hdenHigh : (den : ℚ) < 2 ^ ((den.log2 : Int) + 1) := by
    exact_mod_cast Nat.lt_log2_self
  rw [← Int.zpow_le_iff_le_log one_lt_two hquotient, ← Int.lt_zpow_iff_log_lt one_lt_two hquotient,
    le_div_iff₀ hpos, div_lt_iff₀ hpos]
  constructor
  · calc (2 : ℚ) ^ (top - 1) * den ≤ 2 ^ (top - 1) * 2 ^ ((den.log2 : Int) + 1) := by gcongr
      _ = 2 ^ (num.log2 : Int) := by
        rw [← zpow_add₀ two_ne_zero]
        congr 1
        omega
      _ ≤ num := hnumLow
  · calc (num : ℚ) < 2 ^ ((num.log2 : Int) + 1) := hnumHigh
      _ = 2 ^ (top + 1) * 2 ^ (den.log2 : Int) := by
        rw [← zpow_add₀ two_ne_zero]
        congr 1
        omega
      _ ≤ 2 ^ (top + 1) * den := by gcongr

/-- The exponent of a quotient is that of the power of two below it, less the places of a full
mantissa. -/
theorem quotientExponent_eq_log {num den : Nat} (hnum : 0 < num) (hden : 0 < den) :
    quotientExponent num den = Int.log 2 ((num : ℚ) / den) - 52 := by
  have hquotient : (0 : ℚ) < (num : ℚ) / den :=
    div_pos (by exact_mod_cast hnum) (by exact_mod_cast hden)
  obtain ⟨hlow, hhigh⟩ := log_div_bounds hnum hden
  let top : Int := (num.log2 : Int) - (den.log2 : Int)
  have hbelow := (@isBelow_iff num den hden top).trans
    (Int.lt_zpow_iff_log_lt one_lt_two hquotient)
  by_cases hlog : Int.log 2 ((num : ℚ) / den) < top
  · have hexponent : quotientExponent num den = top - 53 := if_pos (hbelow.mpr hlog)
    omega
  · have hexponent : quotientExponent num den = top - 52 := if_neg (mt hbelow.mp hlog)
    omega

/-! ### Rounding at the end of the range -/

/-- An even number is reached by all that is not more than a half below it. -/
theorem le_roundHalfEven_iff {num den k : Nat} (hden : 0 < den) (hk : 0 < k) (heven : k % 2 = 0) :
    k ≤ roundHalfEven num den ↔ (k : ℚ) - 1 / 2 ≤ num / den := by
  have hhalf : (k : ℚ) - 1 / 2 ≤ num / den ↔ (2 * k - 1) * den ≤ 2 * num := by
    rw [le_div_iff₀ (by exact_mod_cast hden), ← Nat.cast_le (α := ℚ)]
    push_cast [show 1 ≤ 2 * k by omega]
    constructor <;> intro h <;> linarith
  have hsplit : den * (num / den) + num % den = num := Nat.div_add_mod num den
  have hrest : num % den < den := Nat.mod_lt num hden
  rw [hhalf]
  simp only [roundHalfEven, Bool.or_eq_true, Bool.and_eq_true, decide_eq_true_eq, beq_iff_eq]
  generalize num / den = q at *
  generalize num % den = r at *
  subst hsplit
  rcases lt_trichotomy (q + 1) k with hlow | rfl | hhigh
  · have hle := Nat.mul_le_mul_right den (show 2 * q + 3 ≤ 2 * k - 1 by omega)
    have hexpand : (2 * q + 3) * den = 2 * (den * q) + 3 * den := by ring
    split <;> omega
  · have hexpand : (2 * (q + 1) - 1) * den = 2 * (den * q) + den := by
      rw [show 2 * (q + 1) - 1 = 2 * q + 1 by omega]
      ring
    rw [hexpand]
    split <;> omega
  · have hle := Nat.mul_le_mul_right den (show 2 * k - 1 ≤ 2 * q by omega)
    have hexpand : 2 * q * den = 2 * (den * q) := by ring
    split <;> omega

/-- What is not above an integer is not rounded above it. -/
theorem roundHalfEven_le {num den k : Nat} (hden : 0 < den) (h : num ≤ den * k) :
    roundHalfEven num den ≤ k := by
  have hsplit : den * (num / den) + num % den = num := Nat.div_add_mod num den
  have hq : num / den ≤ k := Nat.div_le_of_le_mul h
  simp only [roundHalfEven]
  rcases hq.lt_or_eq with hlt | heq
  · split <;> omega
  · rw [heq] at hsplit ⊢
    have hrest : num % den = 0 := by omega
    rw [if_neg (by simp [hrest, hden.ne])]

/-- What is below the end of a binade is not rounded past it. -/
theorem roundedMantissa_le {num den : Nat} (hden : 0 < den) {e : Int}
    (h : (num : ℚ) / den < mantissaBound * 2 ^ e) :
    roundedMantissa num den e ≤ mantissaBound := by
  rw [div_lt_iff₀ (by exact_mod_cast hden)] at h
  unfold roundedMantissa
  split
  · rename_i hnonneg
    obtain ⟨n, rfl⟩ := Int.eq_ofNat_of_zero_le hnonneg
    refine roundHalfEven_le (Nat.mul_pos hden (Nat.two_pow_pos n)) ?_
    rw [zpow_natCast] at h
    have hnat : num < mantissaBound * 2 ^ n * den := by exact_mod_cast h
    have hpow : Nat.pow 2 (n : Int).toNat = 2 ^ n := rfl
    rw [hpow]
    linarith
  · rename_i hneg
    obtain ⟨n, hn⟩ := Int.eq_ofNat_of_zero_le (show 0 ≤ -e by omega)
    obtain rfl : e = -n := by omega
    refine roundHalfEven_le hden ?_
    rw [zpow_neg, zpow_natCast, mul_right_comm, ← div_eq_mul_inv, lt_div_iff₀ (by positivity)] at h
    have hnat : num * 2 ^ n < mantissaBound * den := by exact_mod_cast h
    have hpow : Nat.pow 2 (-(-(n : Int))).toNat = 2 ^ n := by simp
    rw [hpow]
    linarith

/-- A quotient below a binade is rounded to the end of the binade exactly from half a unit before it
on. -/
theorem roundedMantissa_eq_mantissaBound_iff {num den : Nat} (hden : 0 < den) {e : Int}
    (he : 0 ≤ e) (h : (num : ℚ) / den < mantissaBound * 2 ^ e) :
    roundedMantissa num den e = mantissaBound ↔
      (mantissaBound - 1 / 2) * 2 ^ e ≤ (num : ℚ) / den := by
  obtain ⟨n, rfl⟩ := Int.eq_ofNat_of_zero_le he
  have hunit : 0 < den * 2 ^ n := by positivity
  have hle := roundedMantissa_le hden h
  have hrounded : roundedMantissa num den n = roundHalfEven num (den * 2 ^ n) := if_pos he
  rw [hrounded] at hle
  rw [hrounded, ← hle.ge_iff_eq, le_roundHalfEven_iff hunit (by decide) (by decide)]
  push_cast
  rw [← div_div, le_div_iff₀ (by positivity), zpow_natCast]

/-- A quotient is finite if its exponent is, after rounding. -/
theorem isFinite_ofQuotient (negative : Bool) (num den : Nat) :
    let e := max minExponent (quotientExponent num den)
    (ofQuotient negative num den).isFinite = true ↔
      (if roundedMantissa num den e = mantissaBound then e + 1 else e) ≤ maxExponent := by
  intro e
  have hexponent : (rounded num den).2 =
      if roundedMantissa num den e = mantissaBound then e + 1 else e := by
    rcases rounded_eq num den with ⟨hm, h⟩ | ⟨hm, h⟩
    · rw [h, if_pos hm]
    · rw [h, if_neg hm]
  rw [ofQuotient_eq, ← hexponent, ← Int.not_lt]
  split <;> simp_all [isFinite]

/-- A quotient is finite exactly below the overflow. -/
theorem isFinite_ofQuotient_iff (negative : Bool) {num den : Nat} (hnum : 0 < num)
    (hden : 0 < den) :
    (ofQuotient negative num den).isFinite = true ↔ (num : ℚ) / den < overflow := by
  have hquotient : (0 : ℚ) < (num : ℚ) / den :=
    div_pos (by exact_mod_cast hnum) (by exact_mod_cast hden)
  have hbound : (mantissaBound : ℚ) = 2 ^ (53 : ℤ) := by norm_num [mantissaBound]
  have hmin : minExponent < maxExponent := by decide
  have hunit : (0 : ℚ) < 2 ^ maxExponent := by positivity
  have htop : (mantissaBound : ℚ) * 2 ^ maxExponent = 2 ^ (53 + maxExponent) := by
    rw [hbound, zpow_add₀ two_ne_zero]
  have hlast : (2 : ℚ) ^ (52 + maxExponent) ≤ overflow := by
    rw [zpow_add₀ two_ne_zero, overflow, hbound]
    gcongr
    norm_num
  have hexponent := quotientExponent_eq_log hnum hden
  have hlog (z : Int) : (num : ℚ) / den < 2 ^ z ↔ Int.log 2 ((num : ℚ) / den) < z := by
    exact_mod_cast Int.lt_zpow_iff_log_lt one_lt_two hquotient
  refine (isFinite_ofQuotient negative num den).trans ?_
  rcases lt_trichotomy (quotientExponent num den) maxExponent with hlow | heq | hhigh
  · have hbelow : (num : ℚ) / den < 2 ^ (52 + maxExponent) := by
      rw [hlog]
      omega
    refine iff_of_true ?_ (hbelow.trans_le hlast)
    split <;> omega
  · have hbelow : (num : ℚ) / den < mantissaBound * 2 ^ maxExponent := by
      rw [htop, hlog]
      omega
    have hrounded := roundedMantissa_eq_mantissaBound_iff hden (by decide) hbelow
    rw [heq, max_eq_right hmin.le, ← not_le, ← show _ ↔ overflow ≤ _ from hrounded]
    split <;> simp_all
  · have habove : (2 : ℚ) ^ (53 + maxExponent) ≤ num / den := by
      rw [← not_lt, hlog]
      omega
    have hover : overflow ≤ 2 ^ (53 + maxExponent) := by
      rw [← htop, overflow]
      gcongr
      norm_num
    refine iff_of_false ?_ (hover.trans habove).not_gt
    split <;> omega

theorem overflow_pos : 0 < overflow := by
  have hbound : (1 : ℚ) ≤ mantissaBound := by norm_num [mantissaBound]
  exact mul_pos (by linarith) (by positivity)

theorem isFinite_ofInt_iff (n : Int) : (ofInt n).isFinite = true ↔ |(n : ℚ)| < overflow := by
  by_cases h : n = 0
  · subst h
    exact iff_of_true rfl (by simpa using overflow_pos)
  · rw [ofInt, if_neg (by simpa using h),
      isFinite_ofQuotient_iff _ (Int.natAbs_pos.mpr h) Nat.one_pos, Nat.cast_natAbs]
    simp

/-- A finite integer other than zero has the sign of the integer. -/
theorem ofInt_eq_finite {n : Int} (hn : n ≠ 0) (h : (ofInt n).isFinite = true) :
    ∃ m e, ofInt n = finite (decide (n < 0)) m e := by
  rw [ofInt, if_neg (by simpa using hn)] at h ⊢
  rcases ofQuotient_cases (decide (n < 0)) n.natAbs 1 with hinf | ⟨m, e, hfin, -⟩
  · rw [hinf] at h
    cases h
  · exact ⟨m, e, hfin⟩

end Binary64

/-! ### Quotients of integers -/

namespace Number

open Binary64

variable {m n : Int}

theorem isFinite_quotient_iff (hn : n ≠ 0) :
    (quotient m n).isFinite = true ↔ |(m : ℚ) / n| < overflow := by
  by_cases hm : m = 0
  · subst hm
    exact iff_of_true rfl (by simpa using overflow_pos)
  · rw [quotient, if_neg (by simpa using hm),
      isFinite_ofQuotient_iff _ (Int.natAbs_pos.mpr hm) (Int.natAbs_pos.mpr hn),
      Nat.cast_natAbs, Nat.cast_natAbs, abs_div]
    push_cast
    rfl

/-- What dividing an integer by another gives: the number nearest to their quotient, if it is in
range. Past the range it is infinite with the sign of the quotient, but only as long as the divisor
is in range itself. -/
inductive IsQuotient (m n : Int) : Binary64 → Prop
  | nearest (h : |(m : ℚ) / n| < overflow) : IsQuotient m n (quotient m n)
  | infinite (h : overflow ≤ |(m : ℚ) / n|) (hdivisor : |(n : ℚ)| < overflow) :
      IsQuotient m n (.infinite (decide ((m : ℚ) / n < 0)))
  | nan (h : overflow ≤ |(m : ℚ) / n|) (hdivisor : overflow ≤ |(n : ℚ)|) : IsQuotient m n .nan

/-- An integer is not finite if it is too large after a division. -/
theorem isFinite_ofInt_of_le (hn : n ≠ 0) (hlarge : overflow ≤ |(m : ℚ) / n|) :
    (ofInt m).isFinite = false := by
  have hone : (1 : ℚ) ≤ |(n : ℚ)| := by exact_mod_cast Int.one_le_abs hn
  have hle : |(m : ℚ) / n| ≤ |(m : ℚ)| := by
    rw [abs_div]
    exact div_le_self (abs_nonneg _) hone
  rw [← Bool.not_eq_true, isFinite_ofInt_iff, not_lt]
  exact hlarge.trans hle

/-- Where the quotient is too large but the divisor is not, dividing the nearest numbers gives an
infinity with the sign of the quotient. -/
theorem div_ofInt_of_lt (hn : n ≠ 0) (hlarge : overflow ≤ |(m : ℚ) / n|)
    (hdivisor : |(n : ℚ)| < overflow) :
    (ofInt m).div (ofInt n) = .infinite (decide ((m : ℚ) / n < 0)) := by
  obtain ⟨k, e, hk⟩ := ofInt_eq_finite hn ((isFinite_ofInt_iff n).mpr hdivisor)
  have hm : m ≠ 0 := by
    rintro rfl
    simp only [Int.cast_zero, zero_div, abs_zero] at hlarge
    exact hlarge.not_gt overflow_pos
  have hsign : (!decide (0 < m)) != decide (n < 0) ↔ (m : ℚ) / n < 0 := by
    rw [div_neg_iff, Int.cast_lt_zero, Int.cast_lt_zero, Int.cast_pos, Int.cast_pos, bne_iff_ne,
      ← decide_not, ne_eq, decide_eq_decide]
    omega
  rw [ofInt_eq_infinite (isFinite_ofInt_of_le hn hlarge), hk, Binary64.div]
  exact congrArg infinite (Bool.eq_iff_iff.mpr (hsign.trans decide_eq_true_iff.symm))

/-- Where the divisor is too large as well, it gives no number at all. -/
theorem div_ofInt_of_le (hn : n ≠ 0) (hlarge : overflow ≤ |(m : ℚ) / n|)
    (hdivisor : overflow ≤ |(n : ℚ)|) : (ofInt m).div (ofInt n) = .nan := by
  have hinfinite : (ofInt n).isFinite = false := by
    rw [← Bool.not_eq_true, isFinite_ofInt_iff, not_lt]
    exact hdivisor
  rw [ofInt_eq_infinite (isFinite_ofInt_of_le hn hlarge), ofInt_eq_infinite hinfinite]
  rfl

theorem exists_isQuotient (m : Int) (hn : n ≠ 0) :
    ∃ x, (int m).div (int n) = real x ∧ IsQuotient m n x := by
  rcases lt_or_ge |(m : ℚ) / n| overflow with hsmall | hlarge
  · have hfinite := (isFinite_quotient_iff hn).mpr hsmall
    exact ⟨quotient m n, by simp [div, hn, hfinite], .nearest hsmall⟩
  · have hfinite := mt (isFinite_quotient_iff hn).mp hlarge.not_gt
    have hdiv : (int m).div (int n) = real ((ofInt m).div (ofInt n)) := by simp [div, hfinite]
    refine ⟨_, hdiv, ?_⟩
    rcases lt_or_ge |(n : ℚ)| overflow with hdivisor | hdivisor
    · rw [div_ofInt_of_lt hn hlarge hdivisor]
      exact .infinite hlarge hdivisor
    · rw [div_ofInt_of_le hn hlarge hdivisor]
      exact .nan hlarge hdivisor

end Number

end Tabletop
