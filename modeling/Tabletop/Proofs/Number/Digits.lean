import Mathlib.Algebra.Group.Nat.Defs
import Mathlib.Data.List.Induction
import Tabletop.Number.Decimal

/-!
# Decimal digits read back

The digits of a natural number stand for that number, and only those of zero begin with a zero. The
text of an integer is its digits behind a minus sign if it is negative; how many digits there are
depends on the size of the integer alone.
-/
namespace Tabletop.Decimal

theorem digits_eq_toDigits (n : Nat) : digits n = Nat.toDigits 10 n := Nat.toList_repr

theorem digits_ne_nil (n : Nat) : digits n ≠ [] := by
  rw [digits_eq_toDigits]
  exact Nat.toDigits_ne_nil

theorem isDigit_iff {c : Char} : isDigit c ↔ 48 ≤ c.toNat ∧ c.toNat ≤ 57 := by
  simp [isDigit]

theorem isDigit_of_mem_digits {n : Nat} {c : Char} (h : c ∈ digits n) : isDigit c := by
  rw [digits_eq_toDigits] at h
  have hdigit := Nat.isDigit_of_mem_toDigits (by decide) (by decide) h
  simp only [Char.isDigit, Bool.and_eq_true, decide_eq_true_eq] at hdigit
  exact isDigit_iff.mpr hdigit

/-- The digits of a number stand for it. -/
theorem ofDigits_digits (n : Nat) : ofDigits (digits n) = n := by
  have hsame : ofDigits (digits n) = Nat.ofDigitChars 10 (digits n) 0 := by
    rw [Nat.ofDigitChars_eq_foldl]
    simp only [ofDigits, digitValue, Nat.mul_comm]
  rw [hsame, digits_eq_toDigits]
  exact Nat.ofDigitChars_toDigits (by decide) (by decide)

/-- A run of digits stands for a number that has no more of them. -/
theorem ofDigits_lt {cs : List Char} (h : ∀ c ∈ cs, isDigit c) : ofDigits cs < 10 ^ cs.length := by
  induction cs using List.reverseRecOn with
  | nil => decide
  | append_singleton cs c ih =>
    have hbefore := ih fun d hd => h d (List.mem_append_left _ hd)
    have hlast := isDigit_iff.mp (h c (by simp))
    have hvalue : ofDigits (cs ++ [c]) = ofDigits cs * 10 + digitValue c := by
      rw [ofDigits, List.foldl_append]
      rfl
    have hzero : '0'.toNat = 48 := rfl
    rw [hvalue, digitValue, List.length_append, List.length_singleton, Nat.pow_succ]
    omega

/-- Only the digits of zero begin with a zero. -/
theorem digits_eq_cons_zero {n : Nat} {cs : List Char} (h : digits n = '0' :: cs) :
    n = 0 ∧ cs = [] := by
  induction n using Nat.strongRecOn generalizing cs with
  | ind n ih =>
    have hstep := Nat.toDigits_eq_if (b := 10) (n := n) (by decide)
    rw [← digits_eq_toDigits, ← digits_eq_toDigits, h] at hstep
    split at hstep
    · rename_i hlt
      have hzero : ∀ m < 10, '0' = Nat.digitChar m → m = 0 := by decide
      simp only [List.cons.injEq] at hstep
      exact ⟨hzero n hlt hstep.1, hstep.2⟩
    · -- the digits before the last one begin with a zero too, so they are those of zero
      cases hhead : digits (n / 10) with
      | nil => exact absurd hhead (digits_ne_nil _)
      | cons c rest =>
        rw [hhead, List.cons_append, List.cons.injEq] at hstep
        have := (ih (n / 10) (by omega) (hstep.1 ▸ hhead)).1
        omega

theorem fits_iff {n : Int} : fits n ↔ n.natAbs < 10 ^ digitLimit := by
  simp only [fits, decide_eq_true_eq, Nat.pow_eq]

theorem fits_of_natAbs_le {m n : Int} (h : fits n) (hle : m.natAbs ≤ n.natAbs) : fits m := by
  rw [fits_iff] at h ⊢
  exact Nat.lt_of_le_of_lt hle h

/-- An integer of one or two digits is not too long. -/
theorem fits_of_natAbs_lt_hundred {n : Int} (h : n.natAbs < 100) : fits n := by
  have hpow : 10 ^ 2 ≤ 10 ^ digitLimit := Nat.pow_le_pow_right (by decide) (by decide)
  exact fits_iff.mpr (Nat.lt_of_lt_of_le h hpow)

theorem length_digits_le {n : Int} (h : fits n) : (digits n.natAbs).length ≤ digitLimit := by
  rw [digits_eq_toDigits, Nat.length_toDigits_le_iff (by decide) (by decide)]
  exact fits_iff.mp h

/-- The text of an integer: its digits, behind a minus sign if it is negative. -/
theorem toList_text (n : Int) :
    (text n).toList = if n < 0 then '-' :: digits n.natAbs else digits n.natAbs := by
  cases n with
  | ofNat m => simp [text, digits]
  | negSucc m => simp [text, digits, Int.negSucc_lt_zero]

end Tabletop.Decimal
