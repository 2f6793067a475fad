import Mathlib.Tactic.Common
import Tabletop.Breakdown
import Tabletop.Formula.Evaluated

/-!
# Arithmetic that may fail

Operations on integers and binary numbers can fail: an integer that meets a binary number is brought
to the nearest one, which there need not be, the quotient of two integers may be too large as well,
and nothing can be divided by zero. Operations of formulas are guarded against all of this. A zero
divisor has results of its own, and where something was too large the operation is done again with
binary numbers, among which what is too large is infinite. So a guarded operation never fails, and
its result is that of the operation on numbers.
-/
namespace Tabletop

/-! ### Rounding -/

namespace Binary64

/-- An integer that is not below the unit does not round to zero. -/
theorem roundHalfEven_pos {num den : Nat} (hden : 0 < den) (h : den ≤ num) :
    0 < roundHalfEven num den := by
  have hq : 0 < num / den := Nat.div_pos h hden
  simp only [roundHalfEven]
  split
  · exact Nat.succ_pos _
  · exact hq

/-- The unit that an integer is rounded to is not above the integer. -/
theorem pow_quotientExponent_le {num : Nat} (h : num ≠ 0) :
    Nat.pow 2 (quotientExponent num 1).toNat ≤ num := by
  have hone : Nat.log2 1 = 0 := by decide
  have hle : (quotientExponent num 1).toNat ≤ num.log2 := by
    simp only [quotientExponent, hone]
    split <;> omega
  exact Nat.le_trans (Nat.pow_le_pow_right Nat.two_pos hle) (Nat.log2_self_le h)

/-- A quotient in units of a power of two, rounded. -/
def roundedMantissa (num den : Nat) (e : Int) : Nat :=
  if 0 ≤ e then roundHalfEven num (den * Nat.pow 2 e.toNat)
  else roundHalfEven (num * Nat.pow 2 (-e).toNat) den

theorem roundedMantissa_pos {num : Nat} (h : num ≠ 0) :
    0 < roundedMantissa num 1 (max minExponent (quotientExponent num 1)) := by
  unfold roundedMantissa
  split
  · rename_i hnonneg
    have hmax : max minExponent (quotientExponent num 1) = quotientExponent num 1 := by
      simp only [minExponent] at hnonneg ⊢
      omega
    rw [hmax, Nat.one_mul]
    exact roundHalfEven_pos (Nat.pow_pos Nat.two_pos) (pow_quotientExponent_le h)
  · exact roundHalfEven_pos Nat.one_pos (Nat.mul_pos (Nat.pos_of_ne_zero h)
      (Nat.pow_pos Nat.two_pos))

/-- The mantissa and the exponent that a quotient is rounded to, before the end of the range is
looked at. A mantissa that is rounded up to the bound goes into the next binade. -/
def rounded (num den : Nat) : Nat × Int :=
  let e := max minExponent (quotientExponent num den)
  let m := roundedMantissa num den e
  if m == mantissaBound then (fullMantissa, e + 1) else (m, e)

theorem ofQuotient_eq (negative : Bool) (num den : Nat) :
    ofQuotient negative num den =
      if maxExponent < (rounded num den).2 then infinite negative
      else finite negative (rounded num den).1 (rounded num den).2 := rfl

theorem rounded_eq (num den : Nat) :
    let e := max minExponent (quotientExponent num den)
    let m := roundedMantissa num den e
    m = mantissaBound ∧ rounded num den = (fullMantissa, e + 1) ∨
      m ≠ mantissaBound ∧ rounded num den = (m, e) := by
  intro e m
  by_cases h : m = mantissaBound
  · exact .inl ⟨h, if_pos (beq_iff_eq.mpr h)⟩
  · exact .inr ⟨h, if_neg (mt beq_iff_eq.mp h)⟩

/-- A quotient is rounded to an infinity or to a finite number, which is zero only if the rounded
mantissa is. -/
theorem ofQuotient_cases (negative : Bool) (num den : Nat) :
    ofQuotient negative num den = infinite negative ∨
      ∃ m e, ofQuotient negative num den = finite negative m e ∧
        (0 < roundedMantissa num den (max minExponent (quotientExponent num den)) → m ≠ 0) := by
  rw [ofQuotient_eq]
  split
  · exact .inl rfl
  · refine .inr ⟨_, _, rfl, fun hpos => ?_⟩
    rcases rounded_eq num den with ⟨-, h⟩ | ⟨-, h⟩ <;> rw [h]
    · exact Nat.ne_of_gt (Nat.two_pow_pos 52)
    · exact Nat.ne_of_gt hpos

/-- The nearest number to an integer other than zero is not zero. -/
theorem isZero_ofInt {n : Int} (h : n ≠ 0) : (ofInt n).isZero = false := by
  rw [ofInt, if_neg (by simpa using h)]
  rcases ofQuotient_cases (decide (n < 0)) n.natAbs 1 with hinf | ⟨m, e, hfin, hm⟩
  · rw [hinf]
    rfl
  · have hpos := roundedMantissa_pos (Int.natAbs_ne_zero.mpr h)
    simpa [hfin, isZero] using hm hpos

/-- What is too large for a finite number is infinite, with the same sign. -/
theorem ofInt_eq_infinite {n : Int} (h : (ofInt n).isFinite = false) :
    ofInt n = infinite (!decide (0 < n)) := by
  by_cases hzero : n = 0
  · subst hzero
    cases h
  · have hsign : decide (n < 0) = !decide (0 < n) := by
      rw [← decide_not, decide_eq_decide]
      omega
    rw [ofInt, if_neg (by simpa using hzero), hsign] at h ⊢
    rcases ofQuotient_cases (!decide (0 < n)) n.natAbs 1 with hinf | ⟨m, e, hfin, -⟩
    · exact hinf
    · rw [hfin] at h
      cases h

/-- What dividing by a zero of a sign gives: an infinity of both signs together, unless the dividend
is zero or not a number. -/
def byZero (x : Binary64) (negative : Bool) : Binary64 :=
  if x.isZero || x = nan then nan else infinite (x.isNegative != negative)

theorem div_of_isZero {x y : Binary64} (h : y.isZero = true) :
    x.div y = x.byZero y.isNegative := by
  cases y with
  | finite t n f =>
    cases x with
    | finite s m e => simp [div, byZero, h, isNegative]
    | infinite s => simp [div, byZero, isZero, isNegative]
    | nan => simp [div, byZero]
  | _ => cases h

end Binary64

/-! ### Operations that may fail -/

/-- Why an operation has no result. -/
inductive Fault where
  | tooLarge
  | zeroDivisor
  deriving DecidableEq, Repr

namespace Number

/-- The binary number that a number is brought to when it meets one. -/
def convert : Number → Except Fault Binary64
  | int n => if (Binary64.ofInt n).isFinite then .ok (Binary64.ofInt n) else .error .tooLarge
  | real x => .ok x

/-- The same, an integer that is too large being infinite. -/
def saturate : Number → Binary64
  | int n =>
      match (int n).convert with
      | .ok x => x
      | .error _ => .infinite (!decide (0 < n))
  | real x => x

/-- The number is zero of either sign. -/
def isZero : Number → Bool
  | int n => n == 0
  | real x => x.isZero

/-- An operation that is exact on two integers and rounds on binary numbers. -/
def mixed (exact : Int → Int → Int) (rounded : Binary64 → Binary64 → Binary64) :
    Number → Number → Except Fault Number
  | int m, int n => .ok (int (exact m n))
  | x, y => do
      let x ← x.convert
      let y ← y.convert
      .ok (real (rounded x y))

/-- The quotient by a number that is not zero. -/
def plainQuotient : Number → Number → Except Fault Number
  | int m, int n =>
      if n = 0 then .error .zeroDivisor
      else if (quotient m n).isFinite then .ok (real (quotient m n))
      else .error .tooLarge
  | x, y => do
      let x ← x.convert
      let y ← y.convert
      if y.isZero then .error .zeroDivisor else .ok (real (x.div y))

/-- The quotient, with a result for zero divisors too. -/
def plainDivision (x y : Number) : Except Fault Number :=
  if y.isZero then .ok (real (x.saturate.byZero y.saturate.isNegative)) else plainQuotient x y

end Number

namespace Operator

/-- An operation as it is without a guard. -/
def plain : Operator → Number → Number → Except Fault Number
  | plus => Number.mixed (· + ·) Binary64.add
  | minus => Number.mixed (· - ·) Binary64.sub
  | times => Number.mixed (· * ·) Binary64.mul
  | divide => Number.plainDivision

/-- An operation that is done again with binary numbers where something was too large. -/
def guarded (op : Operator) (x y : Number) : Except Fault Number :=
  match op.plain x y with
  | .error .tooLarge => op.plain (.real x.saturate) (.real y.saturate)
  | result => result

end Operator

/-! ### Guarded operations do not fail -/

namespace Number

theorem convert_cases (x : Number) :
    x.convert = .ok x.toReal ∨ x.convert = .error .tooLarge := by
  cases x with
  | int n =>
    cases h : (Binary64.ofInt n).isFinite with
    | true => exact .inl (if_pos h)
    | false => exact .inr (if_neg (by simp [h]))
  | real x => exact .inl rfl

theorem saturate_eq (x : Number) : x.saturate = x.toReal := by
  cases x with
  | int n =>
    cases h : (Binary64.ofInt n).isFinite with
    | true =>
      have hconvert : (int n).convert = .ok (Binary64.ofInt n) := if_pos h
      rw [saturate, hconvert, toReal]
    | false =>
      have hconvert : (int n).convert = .error .tooLarge := if_neg (by simp [h])
      rw [saturate, hconvert, toReal, Binary64.ofInt_eq_infinite h]
  | real x => rfl

theorem isZero_toReal (x : Number) : x.toReal.isZero = x.isZero := by
  cases x with
  | int n =>
    by_cases h : n = 0
    · subst h
      rfl
    · rw [toReal, Binary64.isZero_ofInt h]
      exact (beq_eq_false_iff_ne.mpr h).symm
  | real x => rfl

/-- The operation finds the same where nothing is too large for it, and otherwise finds it for the
nearest binary numbers. -/
def Computes (plain : Number → Number → Except Fault Number) (f : Number → Number → Number) :
    Prop :=
  ∀ x y, plain x y = .ok (f x y) ∨
    plain x y = .error .tooLarge ∧ plain (real x.toReal) (real y.toReal) = .ok (f x y)

theorem computes_mixed {exact : Int → Int → Int} {rounded : Binary64 → Binary64 → Binary64}
    {f : Number → Number → Number} (hexact : ∀ m n, f (int m) (int n) = int (exact m n))
    (hrounded : ∀ x y, (x.isInt && y.isInt) = false → f x y = real (rounded x.toReal y.toReal)) :
    Computes (mixed exact rounded) f := by
  intro x y
  cases hint : x.isInt && y.isInt with
  | true =>
    cases x <;> cases y <;> cases hint
    exact .inl (congrArg Except.ok (hexact _ _).symm)
  | false =>
    rw [hrounded x y hint]
    have hmixed : mixed exact rounded x y = (do
        let x ← x.convert
        let y ← y.convert
        .ok (real (rounded x y))) := by
      cases x <;> cases y <;> first | rfl | cases hint
    rcases x.convert_cases with hx | hx <;> rcases y.convert_cases with hy | hy <;>
      rw [hmixed, hx, hy]
    · exact .inl rfl
    all_goals exact .inr ⟨rfl, rfl⟩

/-- A zero divisor is one among binary numbers too. -/
theorem plainDivision_of_isZero {x y : Number} (h : y.isZero = true) :
    plainDivision x y = .ok (real (x.toReal.div y.toReal)) := by
  have hreal : y.toReal.isZero = true := y.isZero_toReal.trans h
  rw [plainDivision, if_pos h, saturate_eq, saturate_eq, Binary64.div_of_isZero hreal]

/-- Binary numbers can always be divided. -/
theorem plainDivision_real (x y : Binary64) :
    plainDivision (real x) (real y) = .ok (real (x.div y)) := by
  cases h : y.isZero with
  | true => exact plainDivision_of_isZero h
  | false =>
    have hquotient : plainDivision (real x) (real y) = plainQuotient (real x) (real y) :=
      if_neg (by simp [isZero, h])
    rw [hquotient]
    exact if_neg (by simp [h])

/-- The quotient of two integers, or of the nearest numbers if it is too large. -/
theorem plainDivision_int (m n : Int) :
    plainDivision (int m) (int n) = .ok (div (int m) (int n)) ∨
      plainDivision (int m) (int n) = .error .tooLarge ∧
        div (int m) (int n) = real ((Binary64.ofInt m).div (Binary64.ofInt n)) := by
  by_cases hn : n = 0
  · subst hn
    exact .inl (plainDivision_of_isZero rfl)
  · have hplain : plainDivision (int m) (int n) = plainQuotient (int m) (int n) :=
      if_neg (by simpa [isZero] using hn)
    rw [hplain, plainQuotient, if_neg hn, div]
    cases hfinite : (quotient m n).isFinite with
    | true => simp [hn]
    | false => simp

theorem computes_plainDivision : Computes plainDivision div := by
  intro x y
  rw [plainDivision_real]
  cases hint : x.isInt && y.isInt with
  | true =>
    cases x <;> cases y <;> cases hint
    exact (plainDivision_int _ _).imp_right fun ⟨hfault, hdiv⟩ => ⟨hfault, congrArg _ hdiv.symm⟩
  | false =>
    have hdiv : div x y = real (x.toReal.div y.toReal) := by
      cases x <;> cases y <;> first | rfl | cases hint
    rw [hdiv]
    cases hzero : y.isZero with
    | true => exact .inl (plainDivision_of_isZero hzero)
    | false =>
      have hreal : y.toReal.isZero = false := y.isZero_toReal.trans hzero
      have hplain : plainDivision x y = (do
          let x ← x.convert
          let y ← y.convert
          if y.isZero then .error .zeroDivisor else .ok (real (x.div y))) := by
        rw [plainDivision, if_neg (by simp [hzero])]
        cases x <;> cases y <;> first | rfl | cases hint
      rcases x.convert_cases with hx | hx <;> rcases y.convert_cases with hy | hy <;>
        rw [hplain, hx, hy]
      · exact .inl (if_neg (by simp [hreal]))
      all_goals exact .inr ⟨rfl, rfl⟩

end Number

namespace Operator

theorem computes_plain (op : Operator) : Number.Computes op.plain op.apply := by
  cases op with
  | plus =>
    exact Number.computes_mixed (fun _ _ => rfl) fun x y h => by
      cases x <;> cases y <;> first | rfl | cases h
  | minus =>
    exact Number.computes_mixed (fun _ _ => rfl) fun x y h => by
      cases x <;> cases y <;> first | rfl | cases h
  | times =>
    exact Number.computes_mixed (fun _ _ => rfl) fun x y h => by
      cases x <;> cases y <;> first | rfl | cases h
  | divide => exact Number.computes_plainDivision

/-- A guarded operation does not fail. -/
theorem guarded_eq (op : Operator) (x y : Number) : op.guarded x y = .ok (op.apply x y) := by
  rcases op.computes_plain x y with h | ⟨hfault, h⟩
  · rw [guarded, h]
  · rw [guarded, hfault, x.saturate_eq, y.saturate_eq]
    exact h

end Operator

namespace Breakdown

/-- The base value with all lines added by guarded additions. -/
def guardedFinal (b : Breakdown) : Except Fault Number :=
  b.lines.foldlM (fun total line => Operator.plus.guarded total line.amount) b.base

/-- Adding the lines up does not fail. -/
theorem guardedFinal_eq (b : Breakdown) : b.guardedFinal = .ok b.final := by
  obtain ⟨base, lines⟩ := b
  simp only [guardedFinal, final]
  induction lines generalizing base with
  | nil => rfl
  | cons line lines ih =>
    rw [List.foldlM_cons, Operator.guarded_eq]
    exact ih _

end Breakdown

end Tabletop
