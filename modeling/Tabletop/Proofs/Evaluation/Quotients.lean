import Tabletop.Proofs.Evaluation.Traces
import Tabletop.Proofs.Number.Range

/-!
# Divisions of integers

A division node whose operands come to integers has their quotient, whatever the size of the
integers, unless the quotient and the divisor are both past the range of binary numbers. Then it has
no number: of two infinities there is no quotient.
-/
namespace Tabletop

namespace Number.IsQuotient

open Binary64

variable {m n : Int} {x : Binary64}

theorem eq_nan_iff (hn : n ≠ 0) (h : IsQuotient m n x) :
    x = .nan ↔ overflow ≤ |(m : ℚ) / n| ∧ overflow ≤ |(n : ℚ)| := by
  cases h with
  | nearest h =>
    have hfinite := (isFinite_quotient_iff hn).mpr h
    refine iff_of_false (fun hnan => ?_) fun hlarge => h.not_ge hlarge.1
    rw [hnan] at hfinite
    cases hfinite
  | infinite h hdivisor => exact iff_of_false nofun fun hlarge => hdivisor.not_ge hlarge.2
  | nan h hdivisor => exact iff_of_true rfl ⟨h, hdivisor⟩

/-- An infinite quotient is past the largest finite number, on its own side of zero. -/
theorem of_infinite (hn : n ≠ 0) {negative : Bool} (h : IsQuotient m n (.infinite negative)) :
    largest ≤ |(m : ℚ) / n| ∧ (negative = true ↔ (m : ℚ) / n < 0) := by
  generalize hx : Binary64.infinite negative = x at h
  cases h with
  | nearest h =>
    have hfinite := (isFinite_quotient_iff hn).mpr h
    rw [← hx] at hfinite
    cases hfinite
  | infinite h hdivisor =>
    cases hx
    exact ⟨largest_lt_overflow.le.trans h, decide_eq_true_iff⟩
  | nan h hdivisor => cases hx

end Number.IsQuotient

namespace Sheet

open Binary64 Evaluation

variable {σ : Type}

/-- In the tree of an evaluated term every division of an integer by another one, other than zero,
has a binary number that is their quotient: it is infinite only past the largest finite number, with
the sign of the quotient, and no number only where the divisor is past the range too. -/
theorem division_isQuotient (sheet : Sheet) (roller : Roller σ) (t : Term) (c : Course σ) :
    ∃ x c', term sheet roller (sheet.refer roller) t c = some (x, c') ∧
      ∀ value place sign left right,
        Evaluated.binary value place .divide sign left right ∈ x.nodes →
        ∀ m n : Int, left.value = .int m → right.value = .int n → n ≠ 0 →
          ∃ q, value = .real q ∧ Number.IsQuotient m n q ∧
            (q = .nan ↔ overflow ≤ |(m : ℚ) / n| ∧ overflow ≤ |(n : ℚ)|) ∧
            ∀ negative, q = .infinite negative →
              largest ≤ |(m : ℚ) / n| ∧ (negative = true ↔ (m : ℚ) / n < 0) := by
  obtain ⟨x, c', hx, he⟩ := sheet.exists_evaluates_term roller t c
  obtain ⟨-, hfaithful⟩ : x.term = t ∧ _ := he.shows
  refine ⟨x, c', hx, ?_⟩
  intro value place sign left right hnode m n hleft hright hn
  have hvalue : value = left.value.div right.value := hfaithful _ hnode
  obtain ⟨q, hdiv, hq⟩ := Number.exists_isQuotient m hn
  rw [hleft, hright, hdiv] at hvalue
  refine ⟨q, hvalue, hq, hq.eq_nan_iff hn, ?_⟩
  rintro negative rfl
  exact hq.of_infinite hn

/-- The quotient of two literals, as it is parsed where they stand around a sign. -/
def ratio (m n : Nat) : Term :=
  let left := Decimal.text m
  let right := Decimal.text n
  .binary ⟨⟨0, left.length + 3 + right.length⟩, left ++ " / " ++ right⟩ .divide
    ⟨left.length + 1, 1⟩ (.literal ⟨⟨0, left.length⟩, left⟩ m)
    (.literal ⟨⟨left.length + 3, right.length⟩, right⟩ n)

theorem term_ratio (sheet : Sheet) (roller : Roller σ) (m n : Nat) (c : Course σ) :
    ∃ place sign left right, left.value = .int m ∧ right.value = .int n ∧
      term sheet roller (sheet.refer roller) (ratio m n) c =
        some (.binary ((Number.int m).div (.int n)) place .divide sign left right, c) :=
  ⟨_, _, _, _, rfl, rfl, rfl⟩

/-- Of two powers of ten that are not in range themselves the quotient is exact. -/
theorem division_isQuotient_powers :
    ((10 ^ 399 : Nat) : Int) ≠ 0 ∧ ∃ x c' q,
      term fighter (.fixed 3) (fighter.refer (.fixed 3)) (ratio (10 ^ 400) (10 ^ 399))
        (.fresh () .empty) = some (x, c') ∧
      x.value = .real q ∧ Number.IsQuotient (10 ^ 400 : Nat) (10 ^ 399 : Nat) q ∧ q.value = 10 := by
  have hn : ((10 ^ 399 : Nat) : Int) ≠ 0 := by decide +kernel
  have hten : (Number.int (10 ^ 400 : Nat)).div (.int (10 ^ 399 : Nat)) =
      .real (.finite false 5629499534213120 (-49)) := by decide +kernel
  generalize 10 ^ 400 = m, 10 ^ 399 = n at hn hten ⊢
  obtain ⟨x, c', hx, hdivisions⟩ :=
    fighter.division_isQuotient (.fixed 3) (ratio m n) (.fresh () .empty)
  obtain ⟨place, sign, left, right, hleft, hright, hratio⟩ :=
    fighter.term_ratio (.fixed 3) m n (.fresh () .empty)
  cases hx.symm.trans hratio
  obtain ⟨q, hq, hquotient, -⟩ :=
    hdivisions _ _ _ _ _ (List.mem_cons_self ..) _ _ hleft hright hn
  refine ⟨hn, _, _, q, hratio, hq, hquotient, ?_⟩
  cases hten.symm.trans hq
  decide +kernel

/-- Where dividend, divisor and quotient are all past the range, there is no number. -/
theorem ratio_past_range :
    ((10 ^ 309 - 1 : Nat) : Int) ≠ 0 ∧
      largest ≤ |((10 ^ 618 - 1 : Nat) : ℚ) / (10 ^ 309 - 1 : Nat)| ∧
      ∃ place sign left right,
        left.value = .int (10 ^ 618 - 1 : Nat) ∧ right.value = .int (10 ^ 309 - 1 : Nat) ∧
        term fighter (.fixed 3) (fighter.refer (.fixed 3))
            (ratio (10 ^ 618 - 1) (10 ^ 309 - 1)) (.fresh () .empty) =
          some (.binary (.real .nan) place .divide sign left right, .fresh () .empty) := by
  have hn : ((10 ^ 309 - 1 : Nat) : Int) ≠ 0 := by decide +kernel
  have hnan : (Number.int (10 ^ 618 - 1 : Nat)).div (.int (10 ^ 309 - 1 : Nat)) = .real .nan := by
    decide +kernel
  generalize 10 ^ 618 - 1 = m, 10 ^ 309 - 1 = n at hn hnan ⊢
  obtain ⟨q, hq, hquotient⟩ := Number.exists_isQuotient m hn
  cases hnan.symm.trans hq
  have hlarge := ((hquotient.eq_nan_iff hn).mp rfl).1
  refine ⟨hn, largest_lt_overflow.le.trans hlarge, ?_⟩
  rw [← hnan]
  exact fighter.term_ratio (.fixed 3) m n (.fresh () .empty)

end Sheet

end Tabletop
