import Tabletop.Proofs.Check.Bonus
import Tabletop.Proofs.Number.Digits
import Tabletop.Proofs.Number.Range

/-!
# What a check accounts for

Advantage that moves a tier is gone from the bonus, and what moves no tier is kept as one: the tier
that is rolled less what is left over is always the tier asked for less the advantage. On dice that
show their faces, a check whose amounts can be written is made, and it holds the statistic's own
lines, then the bonus, then the advantage left over, each just once and only if it is not zero.
-/
namespace Tabletop

/-! ### Tiers -/

namespace Difficulty

theorem sides_pos (d : Difficulty) : 0 < d.sides := by
  cases d <;> decide

/-- No die has more than twenty sides. -/
theorem sides_le (d : Difficulty) : d.sides ≤ 20 := by
  cases d <;> decide

theorem tier_ofTier? {n : Int} (h₀ : 0 ≤ n) (h₄ : n ≤ 4) :
    ∃ d : Difficulty, ofTier? n = some d ∧ d ≠ impossible ∧ (d.tier : Int) = n := by
  obtain rfl | rfl | rfl | rfl | rfl : n = 0 ∨ n = 1 ∨ n = 2 ∨ n = 3 ∨ n = 4 := by omega
  · exact ⟨trivial, rfl, by decide, rfl⟩
  · exact ⟨easy, rfl, by decide, rfl⟩
  · exact ⟨moderate, rfl, by decide, rfl⟩
  · exact ⟨hard, rfl, by decide, rfl⟩
  · exact ⟨formidable, rfl, by decide, rfl⟩

end Difficulty

/-- Every point of advantage is either in the tier or left over, and it is left over only at the
ends. Nothing moves onto the impossible tier or off it. -/
structure EffectiveDifficulty.Accounts (e : EffectiveDifficulty) (base : Difficulty)
    (advantage : Int) : Prop where
  impossible : base = .impossible → e.rolled = .impossible ∧ e.overflow = 0
  possible : base ≠ .impossible → e.rolled ≠ .impossible
  total : base ≠ .impossible → (e.rolled.tier : Int) - e.overflow = base.tier - advantage
  past_trivial : 0 < e.overflow → e.rolled = .trivial
  past_formidable : e.overflow < 0 → e.rolled = .formidable

theorem Difficulty.effective_accounts (base : Difficulty) (advantage : Int) :
    (base.effective advantage).Accounts base advantage := by
  have hfirst : (trivial.tier : Int) = 0 := rfl
  have hlast : (formidable.tier : Int) = 4 := rfl
  have hends : trivial ≠ impossible ∧ formidable ≠ impossible := by decide
  unfold effective
  split
  · rename_i hbase
    exact ⟨fun _ => ⟨hbase, rfl⟩, fun h => absurd hbase h, fun h => absurd hbase h, by simp,
      by simp⟩
  · rename_i hbase
    dsimp only
    split
    · exact ⟨fun h => absurd h hbase, fun _ => hends.1, fun _ => by dsimp only; omega,
        fun _ => rfl, fun h => by dsimp only at h; omega⟩
    · split
      · exact ⟨fun h => absurd h hbase, fun _ => hends.2, fun _ => by dsimp only; omega,
          fun h => by dsimp only at h; omega, fun _ => rfl⟩
      · obtain ⟨d, hd, hne, htier⟩ :=
          tier_ofTier? (n := base.tier - advantage) (by omega) (by omega)
        rw [hd]
        exact ⟨fun h => absurd h hbase, fun _ => hne, fun _ => by simpa using htier, by simp,
          by simp⟩

/-! ### Values -/

theorem Number.isInt_add (x y : Number) : (x.add y).isInt = (x.isInt && y.isInt) := by
  cases x <;> cases y <;> rfl

theorem Number.isInt_iff {x : Number} : x.isInt = true ↔ ∃ n, x = .int n := by
  cases x <;> simp [isInt]

/-- A sum is an integer just if everything in it is one. -/
theorem Breakdown.isInt_foldl (lines : List BreakdownLine) (x : Number) :
    (lines.foldl (fun total line => total.add line.amount) x).isInt =
      (x.isInt && lines.all fun line => line.amount.isInt) := by
  induction lines generalizing x with
  | nil => simp
  | cons line lines ih => simp [ih, Number.isInt_add, Bool.and_assoc]

/-- The value is an integer if everything that is added up is one. -/
theorem Breakdown.exists_final_int {b : Breakdown} (hbase : b.base.isInt)
    (hlines : ∀ line ∈ b.lines, line.amount.isInt) : ∃ v, b.final = .int v := by
  rw [← Number.isInt_iff, final, isInt_foldl, Bool.and_eq_true, List.all_eq_true]
  exact ⟨hbase, hlines⟩

/-- There is no degree just if the value is a binary number and the die is too large for one. -/
theorem Check.degree?_eq_none_iff {k : Check} :
    k.degree? = none ↔ k.value.isInt = false ∧ Binary64.overflow ≤ |(k.die : ℚ)| := by
  unfold degree?
  rw [Option.map_eq_none_iff, ← not_lt, ← Binary64.isFinite_ofInt_iff]
  cases k.value with
  | int v => simp [Number.intSub?, Number.isInt]
  | real y => simp [Number.intSub?, Number.isInt]

theorem Difficulty.sides_lt_overflow (d : Difficulty) : (d.sides : ℚ) < Binary64.overflow := by
  have hbound : (20 : ℚ) < Binary64.mantissaBound - 1 / 2 := by norm_num [Binary64.mantissaBound]
  have hunit : (1 : ℚ) ≤ 2 ^ Binary64.maxExponent := one_le_zpow₀ one_le_two (by decide)
  calc (d.sides : ℚ) ≤ 20 := by exact_mod_cast d.sides_le
    _ < Binary64.mantissaBound - 1 / 2 := hbound
    _ ≤ Binary64.overflow := le_mul_of_one_le_right (by linarith) hunit

/-- Whatever a die of a check is rolled against, there is a degree. -/
theorem Check.exists_degree {k : Check} (hone : 1 ≤ k.die) (hmost : k.die ≤ 20) :
    ∃ degree, k.degree? = some degree := by
  rw [← Option.ne_none_iff_exists', Ne, degree?_eq_none_iff]
  rintro ⟨-, hlarge⟩
  have hsize : |(k.die : ℚ)| ≤ Difficulty.impossible.sides := by
    rw [abs_of_nonneg (by exact_mod_cast (by omega : 0 ≤ k.die))]
    exact_mod_cast hmost
  exact (hlarge.trans hsize).not_gt (Difficulty.sides_lt_overflow _)

/-- Every die shows one of its faces. -/
def Roller.ShowsFaces {σ : Type} (roller : Roller σ) : Prop :=
  ∀ sides s, 0 < sides → 1 ≤ (roller sides s).1 ∧ (roller sides s).1 ≤ sides

theorem Roller.showsFaces_fixed (value : Int) : (Roller.fixed value).ShowsFaces := by
  intro sides _ hsides
  simp only [fixed]
  omega

namespace Sheet

variable {σ : Type}

/-! ### Checks -/

/-- A check on a statistic with this breakdown is made from the breakdown and what is asked for, and
it holds everything that was given just once. -/
structure IsCheckOn (k : Check) (stat : Statistic) (b : Breakdown) (base : Difficulty)
    (advantage bonus : Int) : Prop where
  stat_eq : k.stat = stat.id
  base_eq : k.base = base
  advantage_eq : k.advantage = advantage
  bonus_eq : k.bonus = bonus
  tier : (⟨k.rolled, k.overflow⟩ : EffectiveDifficulty).Accounts base advantage
  start : k.breakdown.base = b.base
  lines : k.breakdown.lines = b.lines ++ checkLines advantage bonus ⟨k.rolled, k.overflow⟩
  value : b.base.isInt → (∀ line ∈ b.lines, line.amount.isInt) →
    ∃ v, b.final = .int v ∧ k.value = .int (v + bonus + k.overflow)

section

variable (sheet : Sheet) (roller : Roller σ) (base : Difficulty) (advantage bonus : Int)
  (c : Course σ)

theorem isCheckOn_checkOf (stat : Statistic) (b : Breakdown) (die : Int) :
    IsCheckOn (checkOf base advantage bonus stat b die) stat b base advantage bonus := by
  refine ⟨rfl, rfl, rfl, rfl, base.effective_accounts advantage, rfl, rfl, ?_⟩
  intro hbase hlines
  obtain ⟨v, hv⟩ := Breakdown.exists_final_int hbase hlines
  exact ⟨v, hv, final_extend_checkLines hv advantage bonus _⟩

/-- What a check on a statistic comes to whose amounts can be written, if the die that it rolls
shows a face of some die. -/
theorem checkStatistic_eq {roller : Roller σ} {advantage bonus : Int}
    (hadvantage : Decimal.fits advantage) (hbonus : Decimal.fits bonus) {stat : Statistic}
    {b : Breakdown} {after : Course σ} (hevaluated : sheet.evaluate roller stat.id c = (b, after))
    (hone : 1 ≤ (roller (base.effective advantage).rolled.sides after.dice).1)
    (hmost : (roller (base.effective advantage).rolled.sides after.dice).1 ≤ 20) :
    let sides := (base.effective advantage).rolled.sides
    let k := checkOf base advantage bonus stat b (roller sides after.dice).1
    ∃ degree, k.degree? = some degree ∧
      sheet.checkStatistic roller stat base advantage bonus c =
        (.ok k, sheet.enter k,
          ({ after with dice := (roller sides after.dice).2 } : Course σ).record
            (.checked stat.id k.die sides k.value degree)) := by
  intro sides k
  obtain ⟨degree, hdegree⟩ := Check.exists_degree (k := k) hone hmost
  have hrolled : sheet.rolledCheck roller stat base advantage bonus c = k := by
    rw [rolledCheck, checkDie, hevaluated]
  have hcourse : sheet.rolledCourse roller stat (base.effective advantage) c =
      { after with dice := (roller sides after.dice).2 } := by
    rw [rolledCourse, hevaluated]
  have hdie : ¬ k.die < 1 := Int.not_lt.mpr hone
  refine ⟨degree, hdegree, ?_⟩
  rw [checkStatistic_of_amountsFit ⟨.inr hbonus, .inr hadvantage⟩, hrolled, hcourse, if_neg hdie,
    hdegree]
  rfl

/-- No advantage and no bonus is lost or counted twice: the statistic is evaluated once, one die of
the tier that remains is rolled after it, and the check that holds everything is entered after all
others. On a name without a statistic nothing is rolled and nothing entered. -/
theorem check_accounts {roller : Roller σ} {advantage bonus : Int} (hfaces : roller.ShowsFaces)
    (hadvantage : Decimal.fits advantage) (hbonus : Decimal.fits bonus) (name : String) :
    (sheet.find? name = none →
      sheet.check roller name base advantage bonus c =
        (.ok none, sheet, c.record (.checkUnknown name))) ∧
    ∀ stat b after, sheet.find? name = some stat →
      sheet.evaluate roller stat.id c = (b, after) →
      ∃ k degree, IsCheckOn k stat b base advantage bonus ∧
        k.die = (roller k.rolled.sides after.dice).1 ∧ k.degree? = some degree ∧
        sheet.check roller name base advantage bonus c =
          (.ok (some k), { sheet with history := sheet.history ++ [k] },
            ({ after with dice := (roller k.rolled.sides after.dice).2 } : Course σ).record
              (.checked stat.id k.die k.rolled.sides k.value degree)) := by
  constructor
  · intro hfind
    rw [check, hfind]
  · intro stat b after hfind hevaluated
    have hsides := (base.effective advantage).rolled.sides_le
    obtain ⟨hone, hmost⟩ :=
      hfaces (base.effective advantage).rolled.sides after.dice (Difficulty.sides_pos _)
    obtain ⟨degree, hdegree, hcheck⟩ :=
      checkStatistic_eq sheet base c hadvantage hbonus hevaluated hone (by omega)
    refine ⟨_, degree, isCheckOn_checkOf base advantage bonus stat b _, rfl, hdegree, ?_⟩
    rw [check, hfind]
    dsimp only
    rw [hcheck]
    rfl

end

/-- Three points of advantage on the easiest tier are kept as a bonus of three, after the penalty.
-/
theorem check_accounts_novice :
    (Roller.fixed 3).ShowsFaces ∧ Decimal.fits 3 ∧ Decimal.fits (-1) ∧
      ∃ k, IsCheckOn k (.ofAttribute feeble) ⟨.int 0, []⟩ .trivial 3 (-1) ∧ k.overflow = 3 ∧
        k.die = 3 ∧ k.value = .int 2 ∧
        (novice.check (.fixed 3) "str" .trivial 3 (-1) (.fresh () .empty)).1 = .ok (some k) ∧
        (novice.check (.fixed 3) "str" .trivial 3 (-1) (.fresh () .empty)).2.1.history = [k] := by
  have hfaces := Roller.showsFaces_fixed 3
  have hadvantage : Decimal.fits 3 = true := Decimal.fits_of_natAbs_lt_hundred (by decide)
  have hbonus : Decimal.fits (-1) = true := Decimal.fits_of_natAbs_lt_hundred (by decide)
  obtain ⟨k, degree, hk, hdie, -, hcheck⟩ :=
    (check_accounts novice .trivial (.fresh () .empty) hfaces hadvantage hbonus "str").2 _ _ _
      (find?_novice upper_str) evaluate_novice
  have htotal : (k.rolled.tier : Int) - k.overflow = 0 - 3 := hk.tier.total (by decide)
  have hrolled : k.rolled = .trivial := hk.tier.past_trivial (by dsimp only; omega)
  have hthree : k.overflow = 3 := by
    have hfirst : (Difficulty.trivial.tier : Int) = 0 := rfl
    rw [hrolled] at htotal
    omega
  obtain ⟨v, hv, hvalue⟩ := hk.value rfl (by simp)
  cases hv
  refine ⟨hfaces, hadvantage, hbonus, k, hk, hthree, ?_, ?_, ?_, ?_⟩
  · rw [hdie, hrolled]
    rfl
  · rw [hvalue, hthree]
    rfl
  · rw [hcheck]
  · rw [hcheck]
    rfl

end Sheet

end Tabletop
