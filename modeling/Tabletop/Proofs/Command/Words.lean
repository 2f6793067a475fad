import Mathlib.Data.List.Induction
import Tabletop.Command
import Tabletop.Proofs.Number.Digits

/-!
# Integers of a command line

No more digits are read than can be read back, so the integers of a command that was read from a
command line can always be saved and loaded.
-/
namespace Tabletop

namespace Integer

variable {cs : List Char} {ns : List Nat} {n : Nat}

theorem lt_of_mem_digits? (h : digits? cs = some ns) : ∀ n ∈ ns, n < 10 := by
  have hcons {c : Char} {rest : List Char} {ns : List Nat}
      (ih : ∀ more, digits? rest = some more → ∀ n ∈ more, n < 10)
      (h : (do let n ← Text.digit? c; let more ← digits? rest; some (n :: more)) = some ns) :
      ∀ n ∈ ns, n < 10 := by
    obtain ⟨first, hfirst, h⟩ := Option.bind_eq_some_iff.mp h
    obtain ⟨more, hmore, h⟩ := Option.bind_eq_some_iff.mp h
    cases h
    exact List.forall_mem_cons.mpr ⟨Text.digit?_lt hfirst, ih more hmore⟩
  induction cs using digits?.induct generalizing ns with
  | case1 => cases h
  | case2 c =>
    obtain ⟨first, hfirst, rfl⟩ := Option.map_eq_some_iff.mp h
    simpa using Text.digit?_lt hfirst
  | case3 c rest ih =>
    rw [digits?] at h
    exact hcons (fun _ => ih) h
  | case4 c rest hone hunderscore ih =>
    rw [digits?.eq_4 c rest hone hunderscore] at h
    exact hcons (fun _ => ih) h

theorem ofDigits_lt (h : ∀ n ∈ ns, n < 10) : ofDigits ns < 10 ^ ns.length := by
  induction ns using List.reverseRecOn with
  | nil => decide
  | append_singleton ns n ih =>
    have hbefore := ih fun m hm => h m (List.mem_append_left _ hm)
    have hlast := h n (by simp)
    have hvalue : ofDigits (ns ++ [n]) = ofDigits ns * 10 + n := by
      rw [ofDigits, List.foldl_append]
      rfl
    rw [hvalue, List.length_append, List.length_singleton, Nat.pow_succ]
    omega

theorem magnitude?_lt (h : magnitude? cs = some n) : n < 10 ^ Decimal.digitLimit := by
  obtain ⟨ns, hns, h⟩ := Option.bind_eq_some_iff.mp h
  split at h
  · rename_i hlength
    cases h
    have hlt := ofDigits_lt (lt_of_mem_digits? hns)
    exact Nat.lt_of_lt_of_le hlt (Nat.pow_le_pow_right (by decide) hlength)
  · cases h

/-- An integer that is read can be read back. -/
theorem fits_of_read? {s : String} {i : Int} (h : read? s = some i) : Decimal.fits i := by
  have hfits {cs : List Char} {m : Int}
      (h : (do let a ← magnitude? cs; pure (a : Int)) = some m) : Decimal.fits m := by
    obtain ⟨n, hn, h⟩ := Option.bind_eq_some_iff.mp h
    cases h
    exact Decimal.fits_iff.mpr (magnitude?_lt hn)
  unfold read? at h
  split at h
  · obtain ⟨m, hm, rfl⟩ := Option.map_eq_some_iff.mp h
    rw [Decimal.fits_iff, Int.natAbs_neg]
    exact Decimal.fits_iff.mp (hfits hm)
  · obtain ⟨m, hm, rfl⟩ := Option.map_eq_some_iff.mp h
    exact hfits hm
  · obtain ⟨m, hm, rfl⟩ := Option.map_eq_some_iff.mp h
    exact hfits hm

end Integer

namespace Command

variable {g : Given} {key : String} {words : List String} {command : Command}

theorem Given.fits_of_integer? {found : Option Int} (h : g.integer? key = some found) :
    ∀ n ∈ found, Decimal.fits n := by
  unfold Given.integer? at h
  split at h
  · cases h
    simp
  · obtain ⟨m, hm, rfl⟩ := Option.map_eq_some_iff.mp h
    simpa using Integer.fits_of_read? hm

theorem Given.fits_of_integer {default n : Int} (hdefault : Decimal.fits default)
    (h : g.integer key default = some n) : Decimal.fits n := by
  obtain ⟨found, hfound, rfl⟩ := Option.map_eq_some_iff.mp h
  cases found with
  | none => exact hdefault
  | some m => exact Given.fits_of_integer? hfound m rfl

/-- The integers that somebody sets with a command. -/
def integers : Command → List Int
  | .evaluate _ _ seed _ _ => seed.toList
  | .create _ _ _ age _ _ => [age]
  | .change _ _ _ points _ => [(points : Int)]
  | .check _ _ _ advantage bonus seed _ => advantage :: bonus :: seed.toList
  | .scan _ | .parse _ | .list _ | .show _ _ => []

theorem fits_of_readFormula {make : String → Command}
    (hmake : ∀ source, (make source).integers = [])
    (h : readFormula make words = some command) : ∀ n ∈ command.integers, Decimal.fits n := by
  obtain ⟨g, -, h⟩ := Option.bind_eq_some_iff.mp h
  split at h
  · cases h
    simp [hmake]
  · cases h

theorem fits_of_readEvaluate (h : readEvaluate words = some command) :
    ∀ n ∈ command.integers, Decimal.fits n := by
  obtain ⟨g, -, h⟩ := Option.bind_eq_some_iff.mp h
  obtain ⟨seed, hseed, h⟩ := Option.bind_eq_some_iff.mp h
  split at h
  · cases h
    simpa [integers] using Given.fits_of_integer? hseed
  · cases h

theorem fits_of_readCreate (h : readCreate words = some command) :
    ∀ n ∈ command.integers, Decimal.fits n := by
  obtain ⟨g, -, h⟩ := Option.bind_eq_some_iff.mp h
  obtain ⟨age, hage, h⟩ := Option.bind_eq_some_iff.mp h
  split at h
  · cases h
    have := Given.fits_of_integer (Decimal.fits_of_natAbs_lt_hundred (by decide)) hage
    simpa [integers] using this
  · cases h

theorem fits_of_readList (h : readList words = some command) :
    ∀ n ∈ command.integers, Decimal.fits n := by
  obtain ⟨g, -, h⟩ := Option.bind_eq_some_iff.mp h
  split at h
  · cases h
    simp [integers]
  · cases h

theorem fits_of_readShow (h : readShow words = some command) :
    ∀ n ∈ command.integers, Decimal.fits n := by
  obtain ⟨g, -, h⟩ := Option.bind_eq_some_iff.mp h
  split at h
  · cases h
    simp [integers]
  · cases h

theorem fits_of_readChange {d : Direction} (h : readChange d words = some command) :
    ∀ n ∈ command.integers, Decimal.fits n := by
  obtain ⟨g, -, h⟩ := Option.bind_eq_some_iff.mp h
  obtain ⟨points, hpoints, h⟩ := Option.bind_eq_some_iff.mp h
  split at h
  · split at h
    · rename_i hone
      cases h
      have hfits := Given.fits_of_integer (Decimal.fits_of_natAbs_lt_hundred (by decide)) hpoints
      have hsame : (points.toNat : Int) = points := by omega
      simpa [integers, hsame] using hfits
    · cases h
  · cases h

theorem fits_of_readCheck (h : readCheck words = some command) :
    ∀ n ∈ command.integers, Decimal.fits n := by
  obtain ⟨g, -, h⟩ := Option.bind_eq_some_iff.mp h
  obtain ⟨advantage, hadvantage, h⟩ := Option.bind_eq_some_iff.mp h
  obtain ⟨bonus, hbonus, h⟩ := Option.bind_eq_some_iff.mp h
  obtain ⟨seed, hseed, h⟩ := Option.bind_eq_some_iff.mp h
  split at h
  · cases h
    have hzero : Decimal.fits 0 := Decimal.fits_of_natAbs_lt_hundred (by decide)
    refine List.forall_mem_cons.mpr ⟨Given.fits_of_integer hzero hadvantage, ?_⟩
    refine List.forall_mem_cons.mpr ⟨Given.fits_of_integer hzero hbonus, ?_⟩
    simpa using Given.fits_of_integer? hseed
  · cases h

theorem fits_of_readCommand (h : readCommand words = some command) :
    ∀ n ∈ command.integers, Decimal.fits n := by
  unfold readCommand at h
  split at h
  · obtain ⟨g, -, h⟩ := Option.bind_eq_some_iff.mp h
    unfold readFormulaGroup at h
    split at h
    · exact fits_of_readFormula (fun _ => rfl) h
    · exact fits_of_readFormula (fun _ => rfl) h
    · exact fits_of_readEvaluate h
    · cases h
  · obtain ⟨g, -, h⟩ := Option.bind_eq_some_iff.mp h
    unfold readSheetGroup at h
    split at h
    · exact fits_of_readCreate h
    · exact fits_of_readList h
    · exact fits_of_readShow h
    · exact fits_of_readChange h
    · exact fits_of_readChange h
    · cases h
  · exact fits_of_readCheck h
  · cases h

/-- The integers of a command that was read can be read back. -/
theorem fits_of_read {verbose : Bool} (h : read words = some (.run verbose command)) :
    ∀ n ∈ command.integers, Decimal.fits n := by
  obtain ⟨g, -, h⟩ := Option.bind_eq_some_iff.mp h
  split at h
  · cases h
  · split at h
    · rename_i hcommand
      cases h
      exact fits_of_readCommand hcommand
    · obtain ⟨again, -, h⟩ := Option.bind_eq_some_iff.mp h
      split at h
      · cases h
      · cases h

end Command

end Tabletop
