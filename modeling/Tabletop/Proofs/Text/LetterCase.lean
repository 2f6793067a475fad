import Mathlib.Tactic.Common
import Tabletop.Text.LetterCase

/-!
# Letter case in ASCII

Of the ASCII characters only letters have another case. The tables say so in their first runs, for
everything else in them lies beyond ASCII.
-/
namespace Tabletop.Text

/-- Where only the first run of the tables lies in ASCII, it decides there. -/
theorem changeCase_of_ascii {expansions : Array (Nat × List Nat)} {runs : Array CaseRun}
    {run : CaseRun} {c : Char} (hexpansions : expansions.toList.all fun e => 128 ≤ e.1)
    (hfirst : runs.toList.head? = some run) (hruns : runs.toList.tail.all fun r => 128 ≤ r.first)
    (hc : c.toNat < 128) :
    changeCase expansions runs c = if run.covers c.toNat then [run.move c.toNat] else [c] := by
  have hexpanded : expansions.find? (fun e => e.1 == c.toNat) = none := by
    rw [← Array.find?_toList, List.find?_eq_none]
    intro e he
    have := List.all_eq_true.mp hexpansions e he
    simp only [decide_eq_true_eq] at this
    simp only [beq_iff_eq]
    omega
  obtain ⟨rest, hrest⟩ := List.head?_eq_some_iff.mp hfirst
  have hlater : rest.find? (fun r => r.covers c.toNat) = none := by
    rw [hrest] at hruns
    rw [List.find?_eq_none]
    intro r hr
    have := List.all_eq_true.mp hruns r hr
    simp only [decide_eq_true_eq] at this
    simp only [CaseRun.covers, Bool.and_eq_true, decide_eq_true_eq, not_and]
    omega
  rw [changeCase, hexpanded, ← Array.find?_toList, hrest, List.find?_cons, hlater]
  cases run.covers c.toNat <;> rfl

theorem upperChar_of_ascii {c : Char} (hc : c.toNat < 128) :
    upperChar c = if 97 ≤ c.toNat ∧ c.toNat ≤ 122 then [Char.ofNat (c.toNat - 32)] else [c] := by
  have hrun := @changeCase_of_ascii upperExpansions upperRuns _ c
    (by decide +kernel) rfl (by decide +kernel) hc
  have hmove : ((c.toNat : Int) + -32).toNat = c.toNat - 32 := by omega
  rw [upperChar, hrun]
  simp only [CaseRun.covers, CaseRun.move, Nat.mod_one, beq_self_eq_true, Bool.and_true,
    Bool.and_eq_true, decide_eq_true_eq, hmove]

theorem lowerChar_of_ascii {c : Char} (hc : c.toNat < 128) :
    lowerChar c = if 65 ≤ c.toNat ∧ c.toNat ≤ 90 then [Char.ofNat (c.toNat + 32)] else [c] := by
  have hrun := @changeCase_of_ascii lowerExpansions lowerRuns _ c
    (by decide +kernel) rfl (by decide +kernel) hc
  have hmove : ((c.toNat : Int) + 32).toNat = c.toNat + 32 := by omega
  rw [lowerChar, hrun]
  simp only [CaseRun.covers, CaseRun.move, Nat.mod_one, beq_self_eq_true, Bool.and_true,
    Bool.and_eq_true, decide_eq_true_eq, hmove]

/-- A text of characters that have no other case is left alone. -/
theorem flatMap_eq_self {f : Char → List Char} {cs : List Char} (h : ∀ c ∈ cs, f c = [c]) :
    cs.flatMap f = cs := by
  induction cs with
  | nil => rfl
  | cons c cs ih =>
    rw [List.flatMap_cons, h c List.mem_cons_self,
      ih fun d hd => h d (List.mem_cons_of_mem c hd)]
    rfl

theorem upper_eq_self {s : String} (h : ∀ c ∈ s.toList, upperChar c = [c]) : upper s = s := by
  rw [upper, flatMap_eq_self h, String.ofList_toList]

theorem lower_eq_self {s : String} (h : ∀ c ∈ s.toList, lowerChar c = [c]) : lower s = s := by
  rw [lower, flatMap_eq_self h, String.ofList_toList]

/-- The uppercase form of a text in ASCII. -/
theorem upper_of_ascii {s : String} (h : s.toList.all fun c => c.toNat < 128) :
    upper s = String.ofList (s.toList.flatMap fun c =>
      if 97 ≤ c.toNat ∧ c.toNat ≤ 122 then [Char.ofNat (c.toNat - 32)] else [c]) := by
  rw [upper, List.flatMap_def, List.flatMap_def, List.map_congr_left fun c hc => ?_]
  exact upperChar_of_ascii (of_decide_eq_true (List.all_eq_true.mp h c hc))

/-- The lowercase form of a text in ASCII. -/
theorem lower_of_ascii {s : String} (h : s.toList.all fun c => c.toNat < 128) :
    lower s = String.ofList (s.toList.flatMap fun c =>
      if 65 ≤ c.toNat ∧ c.toNat ≤ 90 then [Char.ofNat (c.toNat + 32)] else [c]) := by
  rw [lower, List.flatMap_def, List.flatMap_def, List.map_congr_left fun c hc => ?_]
  exact lowerChar_of_ascii (of_decide_eq_true (List.all_eq_true.mp h c hc))

/-! ### Equality but for letter case -/

/-- The texts differ at most in the case of ASCII letters. -/
def EqualIgnoringCase (s t : String) : Prop := s.toList.map Char.toLower = t.toList.map Char.toLower

instance (s t : String) : Decidable (EqualIgnoringCase s t) :=
  inferInstanceAs (Decidable (s.toList.map Char.toLower = t.toList.map Char.toLower))

theorem upperChar_eq_toUpper {c : Char} (hc : c.toNat < 128) : upperChar c = [c.toUpper] := by
  have hall : ∀ n < 128, (if 97 ≤ n ∧ n ≤ 122 then Char.ofNat (n - 32) else Char.ofNat n) =
      (Char.ofNat n).toUpper := by
    decide +kernel
  have h := hall c.toNat hc
  rw [Char.ofNat_toNat] at h
  rw [upperChar_of_ascii hc, ← h]
  split <;> rfl

/-- Two ASCII characters have the same uppercase form just if they have the same lowercase form. -/
theorem toUpper_eq_iff {c d : Char} (hc : c.toNat < 128) (hd : d.toNat < 128) :
    c.toUpper = d.toUpper ↔ c.toLower = d.toLower := by
  have hall : ∀ n < 128, (Char.ofNat n).toUpper.toLower = (Char.ofNat n).toLower ∧
      (Char.ofNat n).toLower.toUpper = (Char.ofNat n).toUpper := by
    decide +kernel
  obtain ⟨hcl, hcu⟩ := hall c.toNat hc
  obtain ⟨hdl, hdu⟩ := hall d.toNat hd
  rw [Char.ofNat_toNat] at hcl hcu hdl hdu
  constructor
  · intro h
    rw [← hcl, ← hdl, h]
  · intro h
    rw [← hcu, ← hdu, h]

theorem upper_eq_map {s : String} (h : s.toList.all fun c => c.toNat < 128) :
    (upper s).toList = s.toList.map Char.toUpper := by
  rw [upper, String.toList_ofList, List.map_eq_flatMap, List.flatMap_def, List.flatMap_def,
    List.map_congr_left fun c hc => ?_]
  exact upperChar_eq_toUpper (of_decide_eq_true (List.all_eq_true.mp h c hc))

/-- In ASCII the uppercase forms are equal just if the texts are but for letter case. -/
theorem upper_eq_iff {s t : String} (hs : s.toList.all fun c => c.toNat < 128)
    (ht : t.toList.all fun c => c.toNat < 128) : upper s = upper t ↔ EqualIgnoringCase s t := by
  rw [← String.toList_inj, upper_eq_map hs, upper_eq_map ht, EqualIgnoringCase]
  generalize s.toList = cs at hs
  generalize t.toList = ds at ht
  induction cs generalizing ds with
  | nil => cases ds <;> simp
  | cons c cs ih =>
    cases ds with
    | nil => simp
    | cons d ds =>
      simp only [List.all_cons, Bool.and_eq_true, decide_eq_true_eq] at hs ht
      simp only [List.map_cons, List.cons.injEq, toUpper_eq_iff hs.1 ht.1, ih hs.2 ds ht.2]

end Tabletop.Text
