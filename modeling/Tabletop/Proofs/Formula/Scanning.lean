import Mathlib.Tactic.Common
import Tabletop.Formula.Token

/-!
# What scanning finds

Every token of a scan is the piece at the front of some rest of the formula, with the characters of
that piece as its text.
-/
namespace Tabletop

namespace Token

/-- The token is the piece at the front of the given characters. -/
def IsFrontOf (tok : Token) (c : Char) (rest : List Char) : Prop :=
  (front c rest).1 = .lexeme tok.lexeme ∧
    tok.text = String.ofList ((c :: rest).take (front c rest).2)

/-- The text of a token begins where its piece does. -/
theorem IsFrontOf.toList_text {tok : Token} {c : Char} {rest : List Char}
    (h : tok.IsFrontOf c rest) : ∃ more, tok.text.toList = c :: more := by
  obtain ⟨n, hn⟩ := Nat.exists_eq_succ_of_ne_zero (Nat.ne_of_gt (front_pos c rest))
  exact ⟨rest.take n, by rw [h.2, hn, String.toList_ofList, List.take_succ_cons]⟩

/-- Only two characters are divisions, and each of them is one by itself. -/
theorem front_eq_slash {c : Char} {rest : List Char} (h : (front c rest).1 = .lexeme .slash) :
    (c = '/' ∨ c = '\\') ∧ (front c rest).2 = 1 := by
  unfold front at h ⊢
  split at h
  · cases h
  · rename_i hsep
    split at h
    · rename_i l hl
      cases h
      refine ⟨?_, by simp only [hsep, Bool.false_eq_true, if_false]⟩
      unfold symbol? at hl
      split at hl <;> simp_all
    · split at h
      · simp only [number] at h
        split at h <;> dsimp only at h <;> split at h <;> cases h
      · split at h <;> cases h

theorem IsFrontOf.slash_iff {tok : Token} {c : Char} {rest : List Char}
    (h : tok.IsFrontOf c rest) : tok.lexeme = .slash ↔ tok.text = "/" ∨ tok.text = "\\" := by
  constructor
  · intro hl
    obtain ⟨hc, hn⟩ := front_eq_slash (hl ▸ h.1)
    rw [h.2, hn]
    rcases hc with rfl | rfl
    · exact .inl rfl
    · exact .inr rfl
  · intro ht
    obtain ⟨more, hm⟩ := h.toList_text
    have hc : c = '/' ∨ c = '\\' := by
      rcases ht with ht | ht
      · exact .inl (by simpa [ht] using (congrArg List.head? hm).symm)
      · exact .inr (by simpa [ht] using (congrArg List.head? hm).symm)
    have hf := h.1
    rcases hc with rfl | rfl <;> exact (Piece.lexeme.inj hf).symm

end Token

/-- Every token that is found is the piece at the front of some rest. -/
theorem Scanned.isFrontOf_of_mem {tok : Token} {cs : List Char} {start taken : Nat}
    (h : Scanned.token tok ∈ scanFrom start taken cs) : ∃ c rest, tok.IsFrontOf c rest := by
  induction cs generalizing start taken with
  | nil => cases h
  | cons c rest ih =>
    cases taken with
    | succ taken => exact ih h
    | zero =>
      simp only [scanFrom, List.mem_append, Option.mem_toList] at h
      rcases h with h | h
      · cases hp : (Token.front c rest).1 with
        | lexeme l =>
          simp only [hp, ofPiece] at h
          cases h
          exact ⟨c, rest, hp, rfl⟩
        | _ => simp [hp, ofPiece] at h
      · exact ih h

theorem isFrontOf_of_mem_scan {tok : Token} {source : String}
    (h : tok ∈ (scan source).tokens) : ∃ c rest, tok.IsFrontOf c rest := by
  obtain ⟨found, hf, ht⟩ := List.mem_filterMap.mp h
  cases found with
  | token other =>
    simp only [Scanned.token?, Option.some.injEq] at ht
    exact Scanned.isFrontOf_of_mem (ht ▸ hf)
  | remark d => cases ht

end Tabletop
