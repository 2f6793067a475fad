import Mathlib.Data.List.Pairwise
import Mathlib.Tactic.Common
import Tabletop.Proofs.Formula.Words

/-!
# Scanning cuts a formula into words

What it means to cut a formula from left to right into its longest words. Scanning cuts in this way:
what it finds stands in order, covers every character that is no blank, and none of them twice.
-/
namespace Tabletop

namespace Scanned

/-- The characters that something is about. -/
def span : Scanned → Span
  | token t => t.span
  | remark d => d.span

/-- What there is to say about a number that is too long. -/
def numberRemark (start length : Nat) : Diagnostic :=
  ⟨⟨start, length⟩, "Number too long (" ++ Decimal.text length ++ " characters)", .userError⟩

/-- What there is to say about a character that begins no word. -/
def characterRemark (start : Nat) (c : Char) : Diagnostic :=
  ⟨⟨start, 1⟩, "Ignored unexpected character " ++ Text.quoted (String.singleton c), .warning⟩

/-- What is found when characters are cut from left to right into longest words, from an offset on.
-/
inductive Cut (chars : List Char) : Nat → List Scanned → Prop where
  | done : Cut chars chars.length []
  | blank {i : Nat} {c : Char} {found : List Scanned} : chars[i]? = some c →
      c ∈ [' ', '\t', '\n', '\r'] → Cut chars (i + 1) found → Cut chars i found
  | word {i : Nat} {cs : List Char} {l : Lexeme} {runs : List (List Char)} {found : List Scanned} :
      Token.LongestWord (chars.drop i) cs l runs → Token.Readable runs →
      Cut chars (i + cs.length) found →
      Cut chars i (token ⟨l, ⟨i, cs.length⟩, String.ofList cs⟩ :: found)
  | longNumber {i : Nat} {cs : List Char} {l : Lexeme} {runs : List (List Char)}
      {found : List Scanned} : Token.LongestWord (chars.drop i) cs l runs →
      ¬ Token.Readable runs → Cut chars (i + cs.length) found →
      Cut chars i (remark (numberRemark i cs.length) :: found)
  | unknown {i : Nat} {c : Char} {found : List Scanned} : chars[i]? = some c →
      c ∉ [' ', '\t', '\n', '\r'] →
      (∀ cs l runs, Token.Word cs l runs → ¬ cs <+: chars.drop i) → Cut chars (i + 1) found →
      Cut chars i (remark (characterRemark i c) :: found)

/-! ### Scanning cuts -/

/-- Characters that belong to the piece before are passed over. -/
theorem scanFrom_eq_drop (start taken : Nat) (cs : List Char) :
    scanFrom start taken cs = scanFrom (start + taken) 0 (cs.drop taken) := by
  induction cs generalizing start taken with
  | nil => simp [scanFrom]
  | cons c rest ih =>
    cases taken with
    | zero => rfl
    | succ taken =>
      rw [scanFrom, ih, List.drop_succ_cons]
      congr 1
      omega

theorem scanFrom_cons (start : Nat) (c : Char) (rest : List Char) :
    scanFrom start 0 (c :: rest) =
      (ofPiece (Token.front c rest).1 ⟨start, (Token.front c rest).2⟩
        ((c :: rest).take (Token.front c rest).2)).toList ++
      scanFrom (start + (Token.front c rest).2) 0 ((c :: rest).drop (Token.front c rest).2) := by
  obtain ⟨n, hn⟩ := Nat.exists_eq_succ_of_ne_zero (Nat.ne_of_gt (Token.front_pos c rest))
  rw [scanFrom]
  simp only [hn, Nat.succ_eq_add_one, Nat.add_sub_cancel, List.drop_succ_cons]
  rw [scanFrom_eq_drop (start + 1) n rest, Nat.add_assoc, Nat.add_comm 1 n]

theorem isSeparator_iff {c : Char} : Token.isSeparator c = true ↔ c ∈ [' ', '\t', '\n', '\r'] := by
  simp [Token.isSeparator, or_assoc]

theorem cut_scanFrom (chars : List Char) (i : Nat) (hi : i ≤ chars.length) :
    Cut chars i (scanFrom i 0 (chars.drop i)) := by
  -- every piece takes a character at least, so the rest gets shorter
  induction h : chars.length - i using Nat.strong_induction_on generalizing i with
  | _ n ih =>
    cases hrest : chars.drop i with
    | nil =>
      have hlen : i = chars.length := by
        have := List.drop_eq_nil_iff.mp hrest
        omega
      rw [hlen]
      exact .done
    | cons c rest =>
      have hlt : i < chars.length := by
        have := congrArg List.length hrest
        simp only [List.length_drop, List.length_cons] at this
        omega
      have hc : chars[i]? = some c := by
        rw [← List.head?_drop, hrest, List.head?_cons]
      have hnext (k : Nat) (hk : 0 < k) (hle : i + k ≤ chars.length) :
          Cut chars (i + k) (scanFrom (i + k) 0 ((c :: rest).drop k)) := by
        have := ih (chars.length - (i + k)) (by omega) (i + k) hle rfl
        rwa [← List.drop_drop, hrest] at this
      rw [scanFrom_cons]
      rcases Token.front_spec c rest with
        ⟨hp, hn, hsep⟩ | ⟨cs, l, runs, hw, hn, hp⟩ | ⟨hp, hn, hsep, hno⟩
      · rw [hp, hn]
        exact .blank hc (isSeparator_iff.mp hsep) (hnext 1 Nat.one_pos hlt)
      · have htake : (c :: rest).take cs.length = cs := (List.prefix_iff_eq_take.mp hw.front).symm
        have hpos := Token.front_pos c rest
        have hle : i + cs.length ≤ chars.length := by
          have := hw.front.length_le
          rw [← hrest, List.length_drop] at this
          omega
        have hrun := hnext cs.length (hn ▸ hpos) hle
        rw [← hrest] at hw
        rcases hp with ⟨hp, hread⟩ | ⟨hp, hread⟩
        · rw [hp, hn, ofPiece, htake]
          exact .word hw hread hrun
        · rw [hp, hn, ofPiece]
          exact .longNumber hw hread hrun
      · have hnot : c ∉ [' ', '\t', '\n', '\r'] := by
          rw [← isSeparator_iff, hsep]
          exact Bool.false_ne_true
        rw [hp, hn, ofPiece]
        exact .unknown hc hnot (hrest ▸ hno) (hnext 1 Nat.one_pos hlt)

/-! ### What a cut says -/

section

variable {chars : List Char} {i : Nat} {found : List Scanned}

/-- A longest word takes a character at least and stays among the characters. -/
theorem bounds_of_longestWord {cs : List Char} {l : Lexeme} {runs : List (List Char)}
    (h : Token.LongestWord (chars.drop i) cs l runs) :
    0 < cs.length ∧ i + cs.length ≤ chars.length := by
  have hpos : 0 < cs.length := by
    obtain ⟨c, more, rfl, _⟩ := h.word.cases_head
    exact Nat.succ_pos _
  have hle := h.front.length_le
  rw [List.length_drop] at hle
  exact ⟨hpos, by omega⟩

theorem slice_of_longestWord {cs : List Char} {l : Lexeme} {runs : List (List Char)}
    (h : Token.LongestWord (chars.drop i) cs l runs) : Span.slice ⟨i, cs.length⟩ chars = cs :=
  (List.prefix_iff_eq_take.mp h.front).symm

theorem Cut.le_length (h : Cut chars i found) : i ≤ chars.length := by
  induction h with
  | done => exact le_rfl
  | blank hc | unknown hc => exact (List.getElem?_eq_some_iff.mp hc).1.le
  | word hw | longNumber hw =>
    have := (bounds_of_longestWord hw).2
    omega

/-- What is found stands behind the offset, takes a character at least and ends among the
characters. -/
theorem Cut.bounds (h : Cut chars i found) : ∀ x ∈ found,
    i ≤ x.span.start ∧ 0 < x.span.length ∧ x.span.stop ≤ chars.length := by
  induction h with
  | done => exact fun x hx => absurd hx List.not_mem_nil
  | blank _ _ _ ih =>
    intro x hx
    obtain ⟨hstart, hrest⟩ := ih x hx
    exact ⟨by omega, hrest⟩
  | word hw _ _ ih | longNumber hw _ _ ih =>
    obtain ⟨hpos, hle⟩ := bounds_of_longestWord hw
    intro x hx
    rcases List.mem_cons.mp hx with rfl | hx
    · exact ⟨le_rfl, hpos, hle⟩
    · obtain ⟨hstart, hrest⟩ := ih x hx
      exact ⟨by omega, hrest⟩
  | unknown hc _ _ hcut ih =>
    intro x hx
    rcases List.mem_cons.mp hx with rfl | hx
    · exact ⟨le_rfl, Nat.one_pos, hcut.le_length⟩
    · obtain ⟨hstart, hrest⟩ := ih x hx
      exact ⟨by omega, hrest⟩

/-- What is found first ends before the next begins. -/
theorem Cut.pairwise (h : Cut chars i found) :
    found.Pairwise fun x y => x.span.stop ≤ y.span.start := by
  induction h with
  | done => exact .nil
  | blank _ _ _ ih => exact ih
  | word _ _ hcut ih | longNumber _ _ hcut ih | unknown _ _ _ hcut ih =>
    exact .cons (fun y hy => (hcut.bounds y hy).1) ih

/-- Every character that nothing covers is a blank. -/
theorem Cut.blank_of_uncovered (h : Cut chars i found) {j : Nat} {c : Char} (hij : i ≤ j)
    (hc : chars[j]? = some c) (hout : ∀ x ∈ found, j < x.span.start ∨ x.span.stop ≤ j) :
    c ∈ [' ', '\t', '\n', '\r'] := by
  induction h with
  | done => simp [List.getElem?_eq_none hij] at hc
  | @blank k d _ hd hblank _ ih =>
    rcases Nat.eq_or_lt_of_le hij with rfl | hlt
    · rw [hd, Option.some.injEq] at hc
      exact hc ▸ hblank
    · exact ih hlt hout
  | word _ _ _ ih | longNumber _ _ _ ih | unknown _ _ _ _ ih =>
    rw [List.forall_mem_cons] at hout
    obtain ⟨hhead, htail⟩ := hout
    simp only [span, numberRemark, characterRemark, Span.stop] at hhead
    exact ih (by omega) htail

/-- A token is the longest word where it stands. -/
theorem Cut.token_spec (h : Cut chars i found) {t : Token} (ht : token t ∈ found) :
    t.text = String.ofList (t.span.slice chars) ∧
      ∃ runs, Token.LongestWord (chars.drop t.span.start) (t.span.slice chars) t.lexeme runs ∧
        Token.Readable runs := by
  induction h with
  | done => exact absurd ht List.not_mem_nil
  | blank _ _ _ ih => exact ih ht
  | word hw hread _ ih =>
    rcases List.mem_cons.mp ht with heq | ht
    · cases heq
      have hslice := slice_of_longestWord hw
      exact ⟨congrArg String.ofList hslice.symm, _, hslice.symm ▸ hw, hread⟩
    · exact ih ht
  | longNumber _ _ _ ih | unknown _ _ _ _ ih => exact ih (by simpa using ht)

/-- A remark is about a number that is too long or about a character that begins no word. -/
theorem Cut.remark_spec (h : Cut chars i found) {d : Diagnostic} (hd : remark d ∈ found) :
    (∃ cs l runs, Token.LongestWord (chars.drop d.span.start) cs l runs ∧
      ¬ Token.Readable runs ∧ d = numberRemark d.span.start cs.length) ∨
    ∃ c, chars[d.span.start]? = some c ∧ c ∉ [' ', '\t', '\n', '\r'] ∧
      (∀ cs l runs, Token.Word cs l runs → ¬ cs <+: chars.drop d.span.start) ∧
      d = characterRemark d.span.start c := by
  induction h with
  | done => exact absurd hd List.not_mem_nil
  | blank _ _ _ ih => exact ih hd
  | word _ _ _ ih => exact ih (by simpa using hd)
  | longNumber hw hread _ ih =>
    rcases List.mem_cons.mp hd with heq | hd
    · cases heq
      exact .inl ⟨_, _, _, hw, hread, rfl⟩
    · exact ih hd
  | unknown hc hblank hno _ ih =>
    rcases List.mem_cons.mp hd with heq | hd
    · cases heq
      exact .inr ⟨_, hc, hblank, hno, rfl⟩
    · exact ih hd

/-- Two different things that are found have no character in common. -/
theorem Cut.disjoint (h : Cut chars i found) {x y : Scanned} (hx : x ∈ found) (hy : y ∈ found)
    (hne : x ≠ y) : x.span.stop ≤ y.span.start ∨ y.span.stop ≤ x.span.start := by
  have : Std.Symm fun x y : Scanned =>
      x.span.stop ≤ y.span.start ∨ y.span.stop ≤ x.span.start := ⟨fun _ _ => Or.symm⟩
  have hapart : found.Pairwise fun x y =>
      x.span.stop ≤ y.span.start ∨ y.span.stop ≤ x.span.start := h.pairwise.imp Or.inl
  exact hapart.forall hx hy hne

theorem Cut.pairwise_tokens (h : Cut chars i found) :
    ((found.filterMap token?).map Token.span).Pairwise fun s t => s.stop ≤ t.start := by
  rw [List.pairwise_map, List.pairwise_filterMap]
  refine h.pairwise.imp fun {x y} hxy t ht u hu => ?_
  cases x <;> cases ht
  cases y <;> cases hu
  exact hxy

theorem Cut.pairwise_remarks (h : Cut chars i found) :
    ((found.filterMap remark?).map Diagnostic.span).Pairwise fun s t => s.stop ≤ t.start := by
  rw [List.pairwise_map, List.pairwise_filterMap]
  refine h.pairwise.imp fun {x y} hxy d hd e he => ?_
  cases x <;> cases hd
  cases y <;> cases he
  exact hxy

end

end Scanned

theorem mem_tokens_iff {found : List Scanned} {t : Token} :
    t ∈ found.filterMap Scanned.token? ↔ .token t ∈ found := by
  rw [List.mem_filterMap]
  constructor
  · rintro ⟨x, hx, ht⟩
    cases x with
    | token u => cases ht; exact hx
    | remark d => cases ht
  · exact fun h => ⟨_, h, rfl⟩

theorem mem_remarks_iff {found : List Scanned} {d : Diagnostic} :
    d ∈ found.filterMap Scanned.remark? ↔ .remark d ∈ found := by
  rw [List.mem_filterMap]
  constructor
  · rintro ⟨x, hx, hd⟩
    cases x with
    | token t => cases hd
    | remark e => cases hd; exact hx
  · exact fun h => ⟨_, h, rfl⟩

/-- Scanning cuts a formula into its longest words. Tokens and remarks cover every character that is
no blank, and no character twice; a token is the longest word where it stands, a number that is too
long is one user error, and every other character is a warning of its own. -/
theorem scan_longest_words (source : String) :
    let chars := source.toList
    let tokens := (scan source).tokens
    let remarks := (scan source).remarks
    let spans := tokens.map Token.span ++ remarks.map Diagnostic.span
    (∃ found, Scanned.Cut chars 0 found ∧ tokens = found.filterMap Scanned.token? ∧
      remarks = found.filterMap Scanned.remark?) ∧
    (∀ s ∈ spans, 0 < s.length ∧ s.stop ≤ chars.length) ∧
    spans.Pairwise (fun s t => s.stop ≤ t.start ∨ t.stop ≤ s.start) ∧
    (tokens.map Token.span).Pairwise (fun s t => s.stop ≤ t.start) ∧
    (remarks.map Diagnostic.span).Pairwise (fun s t => s.stop ≤ t.start) ∧
    (∀ i c, chars[i]? = some c → (∀ s ∈ spans, i < s.start ∨ s.stop ≤ i) →
      c ∈ [' ', '\t', '\n', '\r']) ∧
    (∀ t ∈ tokens, t.text = String.ofList (t.span.slice chars) ∧
      ∃ runs, Token.LongestWord (chars.drop t.span.start) (t.span.slice chars) t.lexeme runs ∧
        ∀ run ∈ runs, run.length ≤ 4300) ∧
    ∀ d ∈ remarks,
      (∃ cs l runs, Token.LongestWord (chars.drop d.span.start) cs l runs ∧
        (∃ run ∈ runs, 4300 < run.length) ∧
        d = ⟨⟨d.span.start, cs.length⟩,
          "Number too long (" ++ Decimal.text cs.length ++ " characters)", .userError⟩) ∨
      ∃ c, chars[d.span.start]? = some c ∧ c ∉ [' ', '\t', '\n', '\r'] ∧
        (∀ cs l runs, Token.Word cs l runs → ¬ cs <+: chars.drop d.span.start) ∧
        d = ⟨⟨d.span.start, 1⟩,
          "Ignored unexpected character " ++ Text.quoted (String.singleton c), .warning⟩ := by
  intro chars tokens remarks spans
  have hcut : Scanned.Cut chars 0 (Scanned.scanFrom 0 0 chars) :=
    Scanned.cut_scanFrom chars 0 (Nat.zero_le _)
  have htokens : tokens = (Scanned.scanFrom 0 0 chars).filterMap Scanned.token? := rfl
  have hremarks : remarks = (Scanned.scanFrom 0 0 chars).filterMap Scanned.remark? := rfl
  clear_value tokens remarks
  generalize Scanned.scanFrom 0 0 chars = found at hcut htokens hremarks
  subst htokens hremarks
  have hspans : ∀ s ∈ spans, ∃ x ∈ found, x.span = s := by
    intro s hs
    rcases List.mem_append.mp hs with hs | hs
    · obtain ⟨t, ht, rfl⟩ := List.mem_map.mp hs
      exact ⟨_, mem_tokens_iff.mp ht, rfl⟩
    · obtain ⟨d, hd, rfl⟩ := List.mem_map.mp hs
      exact ⟨_, mem_remarks_iff.mp hd, rfl⟩
  have htokenSpans := hcut.pairwise_tokens
  have hremarkSpans := hcut.pairwise_remarks
  refine ⟨⟨found, hcut, rfl, rfl⟩, ?_, ?_, htokenSpans, hremarkSpans, ?_, ?_, ?_⟩
  · intro s hs
    obtain ⟨x, hx, rfl⟩ := hspans s hs
    exact (hcut.bounds x hx).2
  · refine List.pairwise_append.mpr ⟨htokenSpans.imp .inl, hremarkSpans.imp .inl, ?_⟩
    intro s hs t ht
    obtain ⟨tok, htok, rfl⟩ := List.mem_map.mp hs
    obtain ⟨d, hd, rfl⟩ := List.mem_map.mp ht
    exact hcut.disjoint (mem_tokens_iff.mp htok) (mem_remarks_iff.mp hd) nofun
  · intro i c hc hout
    refine hcut.blank_of_uncovered (Nat.zero_le i) hc fun x hx => hout x.span ?_
    cases x with
    | token t =>
      exact List.mem_append_left _ (List.mem_map_of_mem (mem_tokens_iff.mpr hx))
    | remark d =>
      exact List.mem_append_right _ (List.mem_map_of_mem (mem_remarks_iff.mpr hx))
  · intro t ht
    exact hcut.token_spec (mem_tokens_iff.mp ht)
  · intro d hd
    rcases hcut.remark_spec (mem_remarks_iff.mp hd) with ⟨cs, l, runs, hw, hread, heq⟩ | hother
    · simp only [Token.Readable, not_forall, Nat.not_le] at hread
      obtain ⟨run, hrun, hlong⟩ := hread
      exact .inl ⟨cs, l, runs, hw, ⟨run, hrun, hlong⟩, heq⟩
    · exact .inr hother

end Tabletop
