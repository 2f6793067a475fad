import Mathlib.Data.List.Infix
import Mathlib.Data.List.TakeWhile
import Mathlib.Tactic.Common
import Tabletop.Formula.Token

/-!
# Words of a formula

The words of formulas with what they stand for, said without a scanner. The piece that scanning
takes at the front of a text is the longest word there; it is a number that is too long if a run of
digits in it is, and no word at all only where none begins.
-/
namespace Tabletop

namespace Token

/-- One decimal digit or more. -/
def IsDigits (cs : List Char) : Prop := cs ≠ [] ∧ ∀ c ∈ cs, Decimal.isDigit c = true

/-- The words of formulas, with what they stand for and the runs of digits in them. -/
inductive Word : List Char → Lexeme → List (List Char) → Prop where
  | openParen : Word ['('] .openParen []
  | closeParen : Word [')'] .closeParen []
  | plus : Word ['+'] .plus []
  | minus : Word ['-'] .minus []
  | star : Word ['*'] .star []
  | slash : Word ['/'] .slash []
  | backslash : Word ['\\'] .slash []
  | integer {ds : List Char} : IsDigits ds → Word ds (.integer (Decimal.ofDigits ds)) [ds]
  | dice {ds es : List Char} {d : Char} : IsDigits ds → d = 'd' ∨ d = 'D' → IsDigits es →
      Word (ds ++ d :: es) (.dice (Decimal.ofDigits ds) (Decimal.ofDigits es)) [ds, es]
  | name {cs : List Char} : cs ≠ [] → (∀ c ∈ cs, isLetter c = true) →
      Word cs (.name (String.ofList cs)) []

/-- The longest word in front of a text. -/
structure LongestWord (text cs : List Char) (l : Lexeme) (runs : List (List Char)) : Prop where
  word : Word cs l runs
  front : cs <+: text
  longest : ∀ other m more, Word other m more → other <+: text → other.length ≤ cs.length

/-- The number can be read: no run of digits in it is too long. -/
def Readable (runs : List (List Char)) : Prop := ∀ run ∈ runs, run.length ≤ Decimal.digitLimit

/-! ### Runs of characters of one kind -/

theorem length_le_takeWhile {p : Char → Bool} {cs text : List Char} (h : ∀ c ∈ cs, p c = true)
    (hf : cs <+: text) : cs.length ≤ (text.takeWhile p).length := by
  obtain ⟨more, rfl⟩ := hf
  rw [List.takeWhile_append_of_pos h, List.length_append]
  exact Nat.le_add_right _ _

theorem isDigits_takeWhile {c : Char} {rest : List Char} (h : Decimal.isDigit c = true) :
    IsDigits ((c :: rest).takeWhile Decimal.isDigit) :=
  ⟨by simp [h], fun _ hd => List.mem_takeWhile_imp hd⟩

/-- Digits before another character are all digits that there are. -/
theorem takeWhile_of_isDigits {ds : List Char} {d : Char} (h : IsDigits ds)
    (hd : Decimal.isDigit d = false) (more : List Char) :
    (ds ++ d :: more).takeWhile Decimal.isDigit = ds ∧
      (ds ++ d :: more).dropWhile Decimal.isDigit = d :: more := by
  rw [List.takeWhile_append_of_pos h.2, List.dropWhile_append_of_pos h.2]
  simp [hd]

/-! ### The first characters of words -/

theorem isDigit_diceLetter {d : Char} (h : d = 'd' ∨ d = 'D') : Decimal.isDigit d = false := by
  rcases h with rfl | rfl <;> decide

theorem isDigit_of_isLetter {c : Char} (h : isLetter c = true) : Decimal.isDigit c = false := by
  simp only [isLetter, Decimal.isDigit, Bool.or_eq_true, Bool.and_eq_true, decide_eq_true_eq,
    Char.le_def, UInt32.le_iff_toNat_le] at h ⊢
  have hlow : 'a'.val.toNat = 97 := rfl
  have hhigh : 'A'.val.toNat = 65 := rfl
  have hnine : '9'.toNat = 57 := rfl
  have hc : c.toNat = c.val.toNat := rfl
  simp only [Bool.and_eq_false_iff, decide_eq_false_iff_not]
  omega

theorem symbol?_kinds {c : Char} {l : Lexeme} (h : symbol? c = some l) :
    Decimal.isDigit c = false ∧ isLetter c = false := by
  unfold symbol? at h
  split at h <;> cases h <;> decide

/-- The words of one character that is neither a digit nor a letter. -/
theorem word_of_symbol? {c : Char} {l : Lexeme} (h : symbol? c = some l) : Word [c] l [] := by
  unfold symbol? at h
  split at h <;> cases h
  · exact .openParen
  · exact .closeParen
  · exact .plus
  · exact .minus
  · exact .star
  · exact .slash
  · exact .backslash

/-- How a word begins, and how far it can go on. -/
theorem Word.cases_head {cs : List Char} {l : Lexeme} {runs : List (List Char)}
    (h : Word cs l runs) : ∃ c more, cs = c :: more ∧
      ((∃ m, symbol? c = some m ∧ more = []) ∨
        (Decimal.isDigit c = true ∧ (IsDigits cs ∨ ∃ ds d es, cs = ds ++ d :: es ∧ IsDigits ds ∧
          (d = 'd' ∨ d = 'D') ∧ IsDigits es)) ∨
        (isLetter c = true ∧ ∀ c ∈ cs, isLetter c = true)) := by
  cases h with
  | openParen | closeParen | plus | minus | star | slash | backslash =>
    exact ⟨_, [], rfl, .inl ⟨_, rfl, rfl⟩⟩
  | integer hds =>
    obtain ⟨hne, hall⟩ := hds
    cases cs with
    | nil => exact absurd rfl hne
    | cons c more =>
      exact ⟨c, more, rfl, .inr (.inl ⟨hall c List.mem_cons_self, .inl ⟨hne, hall⟩⟩)⟩
  | @dice ds es d hds hd hes =>
    obtain ⟨hne, hall⟩ := hds
    cases ds with
    | nil => exact absurd rfl hne
    | cons c more =>
      exact ⟨c, more ++ d :: es, rfl, .inr (.inl ⟨hall c List.mem_cons_self,
        .inr ⟨c :: more, d, es, rfl, ⟨hne, hall⟩, hd, hes⟩⟩)⟩
  | name hne hall =>
    cases cs with
    | nil => exact absurd rfl hne
    | cons c more => exact ⟨c, more, rfl, .inr (.inr ⟨hall c List.mem_cons_self, hall⟩)⟩

/-! ### The longest words -/

section

variable {c : Char} {rest : List Char}

theorem longestWord_symbol {l : Lexeme} (h : symbol? c = some l) :
    LongestWord (c :: rest) [c] l [] where
  word := word_of_symbol? h
  front := ⟨rest, rfl⟩
  longest other m more hw hf := by
    obtain ⟨d, tail, rfl, hkind⟩ := hw.cases_head
    obtain ⟨rfl, _⟩ := List.cons_prefix_cons.mp hf
    obtain ⟨hdigit, hletter⟩ := symbol?_kinds h
    rcases hkind with ⟨_, _, rfl⟩ | ⟨hd, _⟩ | ⟨hd, _⟩
    · exact le_rfl
    · simp [hd] at hdigit
    · simp [hd] at hletter

theorem longestWord_name (h : isLetter c = true) :
    LongestWord (c :: rest) (c :: rest.takeWhile isLetter)
      (.name (String.ofList (c :: rest.takeWhile isLetter))) [] where
  word := by
    refine .name (List.cons_ne_nil _ _) fun d hd => ?_
    rcases List.mem_cons.mp hd with rfl | hd
    · exact h
    · exact List.mem_takeWhile_imp hd
  front := List.cons_prefix_cons.mpr ⟨rfl, List.takeWhile_prefix isLetter⟩
  longest other m more hw hf := by
    obtain ⟨d, tail, rfl, hkind⟩ := hw.cases_head
    obtain ⟨rfl, _⟩ := List.cons_prefix_cons.mp hf
    rcases hkind with ⟨_, hs, _⟩ | ⟨hd, _⟩ | ⟨_, hall⟩
    · simp [(symbol?_kinds hs).2] at h
    · simp [isDigit_of_isLetter h] at hd
    · have := length_le_takeWhile hall hf
      rwa [List.takeWhile_cons_of_pos h] at this

/-- Sides are there exactly if a letter `d` and a digit come next. -/
theorem sides?_eq_some_iff {cs es : List Char} : sides? cs = some es ↔
    ∃ d more, cs = d :: more ∧ (d = 'd' ∨ d = 'D') ∧ es = more.takeWhile Decimal.isDigit ∧
      es ≠ [] := by
  constructor
  · intro h
    unfold sides? at h
    split at h
    · rename_i d e more
      split at h
      · rename_i hde
        simp only [Bool.and_eq_true, Bool.or_eq_true, beq_iff_eq] at hde
        cases h
        exact ⟨d, e :: more, rfl, hde.1, rfl, (isDigits_takeWhile hde.2).1⟩
      · cases h
    · cases h
  · rintro ⟨d, more, rfl, hd, rfl, hne⟩
    cases more with
    | nil => exact absurd rfl hne
    | cons e more =>
      have he : Decimal.isDigit e = true := by
        by_contra he
        exact hne (List.takeWhile_cons_of_neg he)
      simp [sides?, digitRun, hd, he]

/-- How far a word that begins with a digit goes on. -/
theorem word_of_isDigit (h : Decimal.isDigit c = true) {cs : List Char} {l : Lexeme}
    {runs : List (List Char)} (hw : Word cs l runs) (hf : cs <+: c :: rest) :
    IsDigits cs ∨ ∃ ds d es, cs = ds ++ d :: es ∧ IsDigits ds ∧ (d = 'd' ∨ d = 'D') ∧
      IsDigits es := by
  obtain ⟨d, tail, rfl, hkind⟩ := hw.cases_head
  obtain ⟨rfl, _⟩ := List.cons_prefix_cons.mp hf
  rcases hkind with ⟨_, hs, _⟩ | ⟨_, hnumber⟩ | ⟨hd, _⟩
  · simp [(symbol?_kinds hs).1] at h
  · exact hnumber
  · simp [isDigit_of_isLetter hd] at h

/-- Dice at the front are a number of dice, the letter and a number of sides of the scanner. -/
theorem front_dice {ds es text : List Char} {d : Char} (hds : IsDigits ds)
    (hd : d = 'd' ∨ d = 'D') (hes : IsDigits es) (hf : ds ++ d :: es <+: text) :
    text.takeWhile Decimal.isDigit = ds ∧
      ∃ sides, sides? (text.dropWhile Decimal.isDigit) = some sides ∧
        es.length ≤ sides.length := by
  obtain ⟨more, rfl⟩ := hf
  have hsplit : ds ++ d :: es ++ more = ds ++ d :: (es ++ more) := by simp
  obtain ⟨htake, hdrop⟩ := takeWhile_of_isDigits hds (isDigit_diceLetter hd) (es ++ more)
  have hle := length_le_takeWhile hes.2 (List.prefix_append es more)
  rw [hsplit, hdrop]
  refine ⟨htake, _, sides?_eq_some_iff.mpr ⟨d, es ++ more, rfl, hd, rfl, ?_⟩, hle⟩
  have := List.length_pos_iff.mpr hes.1
  exact List.length_pos_iff.mp (this.trans_le hle)

theorem longestWord_integer (h : Decimal.isDigit c = true)
    (hnone : sides? ((c :: rest).dropWhile Decimal.isDigit) = none) :
    LongestWord (c :: rest) ((c :: rest).takeWhile Decimal.isDigit)
      (.integer (Decimal.ofDigits ((c :: rest).takeWhile Decimal.isDigit)))
      [(c :: rest).takeWhile Decimal.isDigit] where
  word := .integer (isDigits_takeWhile h)
  front := List.takeWhile_prefix _
  longest other m more hw hf := by
    rcases word_of_isDigit h hw hf with hds | ⟨ds, d, es, rfl, hds, hd, hes⟩
    · exact length_le_takeWhile hds.2 hf
    · obtain ⟨_, sides, hsides, _⟩ := front_dice hds hd hes hf
      simp [hsides] at hnone

theorem longestWord_dice (h : Decimal.isDigit c = true) {d : Char} {after : List Char}
    (hdrop : (c :: rest).dropWhile Decimal.isDigit = d :: after) (hd : d = 'd' ∨ d = 'D')
    (hne : after.takeWhile Decimal.isDigit ≠ []) :
    LongestWord (c :: rest)
      ((c :: rest).takeWhile Decimal.isDigit ++ d :: after.takeWhile Decimal.isDigit)
      (.dice (Decimal.ofDigits ((c :: rest).takeWhile Decimal.isDigit))
        (Decimal.ofDigits (after.takeWhile Decimal.isDigit)))
      [(c :: rest).takeWhile Decimal.isDigit, after.takeWhile Decimal.isDigit] where
  word := .dice (isDigits_takeWhile h) hd ⟨hne, fun _ he => List.mem_takeWhile_imp he⟩
  front := by
    have hsplit : (c :: rest).takeWhile Decimal.isDigit ++ d :: after = c :: rest := by
      rw [← hdrop, List.takeWhile_append_dropWhile]
    have hcons : d :: after.takeWhile Decimal.isDigit <+: d :: after :=
      List.cons_prefix_cons.mpr ⟨rfl, List.takeWhile_prefix _⟩
    have hfront := (List.prefix_append_right_inj ((c :: rest).takeWhile Decimal.isDigit)).mpr hcons
    rwa [hsplit] at hfront
  longest other m more hw hf := by
    rcases word_of_isDigit h hw hf with hds | ⟨ds, e, es, rfl, hds, he, hes⟩
    · have := length_le_takeWhile hds.2 hf
      rw [List.length_append]
      omega
    · obtain ⟨htake, sides, hsides, hle⟩ := front_dice hds he hes hf
      have hown := sides?_eq_some_iff.mpr ⟨d, after, hdrop, hd, rfl, hne⟩
      rw [hown, Option.some.injEq] at hsides
      simp only [List.length_append, List.length_cons, htake, hsides]
      omega

/-- The number at the front of a text that starts with a digit is the longest word there, and it can
be read unless it is too long. -/
theorem number_spec (h : Decimal.isDigit c = true) :
    ∃ cs l runs, LongestWord (c :: rest) cs l runs ∧ (number (c :: rest)).2 = cs.length ∧
      ((number (c :: rest)).1 = .lexeme l ∧ Readable runs ∨
        (number (c :: rest)).1 = .longNumber ∧ ¬ Readable runs) := by
  cases hsides : sides? ((c :: rest).dropWhile Decimal.isDigit) with
  | none =>
    refine ⟨_, _, _, longestWord_integer h hsides, ?_, ?_⟩
    · simp [number, digitRun, hsides]
    · by_cases hread : isReadable ((c :: rest).takeWhile Decimal.isDigit) = true
      · left
        refine ⟨by simp [number, digitRun, hsides, hread], ?_⟩
        simpa [Readable, isReadable] using hread
      · right
        refine ⟨by simp [number, digitRun, hsides, hread], ?_⟩
        simpa [Readable, isReadable] using hread
  | some sides =>
    obtain ⟨d, after, hdrop, hd, rfl, hne⟩ := sides?_eq_some_iff.mp hsides
    refine ⟨_, _, _, longestWord_dice h hdrop hd hne, ?_, ?_⟩
    · simp only [number, digitRun, hsides, List.length_append, List.length_cons]
      omega
    · by_cases hread : isReadable ((c :: rest).takeWhile Decimal.isDigit) = true ∧
          isReadable (after.takeWhile Decimal.isDigit) = true
      · left
        refine ⟨by simp [number, digitRun, hsides, hread], ?_⟩
        simpa [Readable, isReadable] using hread
      · right
        refine ⟨by simp [number, digitRun, hsides, hread], ?_⟩
        simpa [Readable, isReadable] using hread

/-- No word begins with a character that is neither a symbol nor a digit nor a letter. -/
theorem not_word_of_kinds (hs : symbol? c = none) (hd : Decimal.isDigit c = false)
    (hl : isLetter c = false) {cs : List Char} {l : Lexeme} {runs : List (List Char)}
    (hw : Word cs l runs) : ¬ cs <+: c :: rest := by
  intro hf
  obtain ⟨e, tail, rfl, hkind⟩ := hw.cases_head
  obtain ⟨rfl, _⟩ := List.cons_prefix_cons.mp hf
  rcases hkind with ⟨_, h, _⟩ | ⟨h, _⟩ | ⟨h, _⟩
  · simp [hs] at h
  · simp [hd] at h
  · simp [hl] at h

/-- The piece at the front of a text, told in terms of words. -/
theorem front_spec (c : Char) (rest : List Char) :
    ((front c rest).1 = .blank ∧ (front c rest).2 = 1 ∧ isSeparator c = true) ∨
    (∃ cs l runs, LongestWord (c :: rest) cs l runs ∧ (front c rest).2 = cs.length ∧
      ((front c rest).1 = .lexeme l ∧ Readable runs ∨
        (front c rest).1 = .longNumber ∧ ¬ Readable runs)) ∨
    ((front c rest).1 = .unknown ∧ (front c rest).2 = 1 ∧ isSeparator c = false ∧
      ∀ cs l runs, Word cs l runs → ¬ cs <+: c :: rest) := by
  have hnoruns : Readable [] := fun _ h => absurd h List.not_mem_nil
  unfold front
  split
  · rename_i hsep
    exact .inl ⟨rfl, rfl, hsep⟩
  · rename_i hsep
    split
    · rename_i l hl
      exact .inr (.inl ⟨[c], l, [], longestWord_symbol hl, rfl, .inl ⟨rfl, hnoruns⟩⟩)
    · rename_i hs
      split
      · rename_i hd
        exact .inr (.inl (number_spec hd))
      · rename_i hd
        split
        · rename_i hl
          exact .inr (.inl ⟨_, _, [], longestWord_name hl, rfl, .inl ⟨rfl, hnoruns⟩⟩)
        · rename_i hl
          simp only [Bool.not_eq_true] at hsep hd hl
          exact .inr (.inr ⟨rfl, rfl, hsep, fun _ _ _ => not_word_of_kinds hs hd hl⟩)

end

end Token

end Tabletop
