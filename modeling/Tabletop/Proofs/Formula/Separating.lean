import Tabletop.Proofs.Formula.Parsing
import Tabletop.Proofs.Formula.Spelling

/-!
# Separators

Scanning a formula that is split by blanks, or by characters that are in no word, is scanning both
of its parts: no word goes on across them, nor does it depend on what is behind them. They leave no
more than remarks, so putting them between two tokens does not change what the tokens form.
-/
namespace Tabletop

/-! ### Moving -/

/-- The span so many characters further on. -/
def Span.shift (k : Nat) (s : Span) : Span := ⟨s.start + k, s.length⟩

/-- The token so many characters further on. -/
def Token.shift (k : Nat) (t : Token) : Token := { t with span := t.span.shift k }

/-- The diagnostic so many characters further on. -/
def Diagnostic.shift (k : Nat) (d : Diagnostic) : Diagnostic := { d with span := d.span.shift k }

namespace Scanned

/-- What was found so many characters further on. -/
def shift (k : Nat) : Scanned → Scanned
  | token t => token (t.shift k)
  | remark d => remark (d.shift k)

theorem ofPiece_shift (k : Nat) (piece : Token.Piece) (span : Span) (chars : List Char) :
    ofPiece piece (span.shift k) chars = (ofPiece piece span chars).map (shift k) := by
  cases piece <;> rfl

theorem scanFrom_shift (k start taken : Nat) (cs : List Char) :
    scanFrom (start + k) taken cs = (scanFrom start taken cs).map (shift k) := by
  induction cs generalizing start taken with
  | nil => rfl
  | cons c rest ih =>
    cases taken with
    | succ taken => rw [scanFrom, scanFrom, ← ih, Nat.add_right_comm]
    | zero =>
      have hpiece := ofPiece_shift k (Token.front c rest).1 ⟨start, (Token.front c rest).2⟩
        ((c :: rest).take (Token.front c rest).2)
      simp only [scanFrom, List.map_append, ← ih, Nat.add_right_comm start 1 k]
      rw [← Option.toList_map, ← hpiece]
      rfl

theorem filterMap_token?_shift (k : Nat) (found : List Scanned) :
    (found.map (shift k)).filterMap token? = (found.filterMap token?).map (Token.shift k) := by
  rw [List.filterMap_map, List.map_filterMap]
  exact List.filterMap_congr fun x _ => by cases x <;> rfl

theorem filterMap_remark?_shift (k : Nat) (found : List Scanned) :
    (found.map (shift k)).filterMap remark? =
      (found.filterMap remark?).map (Diagnostic.shift k) := by
  rw [List.filterMap_map, List.map_filterMap]
  exact List.filterMap_congr fun x _ => by cases x <;> rfl

end Scanned

/-! ### What the front of a text does not depend on -/

namespace Token

variable {cs rest tail : List Char} {c : Char}

/-- A run that ends among the first characters is a run of them. -/
theorem takeWhile_append_of_length_le {p : Char → Bool}
    (h : ((cs ++ rest).takeWhile p).length ≤ cs.length) :
    (cs ++ rest).takeWhile p = cs.takeWhile p ∧
      (cs ++ rest).dropWhile p = cs.dropWhile p ++ rest := by
  have htake : (cs ++ rest).takeWhile p = cs.takeWhile p := by
    rw [List.takeWhile_append] at h ⊢
    split
    · rename_i hall
      rw [if_pos hall, List.length_append] at h
      have hnil : rest.takeWhile p = [] := List.length_eq_zero_iff.mp (by omega)
      rw [hnil, List.append_nil]
      exact ((List.takeWhile_prefix p).eq_of_length hall).symm
    · rfl
  have hsplit : cs.takeWhile p ++ (cs ++ rest).dropWhile p =
      cs.takeWhile p ++ (cs.dropWhile p ++ rest) := by
    rw [← htake, List.takeWhile_append_dropWhile, htake, ← List.append_assoc,
      List.takeWhile_append_dropWhile]
  exact ⟨htake, List.append_cancel_left hsplit⟩

theorem sides?_append_of_eq_none (h : sides? (cs ++ rest) = none) : sides? cs = none := by
  cases hs : sides? cs with
  | none => rfl
  | some es =>
    obtain ⟨d, more, rfl, hd, rfl, hne⟩ := sides?_eq_some_iff.mp hs
    have hlonger : (more ++ rest).takeWhile Decimal.isDigit ≠ [] := by
      have hle := length_le_takeWhile (fun _ he => List.mem_takeWhile_imp he)
        ((List.takeWhile_prefix Decimal.isDigit).trans (List.prefix_append more rest))
      exact List.length_pos_iff.mp ((List.length_pos_iff.mpr hne).trans_le hle)
    have hsome := sides?_eq_some_iff.mpr ⟨d, more ++ rest, rfl, hd, rfl, hlonger⟩
    cases h.symm.trans hsome

theorem sides?_append_of_eq_some {es : List Char} (h : sides? (cs ++ rest) = some es)
    (hle : es.length + 1 ≤ cs.length) : sides? cs = some es := by
  obtain ⟨d, more, hsplit, hd, rfl, hne⟩ := sides?_eq_some_iff.mp h
  cases cs with
  | nil => simp at hle
  | cons e inner =>
    rw [List.cons_append, List.cons.injEq] at hsplit
    obtain ⟨rfl, rfl⟩ := hsplit
    obtain ⟨htake, -⟩ := takeWhile_append_of_length_le (Nat.le_of_succ_le_succ hle)
    rw [htake] at hne ⊢
    exact sides?_eq_some_iff.mpr ⟨e, inner, rfl, hd, rfl, hne⟩

theorem number_append (h : (number (cs ++ rest)).2 ≤ cs.length) :
    number (cs ++ rest) = number cs := by
  have hrun : ((cs ++ rest).takeWhile Decimal.isDigit).length ≤ cs.length := by
    refine le_trans ?_ h
    simp only [number, digitRun]
    split <;> dsimp only <;> omega
  obtain ⟨htake, hdrop⟩ := takeWhile_append_of_length_le hrun
  have hlength : (cs.takeWhile Decimal.isDigit).length + (cs.dropWhile Decimal.isDigit).length =
      cs.length := by
    rw [← List.length_append, List.takeWhile_append_dropWhile]
  have hsides : sides? (cs.dropWhile Decimal.isDigit ++ rest) =
      sides? (cs.dropWhile Decimal.isDigit) := by
    simp only [number, digitRun, htake, hdrop] at h
    cases hs : sides? (cs.dropWhile Decimal.isDigit ++ rest) with
    | none => exact (sides?_append_of_eq_none hs).symm
    | some es =>
      simp only [hs] at h
      exact (sides?_append_of_eq_some hs (by omega)).symm
  simp only [number, digitRun, htake, hdrop, hsides]
  rfl

/-- A piece that ends among the first characters does not depend on those behind them. -/
theorem front_append (h : (front c (rest ++ tail)).2 ≤ rest.length + 1) :
    front c (rest ++ tail) = front c rest := by
  unfold front at h ⊢
  by_cases hseparator : isSeparator c
  · simp only [hseparator, if_true]
  · simp only [hseparator, if_false, Bool.false_eq_true] at h ⊢
    cases hsymbol : symbol? c with
    | some l => rfl
    | none =>
      simp only [hsymbol] at h
      by_cases hdigit : Decimal.isDigit c
      · simp only [hdigit, if_true] at h ⊢
        rw [← List.cons_append] at h ⊢
        exact number_append h
      · simp only [hdigit, if_false, Bool.false_eq_true] at h ⊢
        by_cases hletter : isLetter c
        · simp only [hletter, if_true, List.length_cons] at h ⊢
          rw [(takeWhile_append_of_length_le (Nat.le_of_succ_le_succ h)).1]
        · simp only [hletter, if_false, Bool.false_eq_true]

/-- Words of more than one character have only digits and letters. -/
theorem Word.kinds {l : Lexeme} {runs : List (List Char)} (h : Word cs l runs)
    (hlength : 2 ≤ cs.length) : ∀ c ∈ cs, Decimal.isDigit c = true ∨ isLetter c = true := by
  obtain ⟨c, more, rfl, hkind⟩ := h.cases_head
  rcases hkind with ⟨m, -, rfl⟩ | ⟨-, hdigits | ⟨ds, d, es, heq, hds, hd, hes⟩⟩ | ⟨-, hletters⟩
  · simp at hlength
  · exact fun e he => .inl (hdigits.2 e he)
  · intro e he
    rw [heq, List.mem_append, List.mem_cons] at he
    rcases he with he | rfl | he
    · exact .inl (hds.2 e he)
    · rcases hd with rfl | rfl
      · exact .inr (by decide)
      · exact .inr (by decide)
    · exact .inl (hes.2 e he)
  · exact fun e he => .inr (hletters e he)

end Token

/-! ### Scanning parts -/

namespace Scanned

open Token

variable {a tail : List Char}

/-- A piece of more than one character at the front is found. -/
theorem exists_mem_scanFrom_of_front {c : Char} {rest : List Char} (start : Nat)
    (h : 2 ≤ (front c rest).2) :
    ∃ x ∈ scanFrom start 0 (c :: rest), x.span = ⟨start, (front c rest).2⟩ := by
  have hpiece : ∃ x, ofPiece (front c rest).1 ⟨start, (front c rest).2⟩
      ((c :: rest).take (front c rest).2) = some x ∧ x.span = ⟨start, (front c rest).2⟩ := by
    rcases front_spec c rest with
      ⟨-, hone, -⟩ | ⟨cs, l, runs, -, -, ⟨hword, -⟩ | ⟨hlong, -⟩⟩ | ⟨-, hone, -⟩
    · omega
    · rw [hword]
      exact ⟨_, rfl, rfl⟩
    · rw [hlong]
      exact ⟨_, rfl, rfl⟩
    · omega
  obtain ⟨x, hx, hspan⟩ := hpiece
  refine ⟨x, ?_, hspan⟩
  rw [scanFrom_cons]
  exact List.mem_append_left _ (by simp [hx])

/-- Where nothing that is found lies across the end of the first characters, they are scanned as if
nothing was behind them. -/
theorem scanFrom_append {start : Nat} (h : ∀ x ∈ scanFrom start 0 (a ++ tail),
      x.span.stop ≤ start + a.length ∨ start + a.length ≤ x.span.start) :
    scanFrom start 0 (a ++ tail) = scanFrom start 0 a ++ scanFrom (start + a.length) 0 tail := by
  -- every piece takes a character at least, so the first characters get fewer
  induction hn : a.length using Nat.strong_induction_on generalizing a start with
  | _ n ih =>
    cases a with
    | nil =>
      subst hn
      rfl
    | cons c rest =>
      have hpos := front_pos c (rest ++ tail)
      have hle : (front c (rest ++ tail)).2 ≤ rest.length + 1 := by
        by_contra hlong
        obtain ⟨x, hx, hspan⟩ := exists_mem_scanFrom_of_front start
          (show 2 ≤ (front c (rest ++ tail)).2 by omega)
        have hcut := h x hx
        rw [hspan] at hcut
        simp only [Span.stop, List.length_cons] at hcut
        omega
      have hfront := front_append hle
      rw [List.cons_append, scanFrom_cons] at h ⊢
      rw [hfront] at h hle ⊢
      have htake : (c :: (rest ++ tail)).take (front c rest).2 =
          (c :: rest).take (front c rest).2 :=
        List.take_append_of_le_length (show _ ≤ (c :: rest).length from hle)
      have hdrop : (c :: (rest ++ tail)).drop (front c rest).2 =
          (c :: rest).drop (front c rest).2 ++ tail :=
        List.drop_append_of_le_length (show _ ≤ (c :: rest).length from hle)
      have hlength : ((c :: rest).drop (front c rest).2).length = n - (front c rest).2 := by
        rw [List.length_drop, hn]
      rw [hfront] at hpos
      rw [List.length_cons] at hn
      rw [scanFrom_cons start c rest, htake, hdrop, List.append_assoc]
      rw [hdrop] at h
      rw [ih (n - (front c rest).2) (by omega) ?_ hlength]
      · congr 3
        omega
      · intro x hx
        have hcut := h x (List.mem_append_right _ hx)
        rw [List.length_cons] at hcut
        rw [hlength]
        omega

/-- What is found is about one character, or about a longest word. -/
theorem Cut.length_eq_one_or_word {chars : List Char} {i : Nat} {found : List Scanned}
    (h : Cut chars i found) {x : Scanned} (hx : x ∈ found) : x.span.length = 1 ∨
      ∃ cs l runs, LongestWord (chars.drop x.span.start) cs l runs ∧ cs.length = x.span.length := by
  cases x with
  | token t =>
    obtain ⟨-, runs, hword, -⟩ := h.token_spec hx
    exact .inr ⟨_, _, runs, hword, t.span.length_slice chars (h.bounds _ hx).2.2⟩
  | remark d =>
    rcases h.remark_spec hx with ⟨cs, l, runs, hword, -, hd⟩ | ⟨c, -, -, -, hd⟩
    · refine .inr ⟨cs, l, runs, hword, ?_⟩
      rw [hd]
      rfl
    · refine .inl ?_
      rw [hd]
      rfl

/-- All characters of a longest word are characters of the text. -/
theorem exists_getElem?_of_longestWord {chars cs : List Char} {i j : Nat} {l : Lexeme}
    {runs : List (List Char)} (h : LongestWord (chars.drop i) cs l runs) (hij : i ≤ j)
    (hj : j < i + cs.length) : ∃ c ∈ cs, chars[j]? = some c := by
  have hfront := List.prefix_iff_getElem?.mp h.front (j - i) (by omega)
  rw [List.getElem?_drop, Nat.add_sub_cancel' hij] at hfront
  exact ⟨_, List.getElem_mem _, hfront⟩

/-- Nothing lies across a place where words end. -/
theorem Cut.apart_of_endsWord {found : List Scanned} (h : Cut (a ++ tail) 0 found)
    (htail : EndsWord tail) : ∀ x ∈ found, x.span.stop ≤ a.length ∨ a.length ≤ x.span.start := by
  intro x hx
  by_contra hacross
  obtain ⟨hstop, hstart⟩ := not_or.mp hacross
  rw [Span.stop] at hstop
  rcases h.length_eq_one_or_word hx with hone | ⟨cs, l, runs, hword, hlength⟩
  · omega
  · -- the character behind the first ones is in the word
    obtain ⟨c, hmem, hc⟩ := exists_getElem?_of_longestWord hword (show _ ≤ a.length by omega)
      (by omega)
    rw [List.getElem?_append_right le_rfl, Nat.sub_self, ← List.head?_eq_getElem?] at hc
    obtain ⟨hdigit, hletter⟩ := htail c hc
    rcases hword.word.kinds (by omega) c hmem with hkind | hkind
    · simp [hkind] at hdigit
    · simp [hkind] at hletter

end Scanned

/-! ### Separators -/

/-- The characters that formulas are written in. -/
def Token.InAlphabet (c : Char) : Prop :=
  c ∈ ['(', ')', '+', '-', '*', '/', '\\'] ∨ Decimal.isDigit c = true ∨ isLetter c = true

/-- The character is a blank, or none that formulas are written in. -/
def Token.Separates (c : Char) : Prop := c ∈ [' ', '\t', '\n', '\r'] ∨ ¬ InAlphabet c

theorem Token.Separates.kinds {c : Char} (h : Separates c) :
    symbol? c = none ∧ Decimal.isDigit c = false ∧ isLetter c = false := by
  rcases h with h | h
  · exact isSeparator_kinds (Scanned.isSeparator_iff.mpr h)
  · simp only [InAlphabet, not_or, Bool.not_eq_true] at h
    refine ⟨?_, h.2⟩
    unfold symbol?
    split <;> first | rfl | simp at h

namespace Scanned

/-- What there is to say about separators: a remark on each that is no blank. -/
def separatorRemarks (start : Nat) : List Char → List Diagnostic
  | [] => []
  | c :: rest =>
      if c ∈ [' ', '\t', '\n', '\r'] then separatorRemarks (start + 1) rest
      else characterRemark start c :: separatorRemarks (start + 1) rest

theorem scanFrom_separators {w : List Char} (h : ∀ c ∈ w, Token.Separates c) (start : Nat)
    (tail : List Char) : scanFrom start 0 (w ++ tail) =
      (separatorRemarks start w).map remark ++ scanFrom (start + w.length) 0 tail := by
  induction w generalizing start with
  | nil => rfl
  | cons c rest ih =>
    obtain ⟨hc, hrest⟩ := List.forall_mem_cons.mp h
    obtain ⟨hsymbol, hdigit, hletter⟩ := hc.kinds
    have hnext := ih hrest (start + 1)
    rw [show start + (c :: rest).length = start + 1 + rest.length by simp; omega]
    rw [List.cons_append, scanFrom_cons, separatorRemarks]
    by_cases hblank : c ∈ [' ', '\t', '\n', '\r']
    · have hfront : Token.front c (rest ++ tail) = (.blank, 1) :=
        if_pos (isSeparator_iff.mpr hblank)
      rw [if_pos hblank, hfront]
      exact hnext
    · have hseparator : Token.isSeparator c = false := by
        rw [← Bool.not_eq_true, isSeparator_iff]
        exact hblank
      have hfront : Token.front c (rest ++ tail) = (.unknown, 1) := by
        simp [Token.front, hseparator, hsymbol, hdigit, hletter]
      rw [if_neg hblank, hfront]
      exact congrArg (remark (characterRemark start c) :: ·) hnext

/-- What is found in two parts with separators between them. -/
theorem scanFrom_separated {w : List Char} (hw : w ≠ []) (hseparates : ∀ c ∈ w, Token.Separates c)
    (a b : List Char) : scanFrom 0 0 (a ++ (w ++ b)) =
      scanFrom 0 0 a ++ ((separatorRemarks a.length w).map remark ++
        (scanFrom 0 0 b).map (shift (a.length + w.length))) := by
  have hends : EndsWord (w ++ b) := by
    obtain ⟨c, rest, rfl⟩ := List.exists_cons_of_ne_nil hw
    exact endsWord_cons (hseparates c List.mem_cons_self).kinds.2 _
  have hcut := cut_scanFrom (a ++ (w ++ b)) 0 (Nat.zero_le _)
  rw [List.drop_zero] at hcut
  have hapart := hcut.apart_of_endsWord hends
  rw [← Nat.zero_add a.length] at hapart
  rw [scanFrom_append hapart, Nat.zero_add, scanFrom_separators hseparates, ← scanFrom_shift,
    Nat.zero_add]

end Scanned

/-! ### Operands side by side -/

/-- The lexeme is an operand by itself. -/
def Lexeme.IsOperand : Lexeme → Prop
  | integer _ => True
  | dice .. => True
  | name _ => True
  | _ => False

namespace Reading

variable {t : Token}

/-- Behind a value no operand fits. -/
theorem step_holds_of_isOperand (chars : List Char) (h : t.lexeme.IsOperand) (value : Term)
    (sum : Option Waiting) (outer : List Level) :
    ∃ m, step chars (.holds value sum outer) t = .error m := by
  cases hl : t.lexeme <;> simp [hl, Lexeme.IsOperand] at h <;> cases outer <;>
    simp [step, operator, hl, Lexeme.productOperator?, Lexeme.sumOperator?]

/-- An operand is a value, unless it does not fit. -/
theorem step_of_isOperand (chars : List Char) (h : t.lexeme.IsOperand) (r : Reading) :
    (∃ m, step chars r t = .error m) ∨
      ∃ value sum outer, step chars r t = .ok (.holds value sum outer) := by
  cases r with
  | wants level outer =>
    simp only [step, operand]
    cases hl : t.lexeme with
    | integer value => exact .inr ⟨_, _, _, rfl⟩
    | name id => exact .inr ⟨_, _, _, rfl⟩
    | dice count sides =>
      by_cases hpos : 0 < count ∧ 0 < sides
      · simp only [dif_pos hpos]
        exact .inr ⟨_, _, _, rfl⟩
      · simp only [dif_neg hpos]
        exact .inl ⟨_, rfl⟩
    | _ => simp [hl, Lexeme.IsOperand] at h
  | holds value sum outer => exact .inl (step_holds_of_isOperand chars h value sum outer)

end Reading

/-- No formula has two operands side by side. -/
theorem not_derives_operands {ts us : List Token} {t u : Token} (ht : t.lexeme.IsOperand)
    (hu : u.lexeme.IsOperand) (tree : FormulaTree) :
    ¬ Derives .sum ((ts ++ t :: u :: us).map Token.lexeme) tree := by
  intro h
  obtain ⟨x, hx, -⟩ := (parseTokens_iff_derives [] _ tree).mpr h
  rw [parseTokens, if_neg (by simp), Reading.run_append] at hx
  cases hrun : Reading.run [] .start ts with
  | error m => simp [hrun, Except.bind] at hx
  | ok r =>
    rcases Reading.step_of_isOperand [] ht r with ⟨m, hstep⟩ | ⟨value, sum, outer, hstep⟩
    · simp [hrun, Except.bind, Reading.run, hstep] at hx
    · obtain ⟨m, herror⟩ := Reading.step_holds_of_isOperand [] hu value sum outer
      simp [hrun, Except.bind, Reading.run, hstep, herror] at hx

/-- A formula has a term just if nothing in it is a user error and its tokens form one. -/
theorem tree_parse_eq_some_iff {source : String} {tree : FormulaTree} :
    (parse source).term.map Term.tree = some tree ↔
      (∀ d ∈ (scan source).remarks, d.severity ≠ .userError) ∧
        Derives .sum ((scan source).tokens.map Token.lexeme) tree := by
  have hfailed : ((scan source).remarks.any fun d => d.severity == .userError) = false ↔
      ∀ d ∈ (scan source).remarks, d.severity ≠ .userError := by simp
  rw [← parseTokens_iff_derives source.toList, ← hfailed, Option.map_eq_some_iff]
  simp only [← Parse.term_ofTokens_eq_some_iff, parse]
  cases (scan source).remarks.any fun d => d.severity == .userError <;> simp

/-! ### The ends of a text -/

namespace Token

/-- A digit or letter is a word. -/
theorem exists_word_of_kinds {c : Char} (h : Decimal.isDigit c = true ∨ isLetter c = true) :
    ∃ l runs, Word [c] l runs := by
  rcases h with h | h
  · exact ⟨_, _, .integer ⟨by simp, by simpa using h⟩⟩
  · exact ⟨_, _, .name (by simp) (by simpa using h)⟩

theorem not_blank_of_kinds {c : Char} (h : Decimal.isDigit c = true ∨ isLetter c = true) :
    c ∉ [' ', '\t', '\n', '\r'] := by
  intro hblank
  obtain ⟨-, hdigit, hletter⟩ := isSeparator_kinds (Scanned.isSeparator_iff.mpr hblank)
  simp [hdigit, hletter] at h

/-- A word with a digit or a letter in it is an operand. -/
theorem Word.isOperand {cs : List Char} {l : Lexeme} {runs : List (List Char)} (h : Word cs l runs)
    {c : Char} (hc : c ∈ cs) (hkind : Decimal.isDigit c = true ∨ isLetter c = true) :
    l.IsOperand := by
  cases h with
  | integer | dice | name => trivial
  | _ =>
    cases List.mem_singleton.mp hc
    exact absurd hkind (by decide)

end Token

namespace Scanned

/-- An operand, or a number that is too long for one. -/
def IsOperand : Scanned → Prop
  | token t => t.lexeme.IsOperand
  | remark d => d.severity = .userError

variable {chars : List Char} {i : Nat} {c : Char} {found : List Scanned}

/-- What begins with a digit or a letter begins with an operand. -/
theorem Cut.exists_first_operand (h : Cut chars i found) (hc : chars[i]? = some c)
    (hkind : Decimal.isDigit c = true ∨ Token.isLetter c = true) :
    ∃ x more, found = x :: more ∧ x.IsOperand := by
  have hdrop : ∃ more, chars.drop i = c :: more := by
    rw [← List.head?_drop] at hc
    exact List.head?_eq_some_iff.mp hc
  obtain ⟨more, hmore⟩ := hdrop
  cases h with
  | done => simp at hc
  | blank hd hblank _ =>
    cases hc.symm.trans hd
    exact absurd hblank (Token.not_blank_of_kinds hkind)
  | word hw _ _ =>
    refine ⟨_, _, rfl, ?_⟩
    obtain ⟨d, rest, rfl, -⟩ := hw.word.cases_head
    have hfront := hw.front
    rw [hmore, List.cons_prefix_cons] at hfront
    exact hw.word.isOperand List.mem_cons_self (hfront.1 ▸ hkind)
  | longNumber _ _ _ => exact ⟨_, _, rfl, rfl⟩
  | unknown hd _ hno _ =>
    obtain ⟨l, runs, hword⟩ := Token.exists_word_of_kinds hkind
    exact absurd (hmore ▸ ⟨more, rfl⟩) (hno _ _ _ hword)

/-- What ends with a digit or a letter ends with an operand. -/
theorem Cut.exists_last_operand (h : Cut chars i found) (hi : i < chars.length)
    (hc : chars[chars.length - 1]? = some c)
    (hkind : Decimal.isDigit c = true ∨ Token.isLetter c = true) :
    ∃ before x, found = before ++ [x] ∧ x.IsOperand := by
  have hend {rest : List Scanned} (hcut : Cut chars chars.length rest) : rest = [] := by
    refine List.eq_nil_iff_forall_not_mem.mpr fun x hx => ?_
    obtain ⟨hstart, hpos, hstop⟩ := hcut.bounds x hx
    rw [Span.stop] at hstop
    omega
  induction h with
  | done => omega
  | @blank j d _ hd hblank hcut ih =>
    rcases Nat.lt_or_ge (j + 1) chars.length with hlt | hge
    · exact ih hlt
    · rw [show chars.length - 1 = j by omega, hd] at hc
      cases hc
      exact absurd hblank (Token.not_blank_of_kinds hkind)
  | @word j cs l runs rest hw hread hcut ih =>
    have hle := (bounds_of_longestWord hw).2
    rcases Nat.lt_or_ge (j + cs.length) chars.length with hlt | hge
    · obtain ⟨before, x, rfl, hx⟩ := ih hlt
      exact ⟨_ :: before, x, rfl, hx⟩
    · have hfull : j + cs.length = chars.length := by omega
      rw [hfull] at hcut
      obtain rfl := hend hcut
      refine ⟨[], _, rfl, hw.word.isOperand (c := c) ?_ hkind⟩
      have hall : cs = chars.drop j := hw.front.eq_of_length (by rw [List.length_drop]; omega)
      rw [hall]
      refine List.mem_of_getElem? (i := chars.length - 1 - j) ?_
      rw [List.getElem?_drop, show j + (chars.length - 1 - j) = chars.length - 1 by omega, hc]
  | @longNumber j cs l runs rest hw hread hcut ih =>
    have hle := (bounds_of_longestWord hw).2
    rcases Nat.lt_or_ge (j + cs.length) chars.length with hlt | hge
    · obtain ⟨before, x, rfl, hx⟩ := ih hlt
      exact ⟨_ :: before, x, rfl, hx⟩
    · rw [show j + cs.length = chars.length by omega] at hcut
      obtain rfl := hend hcut
      exact ⟨[], _, rfl, rfl⟩
  | @unknown j d rest hd hblank hno hcut ih =>
    rcases Nat.lt_or_ge (j + 1) chars.length with hlt | hge
    · obtain ⟨before, x, rfl, hx⟩ := ih hlt
      exact ⟨_ :: before, x, rfl, hx⟩
    · rw [show chars.length - 1 = j by omega] at hc
      obtain ⟨l, runs, hword⟩ := Token.exists_word_of_kinds hkind
      rw [← List.head?_drop] at hc
      obtain ⟨more, hmore⟩ := List.head?_eq_some_iff.mp hc
      exact absurd (hmore ▸ ⟨more, rfl⟩) (hno _ _ _ hword)

end Scanned

/-! ### Formulas in parts -/

/-- A scan is that of two parts, of which the second stands so many characters further on, with
these remarks between them. -/
structure Scan.Joins (joined a b : Scan) (between : List Diagnostic) (k : Nat) : Prop where
  tokens : joined.tokens = a.tokens ++ b.tokens.map (Token.shift k)
  remarks : joined.remarks = a.remarks ++ (between ++ b.remarks.map (Diagnostic.shift k))

section

variable {source a b : String} {between : List Diagnostic} {k : Nat}

theorem scan_joins (h : Scanned.scanFrom 0 0 source.toList = Scanned.scanFrom 0 0 a.toList ++
      (between.map .remark ++ (Scanned.scanFrom 0 0 b.toList).map (Scanned.shift k))) :
    (scan source).Joins (scan a) (scan b) between k := by
  have htokens : (between.map Scanned.remark).filterMap Scanned.token? = [] := by
    simp [List.filterMap_map, Function.comp_def, Scanned.token?]
  have hremarks : (between.map Scanned.remark).filterMap Scanned.remark? = between := by
    simp [List.filterMap_map, Function.comp_def, Scanned.remark?]
  constructor
  · simp only [scan, h, List.filterMap_append, htokens, List.nil_append,
      Scanned.filterMap_token?_shift]
  · simp only [scan, h, List.filterMap_append, hremarks, Scanned.filterMap_remark?_shift]

/-- Nothing is a user error just if nothing in either part is one. -/
theorem Scan.Joins.forall_severity_iff (h : (scan source).Joins (scan a) (scan b) between k)
    (hbetween : ∀ d ∈ between, d.severity ≠ .userError) :
    (∀ d ∈ (scan source).remarks, d.severity ≠ .userError) ↔
      (∀ d ∈ (scan a).remarks, d.severity ≠ .userError) ∧
        ∀ d ∈ (scan b).remarks, d.severity ≠ .userError := by
  rw [h.remarks, List.forall_mem_append, List.forall_mem_append, List.forall_mem_map]
  exact ⟨fun ⟨ha, _, hb⟩ => ⟨ha, hb⟩, fun ⟨ha, hb⟩ => ⟨ha, hbetween, hb⟩⟩

theorem Scan.Joins.lexemes (h : (scan source).Joins (scan a) (scan b) between k) :
    (scan source).tokens.map Token.lexeme =
      (scan a).tokens.map Token.lexeme ++ (scan b).tokens.map Token.lexeme := by
  rw [h.tokens, List.map_append, List.map_map]
  rfl

/-- What two parts form together does not depend on what is between them, unless it is a user error.
-/
theorem Scan.Joins.tree_parse_eq {source' : String} {between' : List Diagnostic} {k' : Nat}
    (h : (scan source).Joins (scan a) (scan b) between k)
    (h' : (scan source').Joins (scan a) (scan b) between' k')
    (hbetween : ∀ d ∈ between, d.severity ≠ .userError)
    (hbetween' : ∀ d ∈ between', d.severity ≠ .userError) :
    (parse source).term.map Term.tree = (parse source').term.map Term.tree := by
  ext tree
  rw [tree_parse_eq_some_iff, tree_parse_eq_some_iff, h.forall_severity_iff hbetween,
    h'.forall_severity_iff hbetween', h.lexemes, h'.lexemes]

/-- Parts of which one ends and the other begins with an operand form nothing together. -/
theorem Scan.Joins.tree_parse_eq_none (h : (scan source).Joins (scan a) (scan b) between k)
    {before after : List Scanned} {x y : Scanned}
    (ha : Scanned.scanFrom 0 0 a.toList = before ++ [x]) (hx : x.IsOperand)
    (hb : Scanned.scanFrom 0 0 b.toList = y :: after) (hy : y.IsOperand) :
    (parse source).term.map Term.tree = none := by
  refine Option.eq_none_iff_forall_not_mem.mpr fun tree htree => ?_
  obtain ⟨herrors, hderives⟩ := tree_parse_eq_some_iff.mp htree
  rw [h.remarks] at herrors
  rw [h.tokens] at hderives
  simp only [scan, ha, hb, List.filterMap_append, List.filterMap_cons, List.filterMap_nil]
    at herrors hderives
  cases x with
  | remark d => exact herrors d (by simp [Scanned.remark?]) hx
  | token t =>
    cases y with
    | remark d =>
      exact herrors (d.shift k) (by simp [Scanned.remark?]) hy
    | token u =>
      simp only [Scanned.token?, List.map_cons, List.append_assoc,
        List.singleton_append] at hderives
      have hshift : (u.shift k).lexeme.IsOperand := hy
      exact not_derives_operands hx hshift tree hderives

end

theorem severity_separatorRemarks {w : List Char} {start : Nat} :
    ∀ d ∈ Scanned.separatorRemarks start w, d.severity ≠ .userError := by
  induction w generalizing start with
  | nil => exact fun d hd => absurd hd List.not_mem_nil
  | cons c rest ih =>
    unfold Scanned.separatorRemarks
    split
    · exact ih
    · exact List.forall_mem_cons.mpr ⟨nofun, ih⟩

/-- Where something lies across the end of the first part that is no token, it is a number that is
too long, and both parts of it are operands by themselves. -/
theorem exists_operands_of_across {a b : List Char} {x : Scanned}
    (hx : x ∈ Scanned.scanFrom 0 0 (a ++ b)) (hstart : x.span.start < a.length)
    (hstop : a.length < x.span.stop) (htoken : ∀ t, x ≠ .token t) :
    x.IsOperand ∧
      (∃ before y, Scanned.scanFrom 0 0 a = before ++ [y] ∧ y.IsOperand) ∧
      ∃ y after, Scanned.scanFrom 0 0 b = y :: after ∧ y.IsOperand := by
  have hcut := Scanned.cut_scanFrom (a ++ b) 0 (Nat.zero_le _)
  have hcuta := Scanned.cut_scanFrom a 0 (Nat.zero_le _)
  have hcutb := Scanned.cut_scanFrom b 0 (Nat.zero_le _)
  rw [List.drop_zero] at hcut hcuta hcutb
  rw [Span.stop] at hstop
  cases x with
  | token t => exact absurd rfl (htoken t)
  | remark d =>
    rw [Scanned.span] at hstart hstop
    rcases hcut.remark_spec hx with ⟨cs, l, runs, hword, -, hd⟩ | ⟨c, -, -, -, hd⟩
    · have hlength : d.span.length = cs.length := by rw [hd]; rfl
      have hkinds := hword.word.kinds (by omega)
      obtain ⟨c, hmem, hc⟩ :=
        Scanned.exists_getElem?_of_longestWord hword (show _ ≤ a.length - 1 by omega) (by omega)
      obtain ⟨e, hmem', he⟩ :=
        Scanned.exists_getElem?_of_longestWord hword (show _ ≤ a.length by omega) (by omega)
      rw [List.getElem?_append_left (by omega)] at hc
      rw [List.getElem?_append_right le_rfl, Nat.sub_self] at he
      refine ⟨?_, hcuta.exists_last_operand (by omega) hc (hkinds c hmem),
        hcutb.exists_first_operand he (hkinds e hmem')⟩
      rw [hd]
      rfl
    · have hlength : d.span.length = 1 := by rw [hd]; rfl
      omega

/-- Scanning two parts with separators between them is scanning both parts, with a remark on each
separator that is no blank. Between two tokens of a formula separators change neither whether it has
a term nor the tree of the term. -/
theorem scan_separated {w : String} (hw : w ≠ "") (hseparates : ∀ c ∈ w.toList, Token.Separates c)
    (a b : String) :
    (scan (a ++ w ++ b)).tokens =
        (scan a).tokens ++ (scan b).tokens.map (Token.shift (a.length + w.length)) ∧
      (scan (a ++ w ++ b)).remarks =
        (scan a).remarks ++ (Scanned.separatorRemarks a.length w.toList ++
          (scan b).remarks.map (Diagnostic.shift (a.length + w.length))) ∧
      ((∀ t ∈ (scan (a ++ b)).tokens, t.span.stop ≤ a.length ∨ a.length ≤ t.span.start) →
        (parse (a ++ w ++ b)).term.map Term.tree = (parse (a ++ b)).term.map Term.tree) := by
  have hjoins : (scan (a ++ w ++ b)).Joins (scan a) (scan b)
      (Scanned.separatorRemarks a.length w.toList) (a.length + w.length) := by
    refine scan_joins ?_
    have hne : w.toList ≠ [] := by simpa using hw
    have hfound := Scanned.scanFrom_separated hne hseparates a.toList b.toList
    simpa [String.length_toList] using hfound
  refine ⟨hjoins.tokens, hjoins.remarks, fun hbetween => ?_⟩
  by_cases hapart : ∀ x ∈ Scanned.scanFrom 0 0 (a.toList ++ b.toList),
      x.span.stop ≤ 0 + a.toList.length ∨ 0 + a.toList.length ≤ x.span.start
  · have hplain : (scan (a ++ b)).Joins (scan a) (scan b) [] a.length := by
      refine scan_joins ?_
      rw [String.toList_append, Scanned.scanFrom_append hapart, Scanned.scanFrom_shift]
      rfl
    exact hjoins.tree_parse_eq hplain severity_separatorRemarks nofun
  · -- a number that is too long is cut into operands, which form nothing either
    push Not at hapart
    obtain ⟨x, hx, hstop, hstart⟩ := hapart
    rw [Nat.zero_add] at hstop hstart
    have htoken : ∀ t, x ≠ .token t := by
      rintro t rfl
      have hmem : t ∈ (scan (a ++ b)).tokens := by
        rw [scan, String.toList_append]
        exact mem_tokens_iff.mpr hx
      have hcut := hbetween t hmem
      simp only [Scanned.span, String.length_toList] at hstop hstart
      omega
    obtain ⟨hlong, ⟨before, y, ha, hy⟩, z, after, hb, hz⟩ :=
      exists_operands_of_across hx hstart hstop htoken
    rw [hjoins.tree_parse_eq_none ha hy hb hz]
    refine (Option.eq_none_iff_forall_not_mem.mpr fun tree htree => ?_).symm
    cases x with
    | token t => exact htoken t rfl
    | remark d =>
      have hmem : d ∈ (scan (a ++ b)).remarks := by
        rw [scan, String.toList_append]
        exact mem_remarks_iff.mpr hx
      exact (tree_parse_eq_some_iff.mp htree).1 d hmem hlong

/-- Blanks around a character that is in no formula leave one remark. -/
theorem scan_separated_question :
    " ? " ≠ "" ∧ (∀ c ∈ " ? ".toList, Token.Separates c) ∧
      (scan ("2" ++ " ? " ++ "*2d6")).remarks = [Scanned.characterRemark 2 '?'] ∧
      (parse ("2" ++ " ? " ++ "*2d6")).term.map Term.tree =
        some (.binary .times (.literal 2) (.dice 2 6)) := by
  have hne : " ? " ≠ "" := by decide
  have hseparates : ∀ c ∈ " ? ".toList, Token.Separates c := by
    intro c hc
    have hcases : c = ' ' ∨ c = '?' ∨ c = ' ' := by simpa using hc
    rcases hcases with rfl | rfl | rfl
    · exact .inl (by decide)
    · exact .inr (by unfold Token.InAlphabet; decide)
    · exact .inl (by decide)
  obtain ⟨-, hremarks, htree⟩ := scan_separated hne hseparates "2" "*2d6"
  refine ⟨hne, hseparates, ?_, ?_⟩
  · rw [hremarks]
    decide +kernel
  · rw [htree (by decide +kernel)]
    decide +kernel

end Tabletop
