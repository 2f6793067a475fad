import Tabletop.Formula.Term
import Tabletop.Proofs.Formula.Cutting
import Tabletop.Proofs.Number.Digits

/-!
# Spelling words

What a word stands for can be spelled out again: numbers in digits, dice in digits around a letter,
names in their letters and all else in one character. What is spelled so is scanned as one token
with the same lexeme, as long as nothing that could go on with a word follows.
-/
namespace Tabletop

/-! ### Lexemes that can be spelled -/

/-- The lexeme can be written in digits or letters: its numbers are not too long, and its name is
one. -/
def Lexeme.IsWritable : Lexeme → Prop
  | integer value => Decimal.fits value
  | dice count sides => Decimal.fits count ∧ Decimal.fits sides
  | name id => id.toList ≠ [] ∧ ∀ c ∈ id.toList, Token.isLetter c = true
  | _ => True

namespace Token

theorem fits_ofDigits {ds : List Char} (h : IsDigits ds) (hle : ds.length ≤ Decimal.digitLimit) :
    Decimal.fits (Decimal.ofDigits ds) := by
  have hlt := Decimal.ofDigits_lt h.2
  have hpow : 10 ^ ds.length ≤ 10 ^ Decimal.digitLimit := Nat.pow_le_pow_right (by decide) hle
  exact Decimal.fits_iff.mpr (Nat.lt_of_lt_of_le hlt hpow)

/-- What a word stands for can be written, unless the word is too long to be read. -/
theorem Word.isWritable {cs : List Char} {l : Lexeme} {runs : List (List Char)}
    (h : Word cs l runs) (hread : Readable runs) : l.IsWritable := by
  cases h with
  | integer hds => exact fits_ofDigits hds (hread _ (by simp))
  | dice hds _ hes =>
    exact ⟨fits_ofDigits hds (hread _ (by simp)), fits_ofDigits hes (hread _ (by simp))⟩
  | name hne hall => exact ⟨by simpa using hne, by simpa using hall⟩
  | _ => trivial

end Token

theorem isWritable_of_mem_scan {source : String} {tok : Token} (h : tok ∈ (scan source).tokens) :
    tok.lexeme.IsWritable := by
  have hcut := Scanned.cut_scanFrom source.toList 0 (Nat.zero_le _)
  obtain ⟨-, runs, hlongest, hread⟩ := hcut.token_spec (mem_tokens_iff.mp h)
  exact hlongest.word.isWritable hread

/-! ### Scanning what is spelled -/

/-- What may follow a word: nothing that could go on with it. -/
def EndsWord (rest : List Char) : Prop :=
  ∀ c ∈ rest.head?, Decimal.isDigit c = false ∧ Token.isLetter c = false

/-- What goes on with one kind of characters is not found behind a word. -/
theorem EndsWord.takeWhile {p : Char → Bool} {cs rest : List Char} (h : EndsWord rest)
    (hp : ∀ c, Decimal.isDigit c = false → Token.isLetter c = false → p c = false)
    (hcs : ∀ c ∈ cs, p c = true) :
    (cs ++ rest).takeWhile p = cs ∧ (cs ++ rest).dropWhile p = rest := by
  rw [List.takeWhile_append_of_pos hcs, List.dropWhile_append_of_pos hcs]
  cases rest with
  | nil => simp
  | cons c rest =>
    obtain ⟨hdigit, hletter⟩ := h c rfl
    simp [hp c hdigit hletter]

theorem endsWord_cons {c : Char} (h : Decimal.isDigit c = false ∧ Token.isLetter c = false)
    (rest : List Char) : EndsWord (c :: rest) := by
  rintro d hd
  cases hd
  exact h

namespace Token

theorem isSeparator_kinds {c : Char} (h : isSeparator c = true) :
    symbol? c = none ∧ Decimal.isDigit c = false ∧ isLetter c = false := by
  simp only [isSeparator, Bool.or_eq_true, beq_iff_eq] at h
  rcases h with ((rfl | rfl) | rfl) | rfl <;> decide

/-- A digit is neither a blank nor a symbol. -/
theorem kinds_of_isDigit {c : Char} (h : Decimal.isDigit c = true) :
    isSeparator c = false ∧ symbol? c = none := by
  constructor
  · by_contra hne
    simp [(isSeparator_kinds (by simpa using hne)).2.1] at h
  · cases hs : symbol? c with
    | none => rfl
    | some l => simp [(symbol?_kinds hs).1] at h

/-- A letter is neither a blank nor a symbol. -/
theorem kinds_of_isLetter {c : Char} (h : isLetter c = true) :
    isSeparator c = false ∧ symbol? c = none := by
  constructor
  · by_contra hne
    simp [(isSeparator_kinds (by simpa using hne)).2.2] at h
  · cases hs : symbol? c with
    | none => rfl
    | some l => simp [(symbol?_kinds hs).2] at h

section

variable {c : Char} {rest : List Char}

/-- At the front of digits that end there stands their number. -/
theorem front_digits {ds : List Char} (h : IsDigits (c :: ds))
    (hle : (c :: ds).length ≤ Decimal.digitLimit) (hrest : EndsWord rest) :
    front c (ds ++ rest) = (.lexeme (.integer (Decimal.ofDigits (c :: ds))), (c :: ds).length) := by
  have hc := h.2 c List.mem_cons_self
  obtain ⟨hseparator, hsymbol⟩ := kinds_of_isDigit hc
  obtain ⟨htake, hdrop⟩ := hrest.takeWhile (fun _ hd _ => hd) h.2
  have hnone : sides? rest = none := by
    cases hs : sides? rest with
    | none => rfl
    | some es =>
      obtain ⟨d, more, rfl, hd, -⟩ := sides?_eq_some_iff.mp hs
      have hletter := (hrest d rfl).2
      rcases hd with rfl | rfl <;> cases hletter
  rw [List.cons_append] at htake hdrop
  simp only [front, hseparator, hsymbol, hc, number, digitRun, htake, hdrop, hnone, isReadable, hle,
    decide_true, if_true, Bool.false_eq_true, if_false]

/-- At the front of dice that end there stand their numbers. -/
theorem front_dice_of_endsWord {ds es : List Char} (hds : IsDigits (c :: ds)) (hes : IsDigits es)
    (hdle : (c :: ds).length ≤ Decimal.digitLimit) (hele : es.length ≤ Decimal.digitLimit)
    (hrest : EndsWord rest) :
    front c (ds ++ 'd' :: es ++ rest) =
      (.lexeme (.dice (Decimal.ofDigits (c :: ds)) (Decimal.ofDigits es)),
        (c :: ds ++ 'd' :: es).length) := by
  have hc := hds.2 c List.mem_cons_self
  obtain ⟨hseparator, hsymbol⟩ := kinds_of_isDigit hc
  obtain ⟨htake, hdrop⟩ := takeWhile_of_isDigits hds (show Decimal.isDigit 'd' = false by decide)
    (es ++ rest)
  obtain ⟨hsides, -⟩ := hrest.takeWhile (fun _ hd _ => hd) hes.2
  have hsome : sides? ('d' :: (es ++ rest)) = some es :=
    sides?_eq_some_iff.mpr ⟨'d', es ++ rest, rfl, .inl rfl, hsides.symm, hes.1⟩
  have hlength : (c :: ds).length + 1 + es.length = (c :: ds ++ 'd' :: es).length := by
    simp only [List.length_append, List.length_cons]
    omega
  rw [List.cons_append] at htake hdrop
  simp only [List.append_assoc, List.cons_append, front, hseparator, hsymbol, hc, number, digitRun,
    htake, hdrop, hsome, isReadable, hdle, hele, decide_true, Bool.and_self, if_true,
    Bool.false_eq_true, if_false, hlength]

/-- At the front of letters that end there stands their name. -/
theorem front_letters {cs : List Char} (h : ∀ d ∈ c :: cs, isLetter d = true)
    (hrest : EndsWord rest) :
    front c (cs ++ rest) = (.lexeme (.name (String.ofList (c :: cs))), (c :: cs).length) := by
  have hc := h c List.mem_cons_self
  obtain ⟨hseparator, hsymbol⟩ := kinds_of_isLetter hc
  obtain ⟨htake, -⟩ := hrest.takeWhile (fun _ _ hl => hl) fun d hd => h d (List.mem_cons_of_mem c hd)
  simp only [front, hseparator, hsymbol, isDigit_of_isLetter hc, hc, htake, if_true,
    Bool.false_eq_true, if_false]

theorem front_symbol {l : Lexeme} (h : symbol? c = some l) : front c rest = (.lexeme l, 1) := by
  have hseparator : isSeparator c = false := by
    by_contra hne
    simp [(isSeparator_kinds (by simpa using hne)).1] at h
  simp only [front, hseparator, h, Bool.false_eq_true, if_false]

end

end Token

namespace Scanned

variable {cs ds rest : List Char} {ls ms : List Lexeme}

/-- In front of the rest the characters are cut into tokens of the lexemes, and nothing is left
out. -/
def Yields (cs rest : List Char) (ls : List Lexeme) : Prop :=
  ∀ start, ∃ ts : List Token, ts.map Token.lexeme = ls ∧
    scanFrom start 0 (cs ++ rest) = ts.map token ++ scanFrom (start + cs.length) 0 rest

theorem Yields.append (h : Yields cs (ds ++ rest) ls) (k : Yields ds rest ms) :
    Yields (cs ++ ds) rest (ls ++ ms) := by
  intro start
  obtain ⟨ts, hts, hscan⟩ := h start
  obtain ⟨us, hus, hscan'⟩ := k (start + cs.length)
  refine ⟨ts ++ us, by rw [List.map_append, hts, hus], ?_⟩
  rw [List.append_assoc, hscan, hscan', List.map_append, List.append_assoc, List.length_append,
    Nat.add_assoc]

theorem yields_blank (rest : List Char) : Yields [' '] rest [] := fun _ => ⟨[], rfl, rfl⟩

/-- Characters that are the piece at the front are one token. -/
theorem yields_of_front {c : Char} {l : Lexeme}
    (h : Token.front c (cs ++ rest) = (.lexeme l, (c :: cs).length)) :
    Yields (c :: cs) rest [l] := by
  intro start
  refine ⟨[⟨l, ⟨start, (c :: cs).length⟩, String.ofList (c :: cs)⟩], rfl, ?_⟩
  rw [List.cons_append, scanFrom_cons, h]
  dsimp only
  rw [← List.cons_append, List.take_left, List.drop_left]
  rfl

theorem yields_symbol {c : Char} {l : Lexeme} (h : Token.symbol? c = some l) (rest : List Char) :
    Yields [c] rest [l] := yields_of_front (Token.front_symbol h)

theorem isDigits_digits (n : Nat) : Token.IsDigits (Decimal.digits n) :=
  ⟨Decimal.digits_ne_nil n, fun _ hc => Decimal.isDigit_of_mem_digits hc⟩

theorem length_digits_natCast_le {n : Nat} (h : Decimal.fits n) :
    (Decimal.digits n).length ≤ Decimal.digitLimit := by
  have hle := Decimal.length_digits_le h
  rwa [Int.natAbs_natCast] at hle

theorem yields_integer {n : Nat} (hfits : Decimal.fits n) (hrest : EndsWord rest) :
    Yields (Decimal.text n).toList rest [.integer n] := by
  have htext : (Decimal.text n).toList = Decimal.digits n := rfl
  have hds := isDigits_digits n
  have hle := length_digits_natCast_le hfits
  have hvalue := Decimal.ofDigits_digits n
  rw [htext]
  obtain ⟨c, cs, hdigits⟩ := List.exists_cons_of_ne_nil hds.1
  rw [hdigits] at hds hle hvalue ⊢
  exact hvalue ▸ yields_of_front (Token.front_digits hds hle hrest)

theorem yields_dice {d : Dice} (hcount : Decimal.fits d.count) (hsides : Decimal.fits d.sides)
    (hrest : EndsWord rest) : Yields d.text.toList rest [.dice d.count d.sides] := by
  have htext : d.text.toList = Decimal.digits d.count ++ 'd' :: Decimal.digits d.sides := by
    simp [Dice.text, Decimal.text, Decimal.digits]
  have hds := isDigits_digits d.count
  have hdle := length_digits_natCast_le hcount
  have hele := length_digits_natCast_le hsides
  have hvalue := Decimal.ofDigits_digits d.count
  rw [htext]
  obtain ⟨c, cs, hdigits⟩ := List.exists_cons_of_ne_nil hds.1
  rw [hdigits] at hds hdle hvalue ⊢
  have hfront := Token.front_dice_of_endsWord hds (isDigits_digits d.sides) hdle hele hrest
  rw [hvalue, Decimal.ofDigits_digits] at hfront
  exact yields_of_front hfront

theorem yields_name {name : String} (hne : name.toList ≠ [])
    (hall : ∀ c ∈ name.toList, Token.isLetter c = true) (hrest : EndsWord rest) :
    Yields name.toList rest [.name name] := by
  obtain ⟨c, cs, hname⟩ := List.exists_cons_of_ne_nil hne
  have hself : String.ofList (c :: cs) = name := by rw [← hname, String.ofList_toList]
  rw [hname] at hall ⊢
  exact hself ▸ yields_of_front (Token.front_letters hall hrest)

end Scanned

end Tabletop
