import Mathlib.Data.List.TakeDrop
import Tabletop.Document.Json.Reader
import Tabletop.Document.Json.Writer
import Tabletop.Proofs.Number.Digits

/-!
# Reading integers and texts that were written

An integer is written in digits, and a reader takes all of them if nothing follows that could go on
with a number. A text is written character by character, and a reader takes each of them back, as
long as none is a half.
-/
namespace Tabletop.Json

/-! ### Numbers -/

/-- What may follow a number: nothing that could go on with it. -/
def EndsNumber (rest : List Char) : Prop :=
  ∀ c ∈ rest.head?, ¬ Decimal.isDigit c ∧ c ≠ '.' ∧ c ≠ 'e' ∧ c ≠ 'E'

theorem EndsNumber.fraction? {rest : List Char} (h : EndsNumber rest) : fraction? rest = none := by
  cases rest with
  | nil => rfl
  | cons c rest =>
    have hdot := (h c rfl).2.1
    unfold Json.fraction?
    split
    · rename_i heq
      cases heq
      exact absurd rfl hdot
    · rfl

theorem EndsNumber.exponent? {rest : List Char} (h : EndsNumber rest) : exponent? rest = none := by
  cases rest with
  | nil => rfl
  | cons c rest =>
    obtain ⟨-, -, hsmall, hcapital⟩ := h c rfl
    simp [Json.exponent?, hsmall, hcapital]

theorem EndsNumber.span {ds rest : List Char} (hds : ∀ c ∈ ds, Decimal.isDigit c)
    (h : EndsNumber rest) : (ds ++ rest).span Decimal.isDigit = (ds, rest) := by
  have hrest : rest.takeWhile Decimal.isDigit = [] ∧ rest.dropWhile Decimal.isDigit = rest := by
    cases rest with
    | nil => simp
    | cons c rest =>
      have := (h c rfl).1
      simp [this]
  rw [List.span_eq_takeWhile_dropWhile, List.takeWhile_append_of_pos hds,
    List.dropWhile_append_of_pos hds, hrest.1, hrest.2, List.append_nil]

/-- The digits of a number are read as that number. -/
theorem unsigned_digits (negative : Bool) (start : List Char) {n : Nat} {rest : List Char}
    (hfits : (Decimal.digits n).length ≤ Decimal.digitLimit) (hrest : EndsNumber rest) :
    unsigned negative start (Decimal.digits n ++ rest) =
      .ok (.int ((if negative then -1 else 1) * n), rest) := by
  have hspan := hrest.span fun c hc => Decimal.isDigit_of_mem_digits (n := n) hc
  have hvalue := Decimal.ofDigits_digits n
  cases hdigits : Decimal.digits n with
  | nil => exact absurd hdigits (Decimal.digits_ne_nil n)
  | cons c cs =>
    rw [hdigits] at hfits hspan hvalue
    rw [List.cons_append] at hspan ⊢
    by_cases hzero : c = '0'
    · obtain ⟨rfl, rfl⟩ := Decimal.digits_eq_cons_zero (hzero ▸ hdigits)
      have hlimit : Decimal.digitLimit ≠ 0 := by decide
      have hvalue : Decimal.ofDigits ['0'] = 0 := by decide
      simp [unsigned, hzero, hrest.fraction?, hrest.exponent?, hlimit, hvalue]
    · simp [-List.span_eq_takeWhile_dropWhile, -List.length_cons, unsigned, hzero, hspan,
        hrest.fraction?, hrest.exponent?, hfits, hvalue]

theorem ne_of_isDigit {c d : Char} (hc : Decimal.isDigit c) (hd : Decimal.isDigit d = false) :
    c ≠ d := by
  intro heq
  rw [← heq, hc] at hd
  cases hd

/-- A value that begins with neither a quote nor a bracket. -/
theorem value_eq_plainValue (fuel : Nat) {c : Char} {cs : List Char} (hquote : c ≠ '"')
    (hbracket : c ≠ '[') (hbrace : c ≠ '{') :
    value (fuel + 1) (c :: cs) = plainValue (c :: cs) := by
  rw [value]
  · rintro cs' ⟨⟩
    exact hquote rfl
  · rintro cs' ⟨⟩
    exact hbracket rfl
  · rintro cs' ⟨⟩
    exact hbrace rfl

theorem plainValue_digit {c : Char} {cs : List Char} (hc : Decimal.isDigit c) :
    plainValue (c :: cs) = unsigned false (c :: cs) (c :: cs) := by
  have hn := ne_of_isDigit hc (show Decimal.isDigit 'n' = false by decide)
  have ht := ne_of_isDigit hc (show Decimal.isDigit 't' = false by decide)
  have hf := ne_of_isDigit hc (show Decimal.isDigit 'f' = false by decide)
  have hN := ne_of_isDigit hc (show Decimal.isDigit 'N' = false by decide)
  have hI := ne_of_isDigit hc (show Decimal.isDigit 'I' = false by decide)
  have hminus := ne_of_isDigit hc (show Decimal.isDigit '-' = false by decide)
  have hwords : word? "null" (c :: cs) = none ∧ word? "true" (c :: cs) = none ∧
      word? "false" (c :: cs) = none ∧ word? "NaN" (c :: cs) = none ∧
      word? "Infinity" (c :: cs) = none ∧ word? "-Infinity" (c :: cs) = none := by
    simp [word?, hn.symm, ht.symm, hf.symm, hN.symm, hI.symm, hminus.symm]
  obtain ⟨h₁, h₂, h₃, h₄, h₅, h₆⟩ := hwords
  unfold plainValue
  rw [h₁, h₂, h₃, h₄, h₅, h₆]
  dsimp only
  split
  · rename_i heq
    cases heq
    exact absurd rfl hminus
  · rfl

theorem plainValue_minus {c : Char} {cs : List Char} (hc : Decimal.isDigit c) :
    plainValue ('-' :: c :: cs) = unsigned true ('-' :: c :: cs) (c :: cs) := by
  have hI := ne_of_isDigit hc (show Decimal.isDigit 'I' = false by decide)
  have hwords : word? "null" ('-' :: c :: cs) = none ∧ word? "true" ('-' :: c :: cs) = none ∧
      word? "false" ('-' :: c :: cs) = none ∧ word? "NaN" ('-' :: c :: cs) = none ∧
      word? "Infinity" ('-' :: c :: cs) = none ∧ word? "-Infinity" ('-' :: c :: cs) = none := by
    simp [word?, hI.symm]
  obtain ⟨h₁, h₂, h₃, h₄, h₅, h₆⟩ := hwords
  unfold plainValue
  rw [h₁, h₂, h₃, h₄, h₅, h₆]
  rfl

/-- The text of an integer is read as that integer. -/
theorem value_text (fuel : Nat) {n : Int} {rest : List Char} (hfits : Decimal.fits n)
    (hrest : EndsNumber rest) :
    value (fuel + 1) ((Decimal.text n).toList ++ rest) = .ok (.int n, rest) := by
  have hdigit : ∀ c cs, Decimal.digits n.natAbs = c :: cs → Decimal.isDigit c := by
    intro c cs hcs
    exact Decimal.isDigit_of_mem_digits (n := n.natAbs) (by simp [hcs])
  have hread (negative : Bool) (start : List Char) :=
    unsigned_digits negative start (Decimal.length_digits_le hfits) hrest
  rw [Decimal.toList_text]
  cases hdigits : Decimal.digits n.natAbs with
  | nil => exact absurd hdigits (Decimal.digits_ne_nil _)
  | cons c cs =>
    have hc := hdigit c cs hdigits
    rw [hdigits, List.cons_append] at hread
    split
    · rw [List.cons_append, List.cons_append,
        value_eq_plainValue _ (by decide) (by decide) (by decide), plainValue_minus hc, hread]
      simp only [if_true]
      rw [show (-1 : Int) * n.natAbs = n by omega]
    · rw [List.cons_append, value_eq_plainValue _ (ne_of_isDigit hc (by decide))
        (ne_of_isDigit hc (by decide)) (ne_of_isDigit hc (by decide)), plainValue_digit hc, hread]
      simp only [Bool.false_eq_true, if_false]
      rw [show (1 : Int) * n.natAbs = n by omega]

/-! ### Texts -/

/-- A character is written as a short escape, by its code if it is another control character, or
as it stands. -/
theorem escapeChar_cases {c : Char} (hc : Text.half? c = none) :
    (∃ e, escapeChar c = ['\\', e] ∧ shortEscape? e = some c ∧ e ≠ 'u') ∨
      (escapeChar c = '\\' :: 'u' :: Text.hex 4 c.toNat ∧ c.toNat < 0x20) ∨
      (escapeChar c = [c] ∧ c ≠ '"' ∧ c ≠ '\\' ∧ ¬ c.toNat < 0x20) := by
  have hnat (n : Nat) (hn : c.toNat = n) : c = Char.ofNat n := by rw [← hn, Char.ofNat_toNat]
  unfold escapeChar
  rw [hc]
  simp only [beq_iff_eq]
  split_ifs with hquote hslash hfeed hreturn htab hform hback hcontrol
  · exact .inl ⟨'"', rfl, by rw [hquote]; rfl, by decide⟩
  · exact .inl ⟨'\\', rfl, by rw [hslash]; rfl, by decide⟩
  · exact .inl ⟨'n', rfl, by rw [hfeed]; rfl, by decide⟩
  · exact .inl ⟨'r', rfl, by rw [hreturn]; rfl, by decide⟩
  · exact .inl ⟨'t', rfl, by rw [htab]; rfl, by decide⟩
  · exact .inl ⟨'f', rfl, by rw [hnat _ hform]; rfl, by decide⟩
  · exact .inl ⟨'b', rfl, by rw [hnat _ hback]; rfl, by decide⟩
  · exact .inr (.inl ⟨rfl, hcontrol⟩)
  · exact .inr (.inr ⟨rfl, hquote, hslash, hcontrol⟩)

/-- The code of a control character is read from its hexadecimal digits. -/
theorem codeEscape_hex {code : Nat} (hcode : code < 0x20) {d : Char} {rest : List Char} :
    codeEscape (Text.hex 4 code ++ d :: rest) = .ok (code, d :: rest) := by
  have hdigits (m : Nat) : Text.hex 4 m = [Text.hexDigit (m / 16 / 16 / 16 % 16),
      Text.hexDigit (m / 16 / 16 % 16), Text.hexDigit (m / 16 % 16), Text.hexDigit (m % 16)] := rfl
  have hunit : ∀ m < 0x20, codeUnit? (Text.hexDigit (m / 16 / 16 / 16 % 16))
      (Text.hexDigit (m / 16 / 16 % 16)) (Text.hexDigit (m / 16 % 16)) (Text.hexDigit (m % 16)) =
        some m := by
    decide
  rw [hdigits]
  simp [codeEscape, hunit code hcode]

theorem escape_hex {c d : Char} {rest : List Char} (hc : c.toNat < 0x20) :
    escape ('u' :: (Text.hex 4 c.toNat ++ d :: rest)) = .ok (c, d :: rest) := by
  have hhigh : Text.isHighHalf c.toNat = false := by
    simp [Text.isHighHalf]
    omega
  have hlow : Text.isLowHalf c.toNat = false := by
    simp [Text.isLowHalf]
    omega
  have hcode : Text.ofCode c.toNat = c := by simp [Text.ofCode, hhigh, hlow]
  rw [escape, codeEscape_hex hc]
  change joined c.toNat (d :: rest) = _
  unfold joined
  rw [hhigh, hcode]

theorem textFrom_escape (start : List Char) {fuel : Nat} {read cs rest : List Char} {c d : Char}
    (h : escape (d :: cs) = .ok (c, rest)) :
    textFrom start (fuel + 1) read ('\\' :: d :: cs) = textFrom start fuel (c :: read) rest := by
  rw [textFrom]
  · rw [h]
    rfl
  · rintro ⟨⟩

/-- What is written for a character is read as that character. -/
theorem textFrom_escapeChar (start : List Char) {fuel : Nat} {read : List Char} {c d : Char}
    {rest : List Char} (hc : Text.half? c = none) :
    textFrom start (fuel + 1) read (escapeChar c ++ d :: rest) =
      textFrom start fuel (c :: read) (d :: rest) := by
  rcases escapeChar_cases hc with
    ⟨e, heq, he, hu⟩ | ⟨heq, hcontrol⟩ | ⟨heq, hquote, hslash, hcontrol⟩
  · rw [heq]
    refine textFrom_escape start ?_
    change escape (e :: d :: rest) = _
    rw [escape, he]
    rintro ⟨⟩
    exact hu rfl
  · rw [heq]
    exact textFrom_escape start (escape_hex hcontrol)
  · rw [heq, List.singleton_append, textFrom, if_neg hcontrol]
    · exact hquote
    · rintro rfl
      exact absurd rfl hslash
    · exact hslash

/-- What is written for characters is read as these characters, up to the closing quote. -/
theorem textFrom_flatMap (start : List Char) (fuel : Nat) (read rest : List Char) {cs : List Char}
    (hcs : ∀ c ∈ cs, Text.half? c = none) (hfuel : cs.length < fuel) :
    textFrom start fuel read (cs.flatMap escapeChar ++ '"' :: rest) =
      .ok (read.reverse ++ cs, rest) := by
  induction cs generalizing fuel read with
  | nil =>
    obtain ⟨fuel, rfl⟩ : ∃ n, fuel = n + 1 := ⟨fuel - 1, by omega⟩
    simp [textFrom]
  | cons c cs ih =>
    obtain ⟨fuel, rfl⟩ : ∃ n, fuel = n + 1 := ⟨fuel - 1, by omega⟩
    rw [List.length_cons] at hfuel
    have hc := hcs c List.mem_cons_self
    have hrest := ih fuel (c :: read) (fun d hd => hcs d (List.mem_cons_of_mem c hd)) (by omega)
    rw [List.flatMap_cons, List.append_assoc]
    obtain ⟨d, tail, htail⟩ : ∃ d tail, cs.flatMap escapeChar ++ '"' :: rest = d :: tail :=
      List.exists_cons_of_ne_nil (by simp)
    rw [htail] at hrest ⊢
    rw [textFrom_escapeChar start hc, hrest]
    simp

theorem length_le_length_flatMap {cs : List Char} (hcs : ∀ c ∈ cs, Text.half? c = none) :
    cs.length ≤ (cs.flatMap escapeChar).length := by
  induction cs with
  | nil => simp
  | cons c cs ih =>
    have hrest := ih fun d hd => hcs d (List.mem_cons_of_mem c hd)
    have hc : 1 ≤ (escapeChar c).length := by
      rcases escapeChar_cases (hcs c List.mem_cons_self) with ⟨e, heq, -⟩ | ⟨heq, -⟩ | ⟨heq, -⟩ <;>
        simp [heq]
    rw [List.flatMap_cons, List.length_append, List.length_cons]
    omega

/-- No half of a character is in a text. -/
def IsWhole (s : String) : Prop := ∀ c ∈ s.toList, Text.half? c = none

theorem writeText_eq {s : String} (hs : IsWhole s) :
    writeText s = '"' :: (s.toList.flatMap escapeChar ++ ['"']) := by
  rw [writeText, Text.joinHalves_of_all hs]
  rfl

/-- A text that is written is read back, after its opening quote. -/
theorem text_writeText {s : String} (hs : IsWhole s) (fuel : Nat) (rest : List Char)
    (hfuel : (writeText s).length ≤ fuel + 1) :
    ∃ cs, writeText s = '"' :: cs ∧ text fuel (cs ++ rest) = .ok (s, rest) := by
  refine ⟨_, writeText_eq hs, ?_⟩
  have hlength := length_le_length_flatMap hs
  rw [writeText_eq hs] at hfuel
  simp only [List.length_cons, List.length_append, List.length_nil] at hfuel
  rw [List.append_assoc, List.singleton_append, text, textFrom_flatMap _ _ _ _ hs (by omega)]
  simp [bind, Except.bind, pure, Except.pure]

end Tabletop.Json
