import Tabletop.Number.Decimal
import Tabletop.Text.CharacterName
import Tabletop.Text.Digit

/-!
# Lexemes of parameters

The parameters of an action are cut into numbers, texts, names and marks. Blanks separate them and
comments go up to the end of their line. Between brackets a line may end anywhere; outside, all
lexemes stand on one line, without blanks in front, and only blank lines and comments may come
before and after it.
-/
namespace Tabletop.Action

/-- The smallest parts of parameters. -/
inductive Lexeme where
  /-- A number without a fraction. -/
  | whole (n : Nat)
  /-- A number with a fraction or an exponent. -/
  | fraction
  | imaginary
  | text
  | bytes
  /-- A truth value, the value of nothing, or three dots. -/
  | constant
  /-- The name of the function that makes sets. -/
  | maker
  /-- A sign, a comma, a colon or a bracket. -/
  | mark (c : Char)
  deriving DecidableEq, Repr

namespace Lexeme

/-- The characters of names, and of what may not follow directly on a number. -/
def isNameChar (c : Char) : Bool := c.isAlphanum || c == '_' || 128 ≤ c.toNat

/-! ### Numbers -/

/-- Digits with single underscores between them; the underscores are left out. -/
def digits? (isDigit : Char → Bool) : List Char → Option (List Char × List Char)
  | [] => none
  | c :: '_' :: rest =>
      if isDigit c then (digits? isDigit rest).map fun (ds, rest) => (c :: ds, rest) else none
  | c :: rest =>
      if !isDigit c then none
      else if rest.head?.any isDigit then
        (digits? isDigit rest).map fun (ds, rest) => (c :: ds, rest)
      else some ([c], rest)

/-- Only digits are left of what was read. -/
theorem isDigit_of_digits? {isDigit : Char → Bool} {cs ds rest : List Char}
    (h : digits? isDigit cs = some (ds, rest)) : ∀ c ∈ ds, isDigit c := by
  fun_induction digits? isDigit cs generalizing ds rest with
  | case1 => simp at h
  | case2 c more hc ih =>
      obtain ⟨⟨found, left⟩, hf, he⟩ := Option.map_eq_some_iff.1 h
      simp only [Prod.mk.injEq] at he
      simpa [← he.1, hc] using ih hf
  | case3 => simp at h
  | case4 => simp at h
  | case5 c more _ hc _ ih =>
      obtain ⟨⟨found, left⟩, hf, he⟩ := Option.map_eq_some_iff.1 h
      simp only [Prod.mk.injEq] at he
      simp only [Bool.not_eq_true, Bool.not_eq_false'] at hc
      simpa [← he.1, hc] using ih hf
  | case6 c more _ hc _ =>
      simp only [Option.some.injEq, Prod.mk.injEq] at h
      simp only [Bool.not_eq_true, Bool.not_eq_false'] at hc
      simp [← h.1, hc]

/-- The base that a letter behind a zero stands for. -/
def base? (letter : Char) : Option Nat :=
  match letter.toLower with
  | 'x' => some 16
  | 'o' => some 8
  | 'b' => some 2
  | _ => none

/-- A number without a fraction in a base, perhaps with an underscore in front of its digits. -/
def based? (base : Nat) (cs : List Char) : Option (Lexeme × List Char) := do
  let isDigit (c : Char) := (Text.hexValue? c).any (· < base)
  let (ds, rest) ← digits? isDigit (if cs.head? == some '_' then cs.drop 1 else cs)
  some (.whole (ds.foldl (fun n c => n * base + (Text.hexValue? c).getD 0) 0), rest)

/-- The rest behind a point and the places after it, which there need not be. -/
def afterPlaces? (cs : List Char) : Option (List Char) :=
  match cs with
  | c :: _ => if Decimal.isDigit c then (digits? Decimal.isDigit cs).map Prod.snd else some cs
  | [] => some []

/-- The rest behind the letter of an exponent, its sign and its digits. -/
def afterExponent? (cs : List Char) : Option (List Char) :=
  let cs := if cs.head? == some '+' || cs.head? == some '-' then cs.drop 1 else cs
  (digits? Decimal.isDigit cs).map Prod.snd

/-- A number without a fraction. It has no zeros in front, unless it is all zeros, and not too many
digits. -/
def whole? (ds : List Char) : Option Lexeme :=
  if ds.all (· == '0') then some (.whole 0)
  else if ds.head? == some '0' || Decimal.digitLimit < ds.length then none
  else some (.whole (Decimal.ofDigits ds))

/-- A decimal number. -/
def decimal? (cs : List Char) : Option (Lexeme × List Char) := do
  let (ds, rest) ← if cs.head? == some '.' then some ([], cs) else digits? Decimal.isDigit cs
  let (isWhole, rest) ←
    match rest with
    | '.' :: rest => (afterPlaces? rest).map fun rest => (false, rest)
    | rest => some (true, rest)
  let (isWhole, rest) ←
    match rest with
    | 'e' :: rest | 'E' :: rest => (afterExponent? rest).map fun rest => (false, rest)
    | rest => some (isWhole, rest)
  match rest with
  | 'j' :: rest | 'J' :: rest => some (.imaginary, rest)
  | rest => if isWhole then (whole? ds).map fun lexeme => (lexeme, rest) else some (.fraction, rest)

/-- A number, which no letter follows. -/
def number? (cs : List Char) : Option (Lexeme × List Char) := do
  let (lexeme, rest) ←
    match cs with
    | '0' :: c :: rest =>
        match base? c with
        | some base => based? base rest
        | none => decimal? cs
    | cs => decimal? cs
  if rest.head?.any isNameChar then none else some (lexeme, rest)

/-! ### Texts -/

/-- What stands between quotes, of which the first have been read. Three quotes go over many lines;
a backslash takes the next character with it. -/
def body? (quote : Char) (long : Bool) : List Char → Option (List Char × List Char)
  | [] => none
  | '\\' :: c :: rest => (body? quote long rest).map fun (cs, rest) => ('\\' :: c :: cs, rest)
  | c :: rest =>
      if c == quote && !long then some ([], rest)
      else if c == quote && rest.take 2 == [quote, quote] then some ([], rest.drop 2)
      else if c == '\n' && !long then none
      else (body? quote long rest).map fun (cs, rest) => (c :: cs, rest)

/-- What stands between quotes. -/
def quoted? : List Char → Option (List Char × List Char)
  | a :: b :: c :: rest =>
      if a == b && b == c then body? a true rest else body? a false (b :: c :: rest)
  | a :: rest => body? a false rest
  | [] => none

/-- The value of the hexadecimal digits in front, if there are as many as wanted. -/
def code? (width : Nat) (cs : List Char) : Option Nat :=
  let ds := cs.take width
  if ds.length < width then none
  else ds.foldl (fun n c => do some ((← n) * 16 + (← Text.hexValue? c))) (some 0)

/-- A backslash and a character, with what follows, can be read in a text: a character by its number
or by its name. Behind other letters nothing can be wrong. -/
def isTextEscape (letter : Char) (rest : List Char) : Bool :=
  match letter with
  | 'x' => (code? 2 rest).isSome
  | 'u' => (code? 4 rest).isSome
  | 'U' => (code? 8 rest).any (· ≤ 0x10FFFF)
  | 'N' =>
      match rest with
      | '{' :: rest =>
          rest.contains '}' && Text.isCharacterName (String.ofList (rest.takeWhile (· != '}')))
      | _ => false
  | _ => true

/-- A backslash and a character, with what follows, can be read in bytes. -/
def isBytesEscape (letter : Char) (rest : List Char) : Bool :=
  letter != 'x' || (code? 2 rest).isSome

/-- Every backslash in the characters can be read. -/
def escapesFit (isEscape : Char → List Char → Bool) : List Char → Bool
  | [] => true
  | '\\' :: c :: rest => isEscape c rest && escapesFit isEscape rest
  | _ :: rest => escapesFit isEscape rest

/-- A text or bytes with letters in front of the quotes: `b` is for bytes and `r` leaves backslashes
as they are. -/
def text? (letters : String) (cs : List Char) : Option (Lexeme × List Char) := do
  let (body, rest) ← quoted? cs
  match letters with
  | "" | "u" => if escapesFit isTextEscape body then some (.text, rest) else none
  | "r" => some (.text, rest)
  | "b" =>
      if body.all (·.toNat < 128) && escapesFit isBytesEscape body then some (.bytes, rest)
      else none
  | "br" | "rb" => if body.all (·.toNat < 128) then some (.bytes, rest) else none
  | _ => none

/-! ### Lexemes -/

/-- A name, or the letters in front of a text with that text. -/
def word? (cs : List Char) : Option (Lexeme × List Char) :=
  let name := String.ofList (cs.takeWhile isNameChar)
  let rest := cs.dropWhile isNameChar
  if rest.head? == some '"' || rest.head? == some '\'' then text? name.toLower rest
  else
    match name with
    | "True" | "False" | "None" => some (.constant, rest)
    | "set" => some (.maker, rest)
    | _ => none

/-- The characters that are lexemes by themselves. -/
def marks : List Char := ['+', '-', ',', ':', '(', ')', '{', '}']

/-- The lexeme in front. -/
def front? : List Char → Option (Lexeme × List Char)
  | [] => none
  | '.' :: '.' :: '.' :: rest => some (.constant, rest)
  | c :: rest =>
      if Decimal.isDigit c || (c == '.' && rest.head?.any Decimal.isDigit) then number? (c :: rest)
      else if isNameChar c || c == '"' || c == '\'' then word? (c :: rest)
      else if marks.contains c then some (.mark c, rest)
      else none

/-! ### Lines -/

/-- The most brackets that may be open at once. -/
def depthLimit : Nat := 200

/-- Where the next lexeme stands. -/
inductive Place where
  /-- In front of all lexemes, on a line that begins with blanks or not. -/
  | before (indented : Bool)
  /-- Behind a lexeme, with so many brackets open. -/
  | within (depth : Nat)
  /-- Behind the line of all lexemes. -/
  | after
  deriving DecidableEq, Repr

namespace Place

/-- The place behind a blank; a form feed starts the line anew. -/
def pass (blank : Char) : Place → Place
  | before _ => before (blank != '\x0c')
  | place => place

/-- The place behind the end of a line. -/
def next : Place → Place
  | before _ => before false
  | within 0 => after
  | place => place

/-- The number of open brackets behind a lexeme. -/
def depth? (lexeme : Lexeme) (depth : Nat) : Option Nat :=
  match lexeme with
  | mark c =>
      if c == '(' || c == '{' then if depth < depthLimit then some (depth + 1) else none
      else if c == ')' || c == '}' then some (depth - 1)
      else some depth
  | _ => some depth

/-- The place behind a lexeme, if it may stand here. -/
def behind? (lexeme : Lexeme) : Place → Option Place
  | before false => (depth? lexeme 0).map within
  | within depth => (depth? lexeme depth).map within
  | before true | after => none

end Place

/-- The characters that separate lexemes on a line. -/
def isBlank (c : Char) : Bool := c == ' ' || c == '\t' || c == '\x0c'

/-- The lexemes from a place on. A backslash in front of a line end takes it away. -/
def scanFrom (place : Place) (cs : List Char) : Option (List Lexeme) :=
  match cs with
  | [] => some []
  | '\\' :: '\n' :: rest => if rest.isEmpty then none else scanFrom place rest
  | c :: rest =>
      if c == '\n' then scanFrom place.next rest
      else if isBlank c then scanFrom (place.pass c) rest
      else if c == '#' then
        have := (List.dropWhile_sublist (p := (· != '\n')) (l := rest)).length_le
        scanFrom place (rest.dropWhile (· != '\n'))
      else
        match front? (c :: rest) with
        | none => none
        | some (lexeme, more) =>
            if _h : more.length ≤ rest.length then
              match place.behind? lexeme with
              | none => none
              | some place => (scanFrom place more).map (lexeme :: ·)
            else none
termination_by cs.length

/-- The lexemes of parameters. -/
def scan? (cs : List Char) : Option (List Lexeme) := scanFrom (.before false) cs

end Lexeme

end Tabletop.Action
