import Tabletop.Document
import Tabletop.Number.Decimal
import Tabletop.Text.Digit
import Tabletop.Text.Half

/-!
# Reading JSON

A reader takes the front of a list of characters and hands back what is left. What is wrong with a
text is a `Fault`: its cause and the number of characters before it. A key that comes again replaces
the value of the earlier one.
-/
namespace Tabletop.Json

/-- What can be wrong with a text. -/
inductive Cause where
  | noValue
  | noKey
  | noColon
  | noComma
  | openText
  | controlCharacter
  | badEscape
  | badCodeEscape
  | moreData
  | byteOrderMark
  | tooManyDigits (count : Nat)
  deriving DecidableEq, Repr

/-- A cause, and how many characters of the text come before it. -/
structure Fault where
  cause : Cause
  offset : Nat
  deriving DecidableEq, Repr

/-- A cause, and how many characters are left at it. -/
abbrev Halt := Cause × Nat

/-- Reads something from the front of the characters. -/
abbrev Reader (α : Type) := List Char → Except Halt (α × List Char)

/-- Blanks between the parts of a text. -/
def isSpacing (c : Char) : Bool := c == ' ' || c == '\t' || c == '\n' || c == '\r'

/-- The characters without the blanks in front. -/
def skip (cs : List Char) : List Char := cs.dropWhile isSpacing

/-- The code unit of four hexadecimal digits. -/
def codeUnit? (a b c d : Char) : Option Nat := do
  let a ← Text.hexValue? a
  let b ← Text.hexValue? b
  let c ← Text.hexValue? c
  let d ← Text.hexValue? d
  some (((a * 16 + b) * 16 + c) * 16 + d)

/-- The character of a one-letter escape. -/
def shortEscape? (c : Char) : Option Char :=
  match c with
  | '"' => some '"'
  | '\\' => some '\\'
  | '/' => some '/'
  | 'b' => some (Char.ofNat 8)
  | 'f' => some (Char.ofNat 12)
  | 'n' => some '\n'
  | 'r' => some '\r'
  | 't' => some '\t'
  | _ => none

/-- The code unit of an escape after its letter, where more has to follow the four digits. -/
def codeEscape (cs : List Char) : Except Halt (Nat × List Char) :=
  match cs with
  | a :: b :: c :: d :: rest =>
      match codeUnit? a b c d, rest.isEmpty with
      | some unit, false => .ok (unit, rest)
      | _, _ => .error (.badCodeEscape, cs.length + 1)
  | _ => .error (.badCodeEscape, cs.length + 1)

/-- The character of a code unit with what follows it: two halves in a row make one character. -/
def joined (unit : Nat) (cs : List Char) : Except Halt (Char × List Char) :=
  match Text.isHighHalf unit, cs with
  | true, '\\' :: 'u' :: rest =>
      if rest.length < 5 then .ok (Text.ofCode unit, cs)
      else do
        let (low, rest) ← codeEscape rest
        pure (if Text.isLowHalf low then (Text.ofHalves unit low, rest) else (Text.ofCode unit, cs))
  | _, _ => .ok (Text.ofCode unit, cs)

/-- The character of an escape, its backslash already taken. -/
def escape : List Char → Except Halt (Char × List Char)
  | [] => .error (.badEscape, 1)
  | 'u' :: rest => do
      let (unit, rest) ← codeEscape rest
      joined unit rest
  | c :: rest =>
      match shortEscape? c with
      | some e => .ok (e, rest)
      | none => .error (.badEscape, rest.length + 2)

/-- The rest of a text that began with `start`, just after its opening quote; `read` holds the
characters so far, the last one first. Every character takes one unit of `fuel`. -/
def textFrom (start : List Char) : (fuel : Nat) → (read : List Char) → Reader (List Char)
  | _, _, [] => .error (.openText, start.length + 1)
  | 0, _, _ => .error (.openText, start.length + 1)
  | _ + 1, read, '"' :: rest => .ok (read.reverse, rest)
  | _ + 1, _, ['\\'] => .error (.openText, start.length + 1)
  | fuel + 1, read, '\\' :: rest => do
      let (c, rest) ← escape rest
      textFrom start fuel (c :: read) rest
  | fuel + 1, read, c :: rest =>
      if c.toNat < 0x20 then .error (.controlCharacter, rest.length + 1)
      else textFrom start fuel (c :: read) rest

/-- A text, its opening quote already taken. -/
def text (fuel : Nat) (cs : List Char) : Except Halt (String × List Char) := do
  let (read, rest) ← textFrom cs fuel [] cs
  pure (String.ofList read, rest)

/-- The digits of a fraction, if the characters go on with one. -/
def fraction? : List Char → Option (List Char × List Char)
  | '.' :: c :: rest =>
      if Decimal.isDigit c then some ((c :: rest).span Decimal.isDigit) else none
  | _ => none

/-- The exponent, if the characters go on with one. -/
def exponent? (cs : List Char) : Option (Int × List Char) :=
  match cs with
  | [] => none
  | e :: rest =>
      if e == 'e' || e == 'E' then
        let (negative, rest) :=
          match rest with
          | '+' :: rest => (false, rest)
          | '-' :: rest => (true, rest)
          | rest => (false, rest)
        let (digits, rest) := rest.span Decimal.isDigit
        if digits.isEmpty then none
        else
          let n : Int := Decimal.ofDigits digits
          some (if negative then -n else n, rest)
      else none

/-- A number that began with `start`, from its digits on. -/
def unsigned (negative : Bool) (start cs : List Char) :
    Except Halt (Document × List Char) :=
  let (whole, rest) :=
    match cs with
    | '0' :: rest => (['0'], rest)
    | cs => cs.span Decimal.isDigit
  if whole.isEmpty then .error (.noValue, start.length)
  else
    let sign : Int := if negative then -1 else 1
    match fraction? rest, exponent? rest with
    | some (places, rest), _ =>
        let (power, rest) := (exponent? rest).getD (0, rest)
        let d : Decimal.Scientific := ⟨Decimal.ofDigits (whole ++ places), power - places.length⟩
        .ok (.real (Decimal.toBinary64 negative d), rest)
    | none, some (power, rest) =>
        .ok (.real (Decimal.toBinary64 negative ⟨Decimal.ofDigits whole, power⟩), rest)
    | none, none =>
        if Decimal.digitLimit < whole.length then .error (.tooManyDigits whole.length, start.length)
        else .ok (.int (sign * Decimal.ofDigits whole), rest)

/-- What is left after a word at the front. -/
def word? (w : String) (cs : List Char) : Option (List Char) :=
  if w.toList.isPrefixOf cs then some (cs.drop w.length) else none

/-- A value that is neither a text, a list nor a table. -/
def plainValue (cs : List Char) : Except Halt (Document × List Char) :=
  match word? "null" cs, word? "true" cs, word? "false" cs, word? "NaN" cs, word? "Infinity" cs,
      word? "-Infinity" cs with
  | some rest, _, _, _, _, _ => .ok (.null, rest)
  | _, some rest, _, _, _, _ => .ok (.bool true, rest)
  | _, _, some rest, _, _, _ => .ok (.bool false, rest)
  | _, _, _, some rest, _, _ => .ok (.real .nan, rest)
  | _, _, _, _, some rest, _ => .ok (.real (.infinite false), rest)
  | _, _, _, _, _, some rest => .ok (.real (.infinite true), rest)
  | _, _, _, _, _, _ =>
      match cs with
      | '-' :: rest => unsigned true cs rest
      | cs => unsigned false cs cs

mutual

/-- A value; every step into a list or a table takes one unit of `fuel`. -/
def value : (fuel : Nat) → Reader Document
  | 0, cs => .error (.noValue, cs.length)
  | fuel + 1, '"' :: cs => do
      let (s, rest) ← text fuel cs
      pure (.text s, rest)
  | fuel + 1, '[' :: cs =>
      match skip cs with
      | ']' :: rest => .ok (.list [], rest)
      | cs => do
          let (read, rest) ← items fuel [] cs
          pure (.list read, rest)
  | fuel + 1, '{' :: cs =>
      match skip cs with
      | '}' :: rest => .ok (.table [], rest)
      | cs => do
          let (read, rest) ← entries fuel [] cs
          pure (.table (Entries.ofList read), rest)
  | _ + 1, cs => plainValue cs

/-- The items of a list up to its end, after those in `read`, the last one first. -/
def items : (fuel : Nat) → (read : List Document) → Reader (List Document)
  | 0, _, cs => .error (.noValue, cs.length)
  | fuel + 1, read, cs => do
      let (d, rest) ← value fuel cs
      match skip rest with
      | ']' :: rest => pure ((d :: read).reverse, rest)
      | ',' :: rest => items fuel (d :: read) (skip rest)
      | rest => .error (.noComma, rest.length)

/-- The entries of a table up to its end, after those in `read`, the last one first. -/
def entries : (fuel : Nat) → (read : List (String × Document)) → Reader (List (String × Document))
  | 0, _, cs => .error (.noValue, cs.length)
  | fuel + 1, read, '"' :: cs => do
      let (key, rest) ← text fuel cs
      match skip rest with
      | ':' :: rest =>
          let (d, rest) ← value fuel (skip rest)
          match skip rest with
          | '}' :: rest => pure (((key, d) :: read).reverse, rest)
          | ',' :: rest => entries fuel ((key, d) :: read) (skip rest)
          | rest => .error (.noComma, rest.length)
      | rest => .error (.noColon, rest.length)
  | _ + 1, _, cs => .error (.noKey, cs.length)

end

/-- A whole text: one value with blanks around it. Each value, item, entry and character of a text
takes at least one character and at most two units of fuel. -/
def readChars (cs : List Char) : Except Halt Document :=
  match cs with
  | '\uFEFF' :: _ => .error (.byteOrderMark, cs.length)
  | cs => do
      let (d, rest) ← value (2 * cs.length + 1) (skip cs)
      match skip rest with
      | [] => pure d
      | rest => .error (.moreData, rest.length)

/-- Read a text as a document. -/
def read (s : String) : Except Fault Document :=
  let cs := s.toList
  (readChars cs).mapError fun (cause, left) => ⟨cause, cs.length - left⟩

/-- What the cause is called. -/
def Cause.message : Cause → String
  | noValue => "Expecting value"
  | noKey => "Expecting property name enclosed in double quotes"
  | noColon => "Expecting ':' delimiter"
  | noComma => "Expecting ',' delimiter"
  | openText => "Unterminated string starting at"
  | controlCharacter => "Invalid control character at"
  | badEscape => "Invalid \\escape"
  | badCodeEscape => "Invalid \\uXXXX escape"
  | moreData => "Extra data"
  | byteOrderMark => "Unexpected UTF-8 BOM (decode using utf-8-sig)"
  | tooManyDigits count =>
      "Exceeds the limit (4300 digits) for integer string conversion: value has " ++
        toString count ++ " digits; use sys.set_int_max_str_digits() to increase the limit"

/-- The cause with its line, column and offset in the text. -/
def Fault.message (fault : Fault) (source : String) : String :=
  let before := source.toList.take fault.offset
  let line := before.count '\n' + 1
  let column := (before.reverse.takeWhile (· != '\n')).length + 1
  fault.cause.message ++ ": line " ++ toString line ++ " column " ++ toString column ++ " (char " ++
    toString fault.offset ++ ")"

end Tabletop.Json
