import Tabletop.Document
import Tabletop.Document.Json.Reader
import Tabletop.Text.Quoted

/-!
# Keys and scalars of TOML

What can be wrong with a TOML text, and the readers of its keys, texts, moments and numbers. A
reader takes the front of a list of characters and hands back what is left.
-/
namespace Tabletop.Toml

/-- What can be wrong with a text. -/
inductive Cause where
  | badStatement
  | noLineEnd
  | declaredTwice (key : List String)
  | overwrites
  | noTableEnd
  | noArrayEnd
  | immutable (key : List String)
  | redefines (key : List String)
  | noEquals
  | badKey
  | badValue
  | openArray
  | openTable
  | repeatedKey (key : String)
  | openText
  | illegalChar (c : Char)
  | foundChar (c : Char)
  | noEndOf (mark : String)
  | badHex
  | notScalar
  | badEscape
  | badMoment
  | tooManyDigits (count : Nat)
  deriving DecidableEq, Repr

/-- The parts of a key between parentheses. -/
def keyText (key : List String) : String :=
  match key with
  | [part] => "(" ++ Text.quoted part ++ ",)"
  | parts => "(" ++ String.intercalate ", " (parts.map Text.quoted) ++ ")"

/-- What the cause is called. -/
def Cause.message : Cause → String
  | badStatement => "Invalid statement"
  | noLineEnd => "Expected newline or end of document after a statement"
  | declaredTwice key => "Cannot declare " ++ keyText key ++ " twice"
  | overwrites => "Cannot overwrite a value"
  | noTableEnd => "Expected ']' at the end of a table declaration"
  | noArrayEnd => "Expected ']]' at the end of an array declaration"
  | immutable key => "Cannot mutate immutable namespace " ++ keyText key
  | redefines key => "Cannot redefine namespace " ++ keyText key
  | noEquals => "Expected '=' after a key in a key/value pair"
  | badKey => "Invalid initial character for a key part"
  | badValue => "Invalid value"
  | openArray => "Unclosed array"
  | openTable => "Unclosed inline table"
  | repeatedKey key => "Duplicate inline table key " ++ Text.quoted key
  | openText => "Unterminated string"
  | illegalChar c => "Illegal character " ++ Text.quoted (String.ofList [c])
  | foundChar c => "Found invalid character " ++ Text.quoted (String.ofList [c])
  | noEndOf mark => "Expected " ++ Text.quoted mark
  | badHex => "Invalid hex value"
  | notScalar => "Escaped character is not a Unicode scalar value"
  | badEscape => "Unescaped '\\' in a string"
  | badMoment => "Invalid date or datetime"
  | tooManyDigits count => (Json.Cause.tooManyDigits count).message

/-- A cause, and how many characters are left at it. -/
abbrev Halt := Cause × Nat

/-- Reads something from the front of the characters. -/
abbrev Reader (α : Type) := List Char → Except Halt (α × List Char)

/-- Stop where the given characters are left. -/
def halt {α : Type} (cause : Cause) (cs : List Char) : Except Halt α := .error (cause, cs.length)

/-- Blanks within a line. -/
def isBlank (c : Char) : Bool := c == ' ' || c == '\t'

/-- The characters without the blanks in front. -/
def skip (cs : List Char) : List Char := cs.dropWhile isBlank

/-- The characters without the blanks and line ends in front. -/
def skipLines (cs : List Char) : List Char := cs.dropWhile fun c => isBlank c || c == '\n'

/-- A control character other than a tab. -/
def isControl (c : Char) : Bool := (c.toNat < 0x20 && c != '\t') || c.toNat == 0x7F

/-- A control character other than a tab or a line end. -/
def isLineControl (c : Char) : Bool := isControl c && c != '\n'

/-- What is left from the first bad character on, if there is one. -/
def firstBad? (bad : Char → Bool) (cs : List Char) (count : Nat) : Option (Char × List Char) :=
  match count, cs with
  | count + 1, c :: rest => if bad c then some (c, cs) else firstBad? bad rest count
  | _, _ => none

/-- Read `count` characters, none of which may be bad. -/
def takeGood (bad : Char → Bool) (cs : List Char) (count : Nat) :
    Except Halt (List Char × List Char) :=
  match firstBad? bad cs count with
  | some (c, here) => halt (.foundChar c) here
  | none => .ok (cs.take count, cs.drop count)

/-- A comment, if the characters begin with one, left out. -/
def skipComment (cs : List Char) : Except Halt (List Char) :=
  match cs with
  | '#' :: rest => (takeGood isControl rest (rest.takeWhile (· != '\n')).length).map Prod.snd
  | cs => .ok cs

/-! ### Texts -/

/-- The character of an escape of one letter. -/
def shortEscape? (c : Char) : Option Char :=
  match c with
  | 'b' => some (Char.ofNat 8)
  | 't' => some '\t'
  | 'n' => some '\n'
  | 'f' => some (Char.ofNat 12)
  | 'r' => some '\r'
  | '"' => some '"'
  | '\\' => some '\\'
  | _ => none

/-- The number of a run of hexadecimal digits. -/
def hexNumber? (cs : List Char) : Option Nat :=
  cs.foldl (fun n c => do some ((← n) * 16 + (← Text.hexValue? c))) (some 0)

/-- The character of an escape by code point, its letter already taken. -/
def codeEscape (width : Nat) (cs : List Char) : Except Halt (List Char × List Char) :=
  let digits := cs.take width
  match hexNumber? digits with
  | none => halt .badHex cs
  | some n =>
      if digits.length < width then halt .badHex cs
      else
        let rest := cs.drop width
        if n < 0xD800 || (0xDFFF < n && n < 0x110000) then .ok ([Char.ofNat n], rest)
        else halt .notScalar rest

/-- What an escape stands for, its backslash already taken. A line end that is escaped goes with all
blanks and line ends after it, where lines may end. -/
def escape (multiline : Bool) (cs : List Char) : Except Halt (List Char × List Char) :=
  match cs with
  | [] => halt .badEscape []
  | c :: rest =>
      if multiline && c == '\n' then .ok ([], skipLines rest)
      else if multiline && isBlank c then
        match skip rest with
        | [] => .ok ([], [])
        | '\n' :: rest => .ok ([], skipLines rest)
        | rest => halt .badEscape rest
      else if c == 'u' then codeEscape 4 rest
      else if c == 'U' then codeEscape 8 rest
      else
        match shortEscape? c with
        | some c => .ok ([c], rest)
        | none => halt .badEscape rest

/-- A text with escapes up to its end, after the characters in `read`, the last one first. -/
def basicText (multiline : Bool) : (fuel : Nat) → (read : List Char) → Reader (List Char)
  | 0, _, cs => halt .openText cs
  | _, _, [] => halt .openText []
  | fuel + 1, read, '"' :: rest =>
      if !multiline then .ok (read.reverse, rest)
      else
        match rest with
        | '"' :: '"' :: rest => .ok (read.reverse, rest)
        | rest => basicText multiline fuel ('"' :: read) rest
  | fuel + 1, read, '\\' :: rest => do
      let (chars, rest) ← escape multiline rest
      basicText multiline fuel (chars.reverse ++ read) rest
  | fuel + 1, read, c :: rest =>
      if (if multiline then isLineControl c else isControl c) then halt (.illegalChar c) (c :: rest)
      else basicText multiline fuel (c :: read) rest

/-- How many characters stand before three single quotes. -/
def beforeQuotes? : List Char → Option Nat
  | [] => none
  | '\'' :: '\'' :: '\'' :: _ => some 0
  | _ :: rest => (beforeQuotes? rest).map (· + 1)

/-- A text without escapes, its quote already taken. -/
def literalText (cs : List Char) : Except Halt (List Char × List Char) :=
  let length := (cs.takeWhile (· != '\'')).length
  if cs.length ≤ length then halt (.noEndOf "'") []
  else do
    let (chars, rest) ← takeGood isControl cs length
    pure (chars, rest.drop 1)

/-- A text without escapes on several lines, its quotes already taken. -/
def literalLines (cs : List Char) : Except Halt (List Char × List Char) :=
  match beforeQuotes? cs with
  | none => halt (.noEndOf "'''") []
  | some length => do
      let (chars, rest) ← takeGood isLineControl cs length
      pure (chars, rest.drop 3)

/-- Up to two more quotes directly after the three at the end of a text belong to it. -/
def extraQuotes (quote : Char) (text : List Char × List Char) : List Char × List Char :=
  let (chars, rest) := text
  let count := min 2 (rest.takeWhile (· == quote)).length
  (chars ++ List.replicate count quote, rest.drop count)

/-- The characters after a line end, if they begin with one. -/
def dropLineEnd (cs : List Char) : List Char :=
  match cs with
  | '\n' :: rest => rest
  | cs => cs

/-- A text of any kind that the characters begin with. -/
def anyText? (cs : List Char) : Option (Except Halt (List Char × List Char)) :=
  match cs with
  | '"' :: '"' :: '"' :: rest =>
      let rest := dropLineEnd rest
      some ((basicText true (rest.length + 1) [] rest).map (extraQuotes '"'))
  | '"' :: rest => some (basicText false (rest.length + 1) [] rest)
  | '\'' :: '\'' :: '\'' :: rest => some ((literalLines (dropLineEnd rest)).map (extraQuotes '\''))
  | '\'' :: rest => some (literalText rest)
  | _ => none

/-! ### Keys -/

/-- The characters of keys without quotes. -/
def isBare (c : Char) : Bool :=
  Decimal.isDigit c || ('a' ≤ c && c ≤ 'z') || ('A' ≤ c && c ≤ 'Z') || c == '-' || c == '_'

/-- One part of a key. -/
def keyPart (cs : List Char) : Except Halt (String × List Char) :=
  match cs with
  | [] => halt .badKey []
  | '\'' :: rest => (literalText rest).map fun (chars, rest) => (String.ofList chars, rest)
  | '"' :: rest =>
      (basicText false (rest.length + 1) [] rest).map fun (chars, rest) =>
        (String.ofList chars, rest)
  | c :: _ =>
      if isBare c then .ok (String.ofList (cs.takeWhile isBare), cs.dropWhile isBare)
      else halt .badKey cs

/-- The further parts of a key, each after a dot. -/
def keyParts : (fuel : Nat) → Reader (List String)
  | 0, cs => .ok ([], cs)
  | fuel + 1, '.' :: rest => do
      let (part, rest) ← keyPart (skip rest)
      let (parts, rest) ← keyParts fuel (skip rest)
      pure (part :: parts, rest)
  | _, cs => .ok ([], cs)

/-- A key, and the blanks after it. -/
def key (cs : List Char) : Except Halt (List String × List Char) := do
  let (part, rest) ← keyPart cs
  let (parts, rest) ← keyParts cs.length (skip rest)
  pure (part :: parts, rest)

/-! ### Moments -/

/-- Two digits of a number between bounds. -/
def twoDigits? (least most : Nat) (cs : List Char) : Option (Nat × List Char) :=
  let digits := cs.take 2
  let n := Decimal.ofDigits digits
  if digits.length == 2 && digits.all Decimal.isDigit && least ≤ n && n ≤ most then
    some (n, cs.drop 2)
  else none

/-- What follows the given character. -/
def after? (c : Char) (cs : List Char) : Option (List Char) :=
  if cs.head? == some c then some (cs.drop 1) else none

/-- The day at the front. -/
def day? (cs : List Char) : Option (Day × List Char) := do
  let year := cs.take 4
  if year.length == 4 && year.all Decimal.isDigit then
    let (month, rest) ← twoDigits? 1 12 (← after? '-' (cs.drop 4))
    let (day, rest) ← twoDigits? 1 31 (← after? '-' rest)
    some (⟨Decimal.ofDigits year, month, day⟩, rest)
  else none

/-- The time of day at the front; a point belongs to it only with a digit after it. -/
def clock? (cs : List Char) : Option (Clock × List Char) := do
  let (hour, rest) ← twoDigits? 0 23 cs
  let (minute, rest) ← twoDigits? 0 59 (← after? ':' rest)
  let (second, rest) ← twoDigits? 0 59 (← after? ':' rest)
  let (places, rest) :=
    match rest with
    | '.' :: c :: more =>
        if Decimal.isDigit c then (c :: more).span Decimal.isDigit else ([], rest)
    | _ => ([], rest)
  some (.ofParts hour minute second places, rest)

/-- The distance from Greenwich at the front, in minutes, if there is one. -/
def offset? (cs : List Char) : Option (Int × List Char) :=
  match cs with
  | [] => none
  | c :: rest =>
      if c == 'Z' || c == 'z' then some (0, rest)
      else if c == '+' || c == '-' then do
        let (hours, rest) ← twoDigits? 0 23 rest
        let (minutes, rest) ← twoDigits? 0 59 (← after? ':' rest)
        let distance : Int := (60 * hours + minutes : Nat)
        some (if c == '-' then -distance else distance, rest)
      else none

/-- The day at the front, with a time if one follows. -/
def dayAndClock? (cs : List Char) : Option (Moment × List Char) :=
  (day? cs).map fun (day, rest) =>
    let clock :=
      match rest with
      | c :: more => if c == 'T' || c == 't' || c == ' ' then clock? more else none
      | [] => none
    match clock with
    | none => (.day day, rest)
    | some (clock, rest) =>
        match offset? rest with
        | some (minutes, rest) => (.both day clock (some minutes), rest)
        | none => (.both day clock none, rest)

/-- The moment that the characters begin with. -/
def moment? (cs : List Char) : Option (Except Halt (Document × List Char)) :=
  match dayAndClock? cs, clock? cs with
  | some (m, rest), _ =>
      some (if m.refusal?.isNone then .ok (.moment m, rest) else halt .badMoment cs)
  | none, some (clock, rest) => some (.ok (.moment (.clock clock), rest))
  | none, none => none

/-! ### Numbers -/

/-- The digits of a run in which single underscores may stand between digits, with what follows. -/
def digitRun (isDigit : Char → Bool) : List Char → List Char × List Char
  | '_' :: c :: rest =>
      if isDigit c then
        let (digits, rest) := digitRun isDigit rest
        (c :: digits, rest)
      else ([], '_' :: c :: rest)
  | c :: rest =>
      if isDigit c then
        let (digits, rest) := digitRun isDigit rest
        (c :: digits, rest)
      else ([], c :: rest)
  | [] => ([], [])

/-- A run that starts with a digit. -/
def digits? (isDigit : Char → Bool) (cs : List Char) : Option (List Char × List Char) :=
  match cs with
  | c :: _ => if isDigit c then some (digitRun isDigit cs) else none
  | [] => none

def isHexDigit (c : Char) : Bool := (Text.hexValue? c).isSome

/-- The number of digits in a base that is a power of two. -/
def inBase (base : Nat) (digits : List Char) : Nat :=
  digits.foldl (fun n c => n * base + (Text.hexValue? c).getD 0) 0

/-- A number whose base is written in front. -/
def basedNumber? (cs : List Char) : Option (Document × List Char) :=
  let read (base : Nat) (isDigit : Char → Bool) (rest : List Char) :=
    (digits? isDigit rest).map fun (digits, rest) => (Document.int (inBase base digits), rest)
  match cs with
  | '0' :: 'x' :: rest => read 16 isHexDigit rest
  | '0' :: 'b' :: rest => read 2 (fun c => c == '0' || c == '1') rest
  | '0' :: 'o' :: rest => read 8 (fun c => '0' ≤ c && c ≤ '7') rest
  | _ => none

/-- The whole part of a decimal number: zero alone, or digits that do not begin with it. -/
def wholePart? (cs : List Char) : Option (List Char × List Char) :=
  match cs with
  | '0' :: rest => some (['0'], rest)
  | cs => digits? Decimal.isDigit cs

/-- The places after the point, if there is a point with digits after it. -/
def places? (cs : List Char) : Option (List Char × List Char) :=
  match cs with
  | '.' :: rest => digits? Decimal.isDigit rest
  | _ => none

/-- The exponent, if there is one. -/
def exponent? (cs : List Char) : Option (Int × List Char) :=
  let signed : Option (Bool × List Char) :=
    match cs with
    | e :: sign :: rest =>
        if e == 'e' || e == 'E' then
          some (if sign == '-' then (true, rest) else if sign == '+' then (false, rest)
            else (false, sign :: rest))
        else none
    | _ => none
  signed.bind fun (negative, rest) =>
    (digits? Decimal.isDigit rest).map fun (digits, rest) =>
      let n : Int := Decimal.ofDigits digits
      (if negative then -n else n, rest)

/-- A decimal number from its whole part on. -/
def decimalNumber (negative : Bool) (whole rest : List Char) : Except Halt (Document × List Char) :=
  let places := places? rest
  let (fraction, rest) := places.getD ([], rest)
  match exponent? rest with
  | some (power, rest) =>
      let d : Decimal.Scientific := ⟨Decimal.ofDigits (whole ++ fraction), power - fraction.length⟩
      .ok (.real (Decimal.toBinary64 negative d), rest)
  | none =>
      if places.isSome then
        let d : Decimal.Scientific := ⟨Decimal.ofDigits (whole ++ fraction), -fraction.length⟩
        .ok (.real (Decimal.toBinary64 negative d), rest)
      else if Decimal.digitLimit < whole.length then halt (.tooManyDigits whole.length) rest
      else
        let n : Int := Decimal.ofDigits whole
        .ok (.int (if negative then -n else n), rest)

/-- A number that the characters begin with. -/
def number? (cs : List Char) : Option (Except Halt (Document × List Char)) :=
  match basedNumber? cs with
  | some found => some (.ok found)
  | none =>
      let (negative, unsigned) :=
        match cs with
        | '-' :: rest => (true, rest)
        | '+' :: rest => (false, rest)
        | rest => (false, rest)
      (wholePart? unsigned).map fun (whole, rest) => decimalNumber negative whole rest

/-- A number that is written as a word, with or without a sign. -/
def wordNumber? (cs : List Char) : Option (Document × List Char) :=
  let words : List (String × Binary64) :=
    [("inf", .infinite false), ("nan", .nan), ("-inf", .infinite true), ("+inf", .infinite false),
      ("-nan", .nan), ("+nan", .nan)]
  words.findSome? fun (word, x) => (Json.word? word cs).map fun rest => (.real x, rest)

end Tabletop.Toml
