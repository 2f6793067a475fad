import Tabletop.Document
import Tabletop.Number.Decimal
import Tabletop.Text.Quoted

/-!
# Writing JSON

A document is written on one line, or with one entry a line and two blanks for each level.
Characters beyond ASCII stand for themselves; of the control characters the usual five have short
escapes, and a half of a character that stands alone is escaped. A table with keys that are not
texts is written as the list of its entries.
-/
namespace Tabletop.Json

/-- One character as it stands between double quotes. -/
def escapeChar (c : Char) : List Char :=
  if c == '"' then ['\\', '"']
  else if c == '\\' then ['\\', '\\']
  else if c == '\n' then ['\\', 'n']
  else if c == '\r' then ['\\', 'r']
  else if c == '\t' then ['\\', 't']
  else if c.toNat == 0x0C then ['\\', 'f']
  else if c.toNat == 0x08 then ['\\', 'b']
  else if c.toNat < 0x20 then '\\' :: 'u' :: Text.hex 4 c.toNat
  else
    match Text.half? c with
    | some code => '\\' :: 'u' :: Text.hex 4 code
    | none => [c]

/-- A text between double quotes. -/
def writeText (s : String) : List Char :=
  '"' :: (Text.joinHalves s.toList).flatMap escapeChar ++ ['"']

/-- The parts between the values of a document. -/
structure Style where
  /-- What separates a key from its value. -/
  colon : List Char
  /-- What stands before an entry or a closing bracket at the given level. -/
  newline : Nat → List Char

/-- Everything on one line without blanks. -/
def compactStyle : Style := ⟨[':'], fun _ => []⟩

/-- One entry a line, two blanks for each level. -/
def prettyStyle : Style := ⟨[':', ' '], fun level => '\n' :: List.replicate (2 * level) ' '⟩

/-- A binary number as it stands in a file. -/
def writeReal : Binary64 → String
  | .nan => "NaN"
  | .infinite negative => if negative then "-Infinity" else "Infinity"
  | x => Decimal.realText x

mutual

/-- The document, whose own line is at the given level. -/
def write (style : Style) (level : Nat) : Document → List Char
  | .null => "null".toList
  | .bool b => (if b then "true" else "false").toList
  | .int n => (Decimal.text n).toList
  | .real x => (writeReal x).toList
  | .text s => writeText s
  | .moment m => writeText m.text
  | .list [] => ['[', ']']
  | .list (item :: rest) =>
      '[' :: style.newline (level + 1) ++ write style (level + 1) item ++
        writeItems style level rest
  | .table [] => ['{', '}']
  | .table ((key, value) :: rest) =>
      '{' :: style.newline (level + 1) ++ writeText key ++ style.colon ++
        write style (level + 1) value ++ writeEntries style level rest
  | .mixed [] => ['[', ']']
  | .mixed ((key, value) :: rest) =>
      '[' :: style.newline (level + 1) ++ '[' :: write style (level + 2) key ++
        ',' :: write style (level + 2) value ++ ']' :: writePairs style level rest

/-- The further items of a list and its end. -/
def writeItems (style : Style) (level : Nat) : List Document → List Char
  | [] => style.newline level ++ [']']
  | item :: rest =>
      ',' :: style.newline (level + 1) ++ write style (level + 1) item ++
        writeItems style level rest

/-- The further entries of a table and its end. -/
def writeEntries (style : Style) (level : Nat) : List (String × Document) → List Char
  | [] => style.newline level ++ ['}']
  | (key, value) :: rest =>
      ',' :: style.newline (level + 1) ++ writeText key ++ style.colon ++
        write style (level + 1) value ++ writeEntries style level rest

/-- The further entries of a table with other keys and its end. -/
def writePairs (style : Style) (level : Nat) : List (Document × Document) → List Char
  | [] => style.newline level ++ [']']
  | (key, value) :: rest =>
      ',' :: style.newline (level + 1) ++ '[' :: write style (level + 2) key ++
        ',' :: write style (level + 2) value ++ ']' :: writePairs style level rest

end

/-- The document with one entry a line. -/
def pretty (d : Document) : String := String.ofList (write prettyStyle 0 d)

/-- The document on one line. -/
def compact (d : Document) : String := String.ofList (write compactStyle 0 d)

end Tabletop.Json
