import Tabletop.Document
import Tabletop.Number.Decimal
import Tabletop.Text.Quoted

/-!
# Documents in messages

How a value that was found in a file is shown in a message: texts in quotes, lists and tables in
brackets with a blank after every comma and colon.
-/
namespace Tabletop.Document

mutual

/-- The value as it is shown. -/
def literal : Document → String
  | null => "None"
  | bool b => if b then "True" else "False"
  | int n => Decimal.text n
  | real x => Decimal.realText x
  | text s => Text.quoted s
  | moment m => m.literal
  | list items => "[" ++ literalItems items ++ "]"
  | table entries => "\x7b" ++ literalEntries entries ++ "\x7d"
  | mixed entries => "\x7b" ++ literalPairs entries ++ "\x7d"

/-- Items with commas between them. -/
def literalItems : List Document → String
  | [] => ""
  | [item] => literal item
  | item :: rest => literal item ++ ", " ++ literalItems rest

/-- Entries with commas between them. -/
def literalEntries : List (String × Document) → String
  | [] => ""
  | [(key, value)] => Text.quoted key ++ ": " ++ literal value
  | (key, value) :: rest => Text.quoted key ++ ": " ++ literal value ++ ", " ++ literalEntries rest

/-- Entries under any keys with commas between them. -/
def literalPairs : List (Document × Document) → String
  | [] => ""
  | [(key, value)] => literal key ++ ": " ++ literal value
  | (key, value) :: rest => literal key ++ ": " ++ literal value ++ ", " ++ literalPairs rest

end

mutual

/-- None of the integers in the value has too many digits to be shown. -/
def isShowable : Document → Bool
  | int n => Decimal.fits n
  | list items => areShowable items
  | table entries => haveShowable entries
  | mixed entries => areAllShowable entries
  | _ => true

/-- None of the integers in the values has too many digits to be shown. -/
def areShowable : List Document → Bool
  | [] => true
  | item :: rest => isShowable item && areShowable rest

/-- None of the integers in the entries has too many digits to be shown. -/
def haveShowable : List (String × Document) → Bool
  | [] => true
  | (_, value) :: rest => isShowable value && haveShowable rest

/-- None of the integers in the keys and values has too many digits to be shown. -/
def areAllShowable : List (Document × Document) → Bool
  | [] => true
  | (key, value) :: rest => isShowable key && isShowable value && areAllShowable rest

end

/-- The value as it is shown by itself: a text without quotes, a moment as it is written. -/
def plain : Document → String
  | text s => s
  | moment m => m.text
  | d => d.literal

end Tabletop.Document
