import Tabletop.Number.Decimal
import Tabletop.Text.Blank
import Tabletop.Text.Digit

/-!
# Integers as people write them

An integer may have white space around it and a sign in front. Its digits may be those of any
script, and a single underscore may stand between two of them. There is a limit to how many digits
are read.
-/
namespace Tabletop.Integer

/-- The values of digits, with single underscores between them. -/
def digits? : List Char → Option (List Nat)
  | [] => none
  | [c] => (Text.digit? c).map fun n => [n]
  | c :: '_' :: rest => do
      let n ← Text.digit? c
      let more ← digits? rest
      some (n :: more)
  | c :: rest => do
      let n ← Text.digit? c
      let more ← digits? rest
      some (n :: more)

/-- The number that the values of digits stand for. -/
def ofDigits (ns : List Nat) : Nat := ns.foldl (fun total n => total * 10 + n) 0

/-- An integer without a sign. -/
def magnitude? (cs : List Char) : Option Nat := do
  let ns ← digits? cs
  if ns.length ≤ Decimal.digitLimit then some (ofDigits ns) else none

/-- Read an integer. -/
def read? (s : String) : Option Int :=
  match Text.trimWhere Text.isSpace s.toList with
  | '-' :: cs => (magnitude? cs).map fun n => -(n : Int)
  | '+' :: cs => (magnitude? cs).map fun n => (n : Int)
  | cs => (magnitude? cs).map fun n => (n : Int)

end Tabletop.Integer
