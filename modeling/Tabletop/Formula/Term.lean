import Tabletop.Formula.Span

/-!
# Terms

The tree of a formula: literals, dice and names of statistics, joined by negation and the four basic
operations. Every node knows its place in the formula. Parentheses leave no node behind.
-/
namespace Tabletop

/-- Several dice of one kind, at least one of at least one side. -/
structure Dice where
  count : Nat
  sides : Nat
  count_pos : 0 < count
  sides_pos : 0 < sides
  deriving DecidableEq, Repr

namespace Dice

/-- Dice are written with a `d` between their count and their sides. -/
def text (d : Dice) : String := Decimal.text d.count ++ "d" ++ Decimal.text d.sides

/-- The dice of a count and a number of sides, each at least one. -/
def ofInts (count sides : Int) : Checked Dice :=
  let least (name : String) (n : Int) : Checked { k : Nat // 0 < k } :=
    if h : 0 < n then .ok ⟨n.toNat, by omega⟩ else (Checked.fail .tooSmall).under (.key name)
  (Checked.both (least "die_count" count) (least "die_sides" sides)).map fun (c, s) =>
    ⟨c.1, s.1, c.2, s.2⟩

end Dice

/-- The operations on two values. -/
inductive Operator where
  | plus
  | minus
  | times
  | divide
  deriving DecidableEq, Repr

/-- The sign of an operation. -/
def Operator.sign : Operator → String
  | plus => "+"
  | minus => "-"
  | times => "*"
  | divide => "/"

/-- Where a node stands: its span and the characters that the span covers. -/
structure Place where
  span : Span
  source : String
  deriving DecidableEq, Repr

namespace Place

/-- The place of a span in the characters of a formula. -/
def ofSpan (chars : List Char) (span : Span) : Place := ⟨span, String.ofList (span.slice chars)⟩

/-- What the source of a node holds at the span of its sign. -/
def signSource (place : Place) (sign : Span) : String :=
  String.ofList ((place.source.toList.drop (sign.start - place.span.start)).take sign.length)

end Place

/-- The tree of a formula. -/
inductive Term where
  | literal (place : Place) (value : Nat)
  | dice (place : Place) (dice : Dice)
  | stat (place : Place) (name : String)
  | negation (place : Place) (sign : Span) (operand : Term)
  | binary (place : Place) (op : Operator) (sign : Span) (left right : Term)
  deriving DecidableEq, Repr

namespace Term

/-- Where the root of a term stands. -/
def place : Term → Place
  | literal place _ => place
  | dice place _ => place
  | stat place _ => place
  | negation place _ _ => place
  | binary place _ _ _ _ => place

/-- The span of the root. -/
def span (t : Term) : Span := t.place.span

/-- The term in full parentheses. -/
def text : Term → String
  | literal _ value => Decimal.text value
  | dice _ d => d.text
  | stat _ name => name
  | negation _ _ operand => "-" ++ operand.text
  | binary _ op _ left right => "(" ++ left.text ++ " " ++ op.sign ++ " " ++ right.text ++ ")"

/-- The literal zero at no place of a formula. -/
def zero : Term := literal ⟨⟨0, 0⟩, ""⟩ 0

/-- The negation of a term by a minus sign in front of it. -/
def negate (chars : List Char) (sign : Span) (operand : Term) : Term :=
  negation (Place.ofSpan chars (sign.cover operand.span)) sign operand

/-- Two terms joined by an operation. -/
def join (chars : List Char) (op : Operator) (sign : Span) (left right : Term) : Term :=
  binary (Place.ofSpan chars (left.span.cover right.span)) op sign left right

end Term

end Tabletop
