import Tabletop.Formula.Excerpt
import Tabletop.Formula.Term

/-!
# Drafts

A draft is a tree that was put together by hand and may hold what no formula gives: operators that
are not in the language, and things that are no terms at all. Such a node is a defect. A draft
without defects is a term.
-/
namespace Tabletop

/-- A tree that may have defects. -/
inductive Draft where
  | literal (place : Place) (value : Nat)
  | dice (place : Place) (dice : Dice)
  | stat (place : Place) (name : String)
  | unary (place : Place) (op : String) (sign : Span) (operand : Draft)
  | binary (place : Place) (op : String) (sign : Span) (left right : Draft)
  /-- Something of another kind, with the source that it shows. -/
  | foreign (kind source : String)
  deriving DecidableEq, Repr

/-- What is wrong with a node. -/
inductive Defect where
  | unaryOperator (place : Place) (op : String) (sign : Span)
  | binaryOperator (place : Place) (op : String) (sign : Span)
  | notATerm (kind source : String)
  deriving DecidableEq, Repr

namespace Defect

/-- The part of the formula that the defect is about: the operator, counted from the start of its
node, or all that something of another kind shows. -/
def excerpt : Defect → Excerpt
  | unaryOperator place _ sign | binaryOperator place _ sign =>
      ⟨place.source, (sign.start : Int) - place.span.start, sign.length, none⟩
  | notATerm _ source => ⟨source, 0, source.length, none⟩

/-- What is wrong. -/
def reason : Defect → String
  | unaryOperator _ op _ => "Unknown unary operator: " ++ Text.quoted op
  | binaryOperator _ op _ => "Unknown binary operator: " ++ Text.quoted op
  | notATerm kind _ => "Unknown term type: " ++ kind

/-- What is wrong, under the part that it is about. -/
def message (d : Defect) : String := d.excerpt.caption d.reason

end Defect

/-- The operation of a sign. -/
def Operator.ofSign? (sign : String) : Option Operator :=
  [Operator.plus, .minus, .times, .divide].find? fun op => op.sign == sign

@[simp] theorem Operator.ofSign?_sign (op : Operator) : ofSign? op.sign = some op := by
  cases op <;> rfl

namespace Draft

/-- Something of another kind that shows no source. -/
def alien (kind : String) : Draft := foreign kind ""

/-- The sign of negation is the only unary operator. -/
def isNegation (op : String) : Bool := op == "-"

/-- A literal, which may not be negative. -/
def ofLiteral (place : Place) (value : Int) : Checked Draft :=
  if 0 ≤ value then .ok (literal place value.toNat)
  else (Checked.fail .tooSmall).under (.key "value")

/-- The kinds of term, of which an operand has to be one. -/
def termKinds : List String :=
  ["LiteralTerm", "DieRollTerm", "StatTerm", "UnaryTerm", "BinaryTerm"]

/-- A draft in a role of an operator: what is no term is none of the kinds of term. -/
def inRole (role : String) : Draft → Checked Draft
  | foreign .. => .error (termKinds.map fun kind => ⟨[.key role, .key kind], .notModel⟩)
  | d => .ok d

/-- An operator before its operand. One that is in the language takes only terms. -/
def ofUnary (place : Place) (op : String) (sign : Span) (operand : Draft) : Checked Draft :=
  if isNegation op then (inRole "operand" operand).map (unary place op sign)
  else .ok (unary place op sign operand)

/-- An operator between its operands. One that is in the language takes only terms. -/
def ofBinary (place : Place) (op : String) (sign : Span) (left right : Draft) : Checked Draft :=
  if (Operator.ofSign? op).isSome then
    (Checked.both (inRole "left" left) (inRole "right" right)).map fun (left, right) =>
      binary place op sign left right
  else .ok (binary place op sign left right)

/-- A term is a draft without defects. -/
def ofTerm : Term → Draft
  | .literal place value => literal place value
  | .dice place d => dice place d
  | .stat place name => stat place name
  | .negation place sign operand => unary place "-" sign (ofTerm operand)
  | .binary place op sign left right => binary place op.sign sign (ofTerm left) (ofTerm right)

/-- The draft in full parentheses. -/
def text : Draft → String
  | literal _ value => Decimal.text value
  | dice _ d => d.text
  | stat _ name => name
  | unary _ op _ operand => op ++ operand.text
  | binary _ op _ left right => "(" ++ left.text ++ " " ++ op ++ " " ++ right.text ++ ")"
  | foreign .. => ""

theorem text_ofTerm (t : Term) : (ofTerm t).text = t.text := by
  induction t <;> simp_all [ofTerm, text, Term.text]

end Draft

end Tabletop
