import Tabletop.Formula.Term
import Tabletop.Number

/-!
# Evaluated terms

The tree of a term with the value of every node, the results of all dice, and for every name the
statistic that it stands for.
-/
namespace Tabletop

/-- A term with its values. -/
inductive Evaluated where
  | literal (value : Number) (place : Place) (literal : Nat)
  | dice (value : Number) (place : Place) (dice : Dice) (rolls : List Int)
  /-- A name is unresolved if there is no such statistic, or if it is just being evaluated. -/
  | stat (value : Number) (place : Place) (name : String) (resolved : Option String)
  | negation (value : Number) (place : Place) (sign : Span) (operand : Evaluated)
  | binary (value : Number) (place : Place) (op : Operator) (sign : Span) (left right : Evaluated)
  deriving DecidableEq, Repr

namespace Evaluated

/-- The value of the root. -/
def value : Evaluated → Number
  | literal value _ _ => value
  | dice value _ _ _ => value
  | stat value _ _ _ => value
  | negation value _ _ _ => value
  | binary value _ _ _ _ _ => value

/-- The term that was evaluated. -/
def term : Evaluated → Term
  | literal _ place n => .literal place n
  | dice _ place d _ => .dice place d
  | stat _ place name _ => .stat place name
  | negation _ place sign operand => .negation place sign operand.term
  | binary _ place op sign left right => .binary place op sign left.term right.term

/-- Where the root stands. -/
def place (e : Evaluated) : Place := e.term.place

end Evaluated

/-- The value of an operation. -/
def Operator.apply : Operator → Number → Number → Number
  | plus => Number.add
  | minus => Number.sub
  | times => Number.mul
  | divide => Number.div

end Tabletop
