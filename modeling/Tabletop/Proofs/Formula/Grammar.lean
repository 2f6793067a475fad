import Tabletop.Formula.Term
import Tabletop.Formula.Token

/-!
# The grammar of formulas

A formula is a sum of products; the parts of a product are atoms, each with at most one minus sign
in front of it. Sums and products group to the left. An atom is a number, dice, a name, or a formula
in parentheses, which leave nothing behind in the tree.

The grammar is a relation between lexemes and trees and says nothing of how formulas are read.
-/
namespace Tabletop

/-- The tree of a formula without the places of its nodes. -/
inductive FormulaTree where
  | literal (value : Nat)
  | dice (count sides : Nat)
  | stat (name : String)
  | negation (operand : FormulaTree)
  | binary (op : Operator) (left right : FormulaTree)
  deriving DecidableEq, Repr

namespace Term

/-- The tree of a term. -/
def tree : Term → FormulaTree
  | literal _ value => .literal value
  | dice _ d => .dice d.count d.sides
  | stat _ name => .stat name
  | negation _ _ operand => .negation operand.tree
  | binary _ op _ left right => .binary op left.tree right.tree

@[simp] theorem tree_negate (chars : List Char) (sign : Span) (operand : Term) :
    (negate chars sign operand).tree = .negation operand.tree := rfl

@[simp] theorem tree_join (chars : List Char) (op : Operator) (sign : Span) (left right : Term) :
    (join chars op sign left right).tree = .binary op left.tree right.tree := rfl

end Term

/-- The parts of a formula, from those that bind tightest on. -/
inductive Grade where
  | atom
  | signed
  | product
  | sum
  deriving DecidableEq, Repr

/-- The lexemes form a part of the given grade with the given tree. -/
inductive Derives : Grade → List Lexeme → FormulaTree → Prop
  | integer (value : Nat) : Derives .atom [.integer value] (.literal value)
  | name (id : String) : Derives .atom [.name id] (.stat id)
  | dice {count sides : Nat} : 0 < count → 0 < sides →
      Derives .atom [.dice count sides] (.dice count sides)
  | parens {ls : List Lexeme} {t : FormulaTree} : Derives .sum ls t →
      Derives .atom (.openParen :: (ls ++ [.closeParen])) t
  | atom {ls : List Lexeme} {t : FormulaTree} : Derives .atom ls t → Derives .signed ls t
  | negation {ls : List Lexeme} {t : FormulaTree} : Derives .atom ls t →
      Derives .signed (.minus :: ls) (.negation t)
  | signed {ls : List Lexeme} {t : FormulaTree} : Derives .signed ls t → Derives .product ls t
  | times {ls ms : List Lexeme} {t u : FormulaTree} :
      Derives .product ls t → Derives .signed ms u →
      Derives .product (ls ++ .star :: ms) (.binary .times t u)
  | divide {ls ms : List Lexeme} {t u : FormulaTree} :
      Derives .product ls t → Derives .signed ms u →
      Derives .product (ls ++ .slash :: ms) (.binary .divide t u)
  | product {ls : List Lexeme} {t : FormulaTree} : Derives .product ls t → Derives .sum ls t
  | plus {ls ms : List Lexeme} {t u : FormulaTree} : Derives .sum ls t → Derives .product ms u →
      Derives .sum (ls ++ .plus :: ms) (.binary .plus t u)
  | minus {ls ms : List Lexeme} {t u : FormulaTree} : Derives .sum ls t → Derives .product ms u →
      Derives .sum (ls ++ .minus :: ms) (.binary .minus t u)

/-- Every part of a formula has lexemes. -/
theorem Derives.ne_nil {g : Grade} {ls : List Lexeme} {t : FormulaTree} (h : Derives g ls t) :
    ls ≠ [] := by
  induction h with
  | atom _ ih => exact ih
  | signed _ ih => exact ih
  | product _ ih => exact ih
  | _ => simp

end Tabletop
