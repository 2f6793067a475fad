import Tabletop.Formula.Term
import Tabletop.Formula.Token

/-!
# Parsing

Tokens are read from left to right. Whatever still waits for its right operand is kept in `Level`s,
one for each open parenthesis: a sum, inside it a product, inside it a minus sign. A value settles
with what binds tightest first, so that products bind tighter than sums, negation tighter than both,
and equal operations group to the left. A minus sign stands once before a number, a name, dice or a
parenthesis.

Parsing ends at the first token with which no formula can go on.
-/
namespace Tabletop

/-- A left operand and an operation that waits for its right one. -/
structure Waiting where
  left : Term
  op : Operator
  sign : Span
  deriving DecidableEq, Repr

/-- What waits for an operand inside one parenthesis, from the outside in. -/
structure Level where
  sum : Option Waiting
  product : Option Waiting
  minus : Option Span
  deriving DecidableEq, Repr

/-- Nothing waits. -/
def Level.empty : Level := ⟨none, none, none⟩

/-- How far a formula has been read. -/
inductive Reading where
  /-- An operand has to come next. -/
  | wants (level : Level) (outer : List Level)
  /-- A value that may be multiplied or divided has just ended. -/
  | holds (value : Term) (sum : Option Waiting) (outer : List Level)
  deriving DecidableEq, Repr

/-- Why tokens do not form a formula. -/
inductive Misfit where
  | nothing
  | endsEarly
  | unclosed (found : Option Token)
  | emptyDice (found : Token)
  | unexpected (found : Token)
  | leftover (found : Token)
  deriving DecidableEq, Repr

namespace Misfit

/-- What is wrong. -/
def message : Misfit → String
  | nothing => "Formula is empty"
  | endsEarly => "Expected a value but reached the end of the formula"
  | unclosed _ => "Expected ')'"
  | emptyDice t =>
      "Dice roll " ++ Text.quoted t.text ++ " needs at least one die with at least one side"
  | unexpected t => "Unexpected " ++ Text.quoted t.text
  | leftover t => "Unexpected " ++ Text.quoted t.text ++ " after expression"

/-- The token to blame, unless the end of the formula is. -/
def token? : Misfit → Option Token
  | nothing => none
  | endsEarly => none
  | unclosed found => found
  | emptyDice t => some t
  | unexpected t => some t
  | leftover t => some t

/-- The user error at the token to blame, or at the end of the formula. -/
def diagnostic (size : Nat) (m : Misfit) : Diagnostic :=
  ⟨(m.token?.map Token.span).getD ⟨size, 0⟩, m.message, .userError⟩

end Misfit

/-- The operations that bind tightest. -/
def Lexeme.productOperator? : Lexeme → Option Operator
  | star => some .times
  | slash => some .divide
  | _ => none

/-- The operations that bind least. -/
def Lexeme.sumOperator? : Lexeme → Option Operator
  | plus => some .plus
  | minus => some .minus
  | _ => none

namespace Reading

/-- Join a term to what waits for it. -/
def finish (chars : List Char) (waiting : Option Waiting) (right : Term) : Term :=
  match waiting with
  | some w => Term.join chars w.op w.sign w.left right
  | none => right

/-- An operand has ended: it takes the minus sign and the product that wait for it. -/
def settle (chars : List Char) (level : Level) (outer : List Level) (operand : Term) : Reading :=
  let signed :=
    match level.minus with
    | some sign => Term.negate chars sign operand
    | none => operand
  .holds (finish chars level.product signed) level.sum outer

/-- Go on with one token where an operand is wanted. -/
def operand (chars : List Char) (level : Level) (outer : List Level) (t : Token) :
    Except Misfit Reading :=
  let place := Place.ofSpan chars t.span
  match t.lexeme with
  | .integer value => .ok (settle chars level outer (.literal place value))
  | .name id => .ok (settle chars level outer (.stat place id))
  | .dice count sides =>
      if h : 0 < count ∧ 0 < sides then
        .ok (settle chars level outer (.dice place ⟨count, sides, h.1, h.2⟩))
      else .error (.emptyDice t)
  | .openParen => .ok (.wants .empty (level :: outer))
  | .minus =>
      if level.minus.isNone then .ok (.wants { level with minus := some t.span } outer)
      else .error (.unexpected t)
  | _ => .error (.unexpected t)

/-- Go on with one token where a value has ended. -/
def operator (chars : List Char) (value : Term) (sum : Option Waiting) (outer : List Level)
    (t : Token) : Except Misfit Reading :=
  match t.lexeme.productOperator?, t.lexeme.sumOperator? with
  | some op, _ => .ok (.wants ⟨sum, some ⟨value, op, t.span⟩, none⟩ outer)
  | none, some op => .ok (.wants ⟨some ⟨finish chars sum value, op, t.span⟩, none, none⟩ outer)
  | none, none =>
      match outer with
      | [] => .error (.leftover t)
      | level :: outer =>
          if t.lexeme = .closeParen then .ok (settle chars level outer (finish chars sum value))
          else .error (.unclosed (some t))

/-- Go on with one token. -/
def step (chars : List Char) : Reading → Token → Except Misfit Reading
  | .wants level outer, t => operand chars level outer t
  | .holds value sum outer, t => operator chars value sum outer t

/-- Go on with tokens up to the first that does not fit. -/
def run (chars : List Char) : Reading → List Token → Except Misfit Reading
  | r, [] => .ok r
  | r, t :: rest => (step chars r t).bind fun r => run chars r rest

/-- The term of a formula that ends here. -/
def close (chars : List Char) : Reading → Except Misfit Term
  | .wants .. => .error .endsEarly
  | .holds value sum [] => .ok (finish chars sum value)
  | .holds _ _ (_ :: _) => .error (.unclosed none)

/-- The beginning of a formula. -/
def start : Reading := .wants .empty []

theorem run_append (chars : List Char) (r : Reading) (ts us : List Token) :
    run chars r (ts ++ us) = (run chars r ts).bind fun r => run chars r us := by
  induction ts generalizing r with
  | nil => rfl
  | cons t ts ih =>
      simp only [List.cons_append, run]
      cases step chars r t with
      | error m => rfl
      | ok next => exact ih next

end Reading

/-- The term that tokens of a formula form. -/
def parseTokens (chars : List Char) (tokens : List Token) : Except Misfit Term :=
  if tokens.isEmpty then .error .nothing
  else (Reading.run chars .start tokens).bind (Reading.close chars)

/-- A formula with its term, if it has one, and what there is to say about it. -/
structure Parse where
  formula : String
  term : Option Term
  messages : List Diagnostic
  deriving DecidableEq, Repr

namespace Parse

/-- Parse the tokens of a formula. -/
def ofTokens (formula : String) (tokens : List Token) : Parse :=
  match parseTokens formula.toList tokens with
  | .ok term => ⟨formula, some term, []⟩
  | .error m => ⟨formula, none, [m.diagnostic formula.length]⟩

end Parse

/-- Parse a formula. A user error of the scan keeps it from having a term, whatever the other tokens
form. -/
def parse (formula : String) : Parse :=
  let scanned := scan formula
  let parsed := Parse.ofTokens formula scanned.tokens
  let failed := scanned.remarks.any fun d => d.severity == .userError
  ⟨formula, if failed then none else parsed.term, scanned.remarks ++ parsed.messages⟩

end Tabletop
