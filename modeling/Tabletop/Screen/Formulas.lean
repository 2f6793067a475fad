import Tabletop.Formula.Evaluated
import Tabletop.Formula.Parse
import Tabletop.Screen.Figure

/-!
# Formulas on the screen

A formula is shown as the table of its tokens, as the tree of its term or as its evaluated tree.
What there is to say about it is printed with a marker under the part that is meant.
-/
namespace Tabletop.Screen

/-- A text in one style. -/
def styled (style s : String) : String := "[" ++ style ++ "]" ++ s ++ "[/" ++ style ++ "]"

/-! ### Tokens -/

/-- The row of a token. -/
def tokenRow (t : Token) : List String :=
  [t.lexeme.kind, t.text, Decimal.text t.span.start, Decimal.text t.span.length]

/-- The table of the tokens of a formula. -/
def tokenTable (source : String) (tokens : List Token) : Grid :=
  ⟨"Tokens of " ++ Markup.escape (Text.quoted source), ["Kind", "Text", "Start", "Length"],
    tokens.map tokenRow⟩

/-! ### Terms -/

/-- Where something stands, and how long it is. -/
def spanLabel (s : Span) : String :=
  styled "dim" ("@" ++ Decimal.text s.start ++ "+" ++ Decimal.text s.length)

/-- The label of a term. The sign of an operator is not escaped. -/
def termLabel : Term → String
  | .literal place _ | .stat place _ => Markup.escape place.source ++ " " ++ spanLabel place.span
  | .dice place _ => styled "magenta" (Markup.escape place.source) ++ " " ++ spanLabel place.span
  | .negation place sign _ =>
      styled "bold" (place.signSource sign) ++ " (negate) " ++ spanLabel place.span
  | .binary place _ sign _ _ => styled "bold" (place.signSource sign) ++ " " ++ spanLabel place.span

/-- The tree of a term. -/
def termTree (t : Term) : Tree :=
  .node (termLabel t)
    (match t with
      | .negation _ _ operand => [termTree operand]
      | .binary _ _ _ left right => [termTree left, termTree right]
      | _ => [])

/-- The tree of a formula under the formula and its term in full. -/
def formulaTree (source : String) (t : Term) : Tree :=
  .node (styled "bold" (Markup.escape source) ++ "  " ++ styled "dim" t.text) [termTree t]

/-! ### Evaluated terms -/

/-- The label of an evaluated term. -/
def evaluatedLabel (e : Evaluated) : String :=
  let value := styled "cyan" ("= " ++ e.value.display)
  match e with
  | .literal _ place _ => Markup.escape place.source ++ " " ++ value
  | .dice _ place _ rolls =>
      styled "magenta" (Markup.escape place.source) ++ " [" ++
        String.intercalate ", " (rolls.map Decimal.text) ++ "] " ++ value
  | .stat _ place _ (some id) => Markup.escape place.source ++ " (" ++ id ++ ") " ++ value
  | .stat _ place _ none =>
      Markup.escape place.source ++ " " ++ styled "yellow" "(unresolved)" ++ " " ++ value
  | .negation _ place sign _ | .binary _ place _ sign _ _ =>
      styled "bold" (place.signSource sign) ++ " " ++ value

/-- The tree of an evaluated term. -/
def evaluatedTree (e : Evaluated) : Tree :=
  .node (evaluatedLabel e)
    (match e with
      | .negation _ _ _ operand => [evaluatedTree operand]
      | .binary _ _ _ _ left right => [evaluatedTree left, evaluatedTree right]
      | _ => [])

/-- The evaluated tree of a formula under the formula. -/
def evaluatedFormulaTree (source : String) (e : Evaluated) : Tree :=
  .node (styled "bold" (Markup.escape source)) [evaluatedTree e]

/-! ### Diagnostics -/

/-- Where a formula stands under what is said about it. -/
def indented (s : String) : String := "    " ++ s

/-- Carets under a span, at least one. -/
def marker (s : Span) : String :=
  String.ofList (List.replicate s.start ' ' ++ List.replicate (max 1 s.length) '^')

/-- Errors are red, warnings yellow. -/
def severityStyle : Severity → String
  | .userError => "red"
  | .warning => "yellow"

/-- What is said about a formula, the formula, and a marker under the part that is meant. -/
def diagnosticPrints (source : String) (d : Diagnostic) : List Print :=
  [.figure .out
      (.text (styled (severityStyle d.severity) d.severity.label ++ ": " ++ Markup.escape d.text)),
    .verbatim (indented source), .verbatim (indented (marker d.span))]

end Tabletop.Screen
