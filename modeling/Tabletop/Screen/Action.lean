import Tabletop.Screen.Action.Literal
import Tabletop.Text.Alphanumeric
import Tabletop.Text.Blank
import Tabletop.Text.Line

/-!
# Actions

A tag can name an action with parameters: the name of a handler, a handler with arguments in
parentheses, or a value. Arguments and values are literals.
-/
namespace Tabletop.Action

/-- The characters of the names of handlers. -/
def isHandlerChar (c : Char) : Bool := c == '_' || c == '.' || Text.isAlphanumeric c

/-- The characters are literals with commas between them. A null character spoils them wherever it
stands. -/
def isLiteral (cs : List Char) : Bool :=
  !cs.contains '\x00' && (Lexeme.scan? (Text.unifyLines cs)).any Literal.isWritten

/-- The parameters of an action can be read. The arguments of a handler go up to the end, all on one
line. -/
def isReadable (parameters : List Char) : Bool :=
  let cs := Text.trimWhere Text.isBlank parameters
  match cs.dropWhile isHandlerChar with
  | [] => true
  | '(' :: rest =>
      let isCall := rest.getLast? == some ')' && !rest.contains '\n'
      isLiteral (if isCall then '(' :: rest else cs)
  | _ => isLiteral cs

end Tabletop.Action
