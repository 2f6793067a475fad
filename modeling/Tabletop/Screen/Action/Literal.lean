import Tabletop.Number.Binary64
import Tabletop.Screen.Action.Lexeme

/-!
# Literals

A literal is a value that is written out: a number, with a sign or as the sum of a real and an
imaginary one, a text, a constant, or a tuple, a set or a table of literals. Members of sets and
keys of tables must not change, so neither sets nor tables, nor tuples that hold one, can be there.
-/
namespace Tabletop.Action.Literal

/-- What a literal is. -/
inductive Kind where
  /-- A real number, with a sign or not; a far one is past the range of binary numbers. -/
  | real (signed far : Bool)
  /-- An imaginary number without a sign. -/
  | imaginary
  /-- Any other value that cannot change. -/
  | fixed
  /-- A set or a table, or a tuple that holds one. -/
  | changing
  /-- The name of the function that makes sets, which is no literal yet. -/
  | maker
  deriving DecidableEq, Repr

namespace Kind

/-- The kind of a value, not of a mere name. -/
def isValue (kind : Kind) : Bool := kind != maker

/-- The kind of a value that a set can hold. -/
def isKey (kind : Kind) : Bool := kind != maker && kind != changing

/-- The kind of a number with a sign in front. -/
def signed? : Kind → Option Kind
  | real false far => some (real true far)
  | imaginary => some fixed
  | _ => none

/-- The kind of the sum or difference of two numbers. -/
def sum? : Kind → Kind → Option Kind
  | real _ false, imaginary => some fixed
  | _, _ => none

/-- The kind of a tuple. -/
def tuple? (kinds : List Kind) : Option Kind :=
  if kinds.all isKey then some fixed
  else if kinds.all isValue then some changing
  else none

/-- What cannot change is a value. -/
theorem isValue_of_isKey {kind : Kind} (h : kind.isKey) : kind.isValue := by
  cases kind <;> simp_all [isKey, isValue]

/-- A tuple can be a member of a set exactly if all that it holds can. -/
theorem tuple?_eq_fixed_iff {kinds : List Kind} :
    tuple? kinds = some fixed ↔ ∀ kind ∈ kinds, kind.isKey := by
  unfold tuple?
  split
  · simp_all [List.all_eq_true]
  · split <;> simp_all [List.all_eq_true]

/-- The kind of a table or a set, by its keys with what they stand for, or by its members. -/
def table? (entries : List (Kind × Option Kind)) : Option Kind :=
  let isSet := !entries.isEmpty && entries.all fun (_, value) => value.isNone
  let isTable := entries.all fun (_, value) => value.any isValue
  if (isSet || isTable) && entries.all fun (key, _) => key.isKey then some changing else none

end Kind

/-- Items with commas between them and perhaps one at the end: what they are, whether there is
a comma, and the rest. -/
def items {α : Type} (item? : List Lexeme → Option (α × List Lexeme)) :
    Nat → List Lexeme → List α × Bool × List Lexeme
  | 0, ls => ([], false, ls)
  | fuel + 1, ls =>
      match item? ls with
      | none => ([], false, ls)
      | some (item, .mark ',' :: rest) =>
          let (found, _, rest) := items item? fuel rest
          (item :: found, true, rest)
      | some (item, rest) => ([item], false, rest)

/-- A key with what it stands for behind a colon, or a member. -/
def member? (value? : List Lexeme → Option (Kind × List Lexeme)) (ls : List Lexeme) :
    Option ((Kind × Option Kind) × List Lexeme) := do
  let (key, rest) ← value? ls
  match rest with
  | .mark ':' :: rest =>
      let (value, rest) ← value? rest
      some ((key, some value), rest)
  | rest => some ((key, none), rest)

/-- What stands between parentheses: one literal, or a tuple. -/
def group? (value? : List Lexeme → Option (Kind × List Lexeme)) (ls : List Lexeme) :
    Option (Kind × List Lexeme) :=
  match items value? ls.length ls with
  | ([kind], false, .mark ')' :: rest) => some (kind, rest)
  | (kinds, _, .mark ')' :: rest) => (Kind.tuple? kinds).map fun kind => (kind, rest)
  | _ => none

/-- What stands between braces: a table or a set. -/
def braces? (value? : List Lexeme → Option (Kind × List Lexeme)) (ls : List Lexeme) :
    Option (Kind × List Lexeme) :=
  match items (member? value?) ls.length ls with
  | (entries, _, .mark '}' :: rest) => (Kind.table? entries).map fun kind => (kind, rest)
  | _ => none

/-- A literal without a sign, or the name of the function that makes sets. Texts next to each other
are one. -/
def plain? (value? : List Lexeme → Option (Kind × List Lexeme)) :
    List Lexeme → Option (Kind × List Lexeme)
  | .whole n :: rest => some (.real false !(Binary64.ofInt n).isFinite, rest)
  | .fraction :: rest => some (.real false false, rest)
  | .imaginary :: rest => some (.imaginary, rest)
  | .constant :: rest => some (.fixed, rest)
  | .text :: rest => some (.fixed, rest.dropWhile (· == .text))
  | .bytes :: rest => some (.fixed, rest.dropWhile (· == .bytes))
  | .maker :: rest => some (.maker, rest)
  | .mark '(' :: rest => group? value? rest
  | .mark '{' :: rest => braces? value? rest
  | _ => none

/-- A literal without a sign. The function that makes sets makes an empty one when it is called. -/
def unsigned? (value? : List Lexeme → Option (Kind × List Lexeme)) (ls : List Lexeme) :
    Option (Kind × List Lexeme) :=
  match plain? value? ls with
  | some (.maker, .mark '(' :: .mark ')' :: rest) => some (.changing, rest)
  | found => found

/-- The rest behind a sign. -/
def afterSign? : List Lexeme → Option (List Lexeme)
  | .mark '+' :: rest | .mark '-' :: rest => some rest
  | _ => none

/-- A literal, and the rest behind it. The fuel bounds how deep it is nested. -/
def value? : Nat → List Lexeme → Option (Kind × List Lexeme)
  | 0, _ => none
  | fuel + 1, ls => do
      let (kind, rest) ←
        match afterSign? ls with
        | none => unsigned? (value? fuel) ls
        | some ls => do
            let (kind, rest) ← unsigned? (value? fuel) ls
            some (← kind.signed?, rest)
      match afterSign? rest with
      | none => some (kind, rest)
      | some ls => do
          let (other, rest) ← unsigned? (value? fuel) ls
          some (← kind.sum? other, rest)

/-- The lexemes are a literal, or several with commas between them. -/
def isWritten (ls : List Lexeme) : Bool :=
  match items (value? (ls.length + 1)) (ls.length + 1) ls with
  | (kinds, _, []) => !kinds.isEmpty && kinds.all Kind.isValue
  | _ => false

end Tabletop.Action.Literal
