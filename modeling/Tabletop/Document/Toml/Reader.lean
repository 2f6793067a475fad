import Tabletop.Document.Toml.Scalar

/-!
# Reading TOML

A TOML text is a sequence of lines that set values under dotted keys and of headers that open tables
and lists of tables. A value is set once. A header opens a table once, what was written inline
cannot be added to, and a table that dotted keys made cannot be opened by a header.
-/
namespace Tabletop.Toml

/-! ### Tables under construction -/

/-- Change the table at the end of a path, making the tables on the way; none if something else
stands there. Where `lists` is true, a list on the way stands for its last member. -/
def changeAt (lists : Bool) (f : Entries → Option Entries) : List String → Entries → Option Entries
  | [], table => f table
  | part :: path, table =>
      match Entries.find? table part with
      | none => (changeAt lists f path []).map fun inner => Entries.put table part (.table inner)
      | some (.table inner) =>
          (changeAt lists f path inner).map fun inner => Entries.put table part (.table inner)
      | some (.list items) =>
          match lists, items.getLast? with
          | true, some (.table inner) =>
              (changeAt lists f path inner).map fun inner =>
                Entries.put table part (.list (items.dropLast ++ [.table inner]))
          | _, _ => none
      | some _ => none

/-- Set a key that is not there yet. -/
def setNew (key : String) (value : Document) (table : Entries) : Option Entries :=
  if Entries.hasKey table key then none else some (Entries.put table key value)

/-- Add an empty table to the list under a key. -/
def addTable (key : String) (table : Entries) : Option Entries :=
  match Entries.find? table key with
  | none => some (Entries.put table key (.list [.table []]))
  | some (.list items) => some (Entries.put table key (.list (items ++ [.table []])))
  | some _ => none

/-- The last part of a key and what comes before it. -/
def splitLast (key : List String) : List String × String := (key.dropLast, key.getLast?.getD "")

/-- A value that was written inline as a whole. -/
def isInline : Document → Bool
  | .table _ => true
  | .list _ => true
  | _ => false

/-- A document under construction. -/
structure Draft where
  data : Entries
  /-- Tables that no header may open. -/
  closed : List (List String)
  /-- Inline values, to which nothing may be added at any depth. -/
  frozen : List (List String)
  /-- Tables that are closed to headers from the next header on. -/
  pending : List (List String)

namespace Draft

def empty : Draft := ⟨[], [], [], []⟩

def isClosed (d : Draft) (key : List String) : Bool := d.closed.contains key

/-- The key lies in an inline value. -/
def isFrozen (d : Draft) (key : List String) : Bool :=
  !key.isEmpty && d.frozen.any fun path => path.isPrefixOf key

/-- Close the tables that were waiting for the next header. -/
def settle (d : Draft) : Draft := { d with closed := d.pending ++ d.closed, pending := [] }

/-- Forget everything about the tables under a key. -/
def forget (d : Draft) (key : List String) : Draft :=
  { d with
    closed := d.closed.filter fun path => !key.isPrefixOf path
    frozen := d.frozen.filter fun path => !key.isPrefixOf path }

def close (d : Draft) (key : List String) : Draft := { d with closed := key :: d.closed }

end Draft

/-! ### Values -/

/-- Blanks, line ends and comments left out. -/
def skipBetween : (fuel : Nat) → List Char → Except Halt (List Char)
  | 0, cs => .ok cs
  | fuel + 1, cs => do
      let rest := skipLines cs
      match rest with
      | '#' :: _ => skipBetween fuel (← skipComment rest)
      | rest => pure rest

/-- Blanks, line ends and comments left out. -/
def skipAll (cs : List Char) : Except Halt (List Char) := skipBetween cs.length cs

/-- A value that is neither a text, a list nor a table. -/
def plainValue (cs : List Char) : Except Halt (Document × List Char) :=
  match Json.word? "true" cs, Json.word? "false" cs with
  | some rest, _ => .ok (.bool true, rest)
  | _, some rest => .ok (.bool false, rest)
  | none, none =>
      match moment? cs, number? cs, wordNumber? cs with
      | some found, _, _ => found
      | none, some found, _ => found
      | none, none, some found => .ok found
      | none, none, none => halt .badValue cs

/-- An inline table under construction, with the keys of the inline values in it. -/
abbrev InlineTable := Entries × List (List String)

/-- Set a dotted key of an inline table; the characters left are for the message. -/
def setInline (table : InlineTable) (key : List String) (value : Document) (cs : List Char) :
    Except Halt InlineTable :=
  let (entries, frozen) := table
  let (path, last) := splitLast key
  if frozen.any fun inline => inline.isPrefixOf key then halt (.immutable key) cs
  else
    match changeAt false some path entries with
    | none => halt .overwrites cs
    | some _ =>
        match changeAt false (setNew last value) path entries with
        | none => halt (.repeatedKey last) cs
        | some entries => .ok (entries, if isInline value then key :: frozen else frozen)

mutual

/-- A value; every step into a list or a table takes one unit of `fuel`. -/
def value : (fuel : Nat) → Reader Document
  | 0, cs => halt .badValue cs
  | fuel + 1, cs =>
      match anyText? cs with
      | some found => found.map fun (chars, rest) => (.text (String.ofList chars), rest)
      | none =>
          match cs with
          | '[' :: rest => do
              match ← skipAll rest with
              | ']' :: rest => pure (.list [], rest)
              | rest => do
                  let (found, rest) ← items fuel rest
                  pure (.list found, rest)
          | '{' :: rest =>
              match skip rest with
              | '}' :: rest => .ok (.table [], rest)
              | rest => do
                  let (found, rest) ← entries fuel ([], []) rest
                  pure (.table found, rest)
          | cs => plainValue cs

/-- The items of a list up to its end. -/
def items : (fuel : Nat) → Reader (List Document)
  | 0, cs => halt .badValue cs
  | fuel + 1, cs => do
      let (first, rest) ← value fuel cs
      match ← skipAll rest with
      | ']' :: rest => pure ([first], rest)
      | ',' :: rest =>
          match ← skipAll rest with
          | ']' :: rest => pure ([first], rest)
          | rest => do
              let (more, rest) ← items fuel rest
              pure (first :: more, rest)
      | rest => halt .openArray rest

/-- The entries of an inline table up to its end. -/
def entries : (fuel : Nat) → InlineTable → Reader Entries
  | 0, _, cs => halt .badValue cs
  | fuel + 1, table, cs => do
      let (path, found, rest) ← pair fuel cs
      let table ← setInline table path found rest
      match skip rest with
      | '}' :: rest => pure (table.1, rest)
      | ',' :: rest => entries fuel table (skip rest)
      | rest => halt .openTable rest

/-- A key with its value. -/
def pair : (fuel : Nat) → List Char → Except Halt (List String × Document × List Char)
  | 0, cs => halt .badValue cs
  | fuel + 1, cs => do
      let (path, rest) ← key cs
      match rest with
      | '=' :: rest =>
          let (found, rest) ← value fuel (skip rest)
          pure (path, found, rest)
      | rest => halt .noEquals rest

end

/-! ### Statements -/

/-- The tables on the way to a dotted key below a header. -/
def tablesOnTheWay (header key : List String) : List (List String) :=
  (List.range' 1 (key.length - 1)).map fun n => header ++ key.take n

/-- Note the tables on the way to a dotted key, none of which may have been opened by a header. -/
def passThrough (cs : List Char) : Draft → List (List String) → Except Halt Draft
  | d, [] => .ok d
  | d, path :: rest =>
      if d.isClosed path then halt (.redefines path) cs
      else passThrough cs { d with pending := path :: d.pending } rest

/-- Set the value of a dotted key below a header. -/
def set (d : Draft) (header key : List String) (found : Document) (cs : List Char) :
    Except Halt Draft := do
  let d ← passThrough cs d (tablesOnTheWay header key)
  let (path, last) := splitLast (header ++ key)
  if d.isFrozen path then halt (.immutable path) cs
  else
    match changeAt true (setNew last found) path d.data with
    | none => halt .overwrites cs
    | some data =>
        let frozen := if isInline found then (header ++ key) :: d.frozen else d.frozen
        pure { d with data := data, frozen := frozen }

/-- A header that opens a table, its bracket already taken. -/
def tableHeader (d : Draft) (cs : List Char) : Except Halt (Draft × List String × List Char) := do
  let (path, rest) ← key (skip cs)
  if d.isClosed path || d.isFrozen path then halt (.declaredTwice path) rest
  else
    match changeAt true some path d.data with
    | none => halt .overwrites rest
    | some data =>
        match rest with
        | ']' :: rest => pure ({ d.close path with data := data }, path, rest)
        | rest => halt .noTableEnd rest

/-- A header that adds a table to a list, its brackets already taken. -/
def arrayHeader (d : Draft) (cs : List Char) : Except Halt (Draft × List String × List Char) := do
  let (path, rest) ← key (skip cs)
  if d.isFrozen path then halt (.immutable path) rest
  else
    let d := (d.forget path).close path
    let (above, last) := splitLast path
    match changeAt true (addTable last) above d.data with
    | none => halt .overwrites rest
    | some data =>
        match rest with
        | ']' :: ']' :: rest => pure ({ d with data := data }, path, rest)
        | rest => halt .noArrayEnd rest

/-- One statement below a header: the draft, the header that holds from then on, and what is left.
-/
def statement (d : Draft) (header : List String) (cs : List Char) :
    Except Halt (Draft × List String × List Char) :=
  match cs with
  | '[' :: '[' :: rest => arrayHeader d.settle rest
  | '[' :: rest => tableHeader d.settle rest
  | '#' :: _ => .ok (d, header, cs)
  | [] => .ok (d, header, [])
  | c :: _ =>
      if isBare c || c == '"' || c == '\'' then do
        let (path, found, rest) ← pair (2 * cs.length) cs
        let d ← set d header path found rest
        pure (d, header, rest)
      else halt .badStatement cs

/-- All lines from here on; each takes one unit of `fuel`. -/
def lines : (fuel : Nat) → Draft → (header : List String) → List Char → Except Halt Entries
  | 0, d, _, _ => .ok d.data
  | fuel + 1, d, header, cs =>
      match skip cs with
      | [] => .ok d.data
      | '\n' :: rest => lines fuel d header rest
      | cs => do
          let (d, header, rest) ← statement d header cs
          match ← skipComment (skip rest) with
          | [] => pure d.data
          | '\n' :: rest => lines fuel d header rest
          | rest => halt .noLineEnd rest

/-! ### Texts -/

/-- What is wrong with a text, and how many of its characters come before that. -/
structure Fault where
  cause : Cause
  offset : Nat
  deriving DecidableEq, Repr

/-- Line ends of two characters made one. -/
def unifyLines : List Char → List Char
  | '\r' :: '\n' :: rest => '\n' :: unifyLines rest
  | c :: rest => c :: unifyLines rest
  | [] => []

/-- Read a text as a table. -/
def read (s : String) : Except Fault Entries :=
  let cs := unifyLines s.toList
  (lines (cs.length + 1) .empty [] cs).mapError fun (cause, left) => ⟨cause, cs.length - left⟩

/-- The cause with its line and column in the text. -/
def Fault.message (fault : Fault) (s : String) : String :=
  let cs := unifyLines s.toList
  let before := cs.take fault.offset
  let place :=
    if cs.length ≤ fault.offset then "end of document"
    else
      "line " ++ Decimal.text (before.count '\n' + 1 : Nat) ++ ", column " ++
        Decimal.text ((before.reverse.takeWhile (· != '\n')).length + 1 : Nat)
  fault.cause.message ++ " (at " ++ place ++ ")"

end Tabletop.Toml
