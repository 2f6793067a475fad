import Tabletop.Document.Literal
import Tabletop.Document.Yaml.Node

/-!
# Reading YAML

A text is cut into tokens, the tokens make a tree of nodes, and the nodes stand for data. There has
to be one document in a text, and its mappings need keys that are scalars. Names of tags cannot be
declared, and a node cannot stand inside itself.
-/
namespace Tabletop.Yaml

/-- Characters that may stand in a text. -/
def isAllowed (c : Char) : Bool :=
  let n := c.toNat
  n == 9 || n == 10 || n == 13 || (0x20 ≤ n && n ≤ 0x7E) || n == 0x85 || (0xA0 ≤ n && n ≤ 0xFFFD) ||
    0x10000 ≤ n

/-! ### Mappings -/

/-- Entries under any keys, each put in front with its key; a key that is already there keeps its
place. -/
def putPair (key value : Document) : List (Document × Document) → List (Document × Document)
  | [] => [(key, value)]
  | entry :: rest =>
      if entry.1.literal == key.literal then (entry.1, value) :: rest
      else entry :: putPair key value rest

/-- The text that a key is. -/
def keyText? : Document → Option String
  | .text s => some s
  | _ => none

/-- The table of entries under any keys, a later one in the place of an earlier one. -/
def tableOf (entries : List (Document × Document)) : Document :=
  match entries.mapM fun (key, value) => (keyText? key).map (·, value) with
  | some found => .table (Entries.ofList found)
  | none => .mixed (entries.foldl (fun table (key, value) => putPair key value table) [])

/-- Texts as keys make a plain table. -/
theorem tableOf_texts (entries : Entries) :
    tableOf (entries.map fun (key, value) => (.text key, value)) =
      .table (Entries.ofList entries) := by
  have found : (entries.map fun (key, value) => (Document.text key, value)).mapM
      (fun (key, value) => (keyText? key).map (·, value)) = some entries := by
    induction entries with
    | nil => rfl
    | cons entry rest ih =>
        rw [List.map_cons, List.mapM_cons, ih]
        rfl
  simp [tableOf, found]

/-- The entries of a table. -/
def pairsOf? : Document → Option (List (Document × Document))
  | .table entries => some (entries.map fun (key, value) => (.text key, value))
  | .mixed entries => some entries
  | _ => none

/-- The entries that a mapping takes over: those of a table, or of a list of tables of which the
first one counts most. -/
def merged (d : Document) : Except Fault (List (Document × Document)) :=
  let found :=
    match d with
    | .list items => (items.reverse.mapM pairsOf?).map List.flatten
    | d => pairsOf? d
  match found with
  | some entries => .ok entries
  | none => .error .malformed

/-- The key that a value is; lists and tables are none. -/
def keyOf (d : Document) : Except Fault Document :=
  match d with
  | .list _ | .table _ | .mixed _ => .error .malformed
  | d => .ok d

/-! ### Data -/

namespace Node

/-- What a scalar stands for: a quoted one is a text unless a tag says something else. -/
def scalarValue (tag : Option Tag) (isPlain : Bool) (cs : List Char) : Except Fault Document :=
  match tag, isPlain with
  | some t, _ => taggedValue t cs
  | none, true => plainValue cs
  | none, false => .ok (.text (String.ofList cs))

/-- The key is a plain scalar of the given kind. -/
def isPlainKey (is : List Char → Bool) : Node → Bool
  | scalar none true cs => is cs
  | _ => false

/-- The value, if a tag allows it. -/
def checked (tag : Option Tag) (own : Tag) (d : Document) : Except Fault Document :=
  if tag.all fun t => t == own || t == .unspecific then .ok d else .error .malformed

mutual

/-- The data that a node stands for. -/
def value : Node → Except Fault Document
  | scalar tag isPlain cs => scalarValue tag isPlain cs
  | list tag items => do
      let found ← values items
      checked tag .list (.list found)
  | table tag entries => do
      let (taken, own) ← pairs entries
      checked tag .table (tableOf (taken ++ own))

/-- The data that nodes stand for. -/
def values : List Node → Except Fault (List Document)
  | [] => .ok []
  | n :: rest => do
      let d ← value n
      let more ← values rest
      pure (d :: more)

/-- The entries that a mapping takes over, and its own. -/
def pairs : List (Node × Node) →
    Except Fault (List (Document × Document) × List (Document × Document))
  | [] => .ok ([], [])
  | (key, n) :: rest =>
      if key.isPlainKey isMerge then do
        let taken ← merged (← value n)
        let (more, own) ← pairs rest
        pure (taken ++ more, own)
      else do
        let k ← if key.isPlainKey isDefault then .ok (.text "=") else keyOf (← value key)
        let d ← value n
        let (taken, own) ← pairs rest
        pure (taken, (k, d) :: own)

end

end Node

/-- Read a text as a document. What cannot be read at all counts only if nothing before it is out
of place. -/
def read (s : String) : Except Fault Document :=
  let cs := s.toList
  if !cs.all isAllowed then .error .malformed
  else
    match tokens cs with
    | .ok ts =>
        match Feed.only ts with
        | .ok n => n.value
        | .error _ => .error .malformed
    | .error stopped =>
        match Feed.only stopped.tokens with
        | .error .misplaced => .error .malformed
        | _ => .error stopped.fault

end Tabletop.Yaml
