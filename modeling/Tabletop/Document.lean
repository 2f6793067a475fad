import Tabletop.Document.Moment
import Tabletop.Number.Binary64

/-!
# Documents

The data that configuration, content and character files hold, whichever notation they are written
in: a tree of tables and lists over texts, numbers, moments and truth values. A table keeps its
entries in the order in which their keys first appeared.
-/
namespace Tabletop

/-- A tree of data. -/
inductive Document where
  | null
  | bool (b : Bool)
  | int (n : Int)
  | real (x : Binary64)
  | text (s : String)
  | moment (m : Moment)
  | list (items : List Document)
  | table (entries : List (String × Document))
  /-- A table some of whose keys are not texts. -/
  | mixed (entries : List (Document × Document))
  deriving Inhabited, Repr

/-- A table, whatever its keys are. -/
def Document.isMapping : Document → Bool
  | table _ | mixed _ => true
  | _ => false

/-- The entries of a table, in order. -/
abbrev Entries := List (String × Document)

namespace Entries

/-- Whether the key is there. -/
def hasKey (entries : Entries) (key : String) : Bool := entries.any fun entry => entry.1 == key

/-- The value at a key. -/
def find? (entries : Entries) (key : String) : Option Document :=
  entries.findSome? fun entry => if entry.1 == key then some entry.2 else none

/-- Set the value at a key; a key that is already there keeps its place. -/
def put : Entries → String → Document → Entries
  | [], key, value => [(key, value)]
  | entry :: rest, key, value =>
      if entry.1 == key then (key, value) :: rest else entry :: put rest key value

/-- The table of a list of entries in which a later entry replaces an earlier one of the same key.
-/
def ofList (entries : List (String × Document)) : Entries :=
  entries.foldl (fun table entry => put table entry.1 entry.2) []

theorem find?_cons (entry : String × Document) (rest : Entries) (key : String) :
    find? (entry :: rest) key = if entry.1 = key then some entry.2 else find? rest key := by
  by_cases h : entry.1 = key <;> simp [find?, h]

theorem find?_put (entries : Entries) (key other : String) (value : Document) :
    find? (put entries key value) other =
      if key = other then some value else find? entries other := by
  induction entries with
  | nil => by_cases h : key = other <;> simp [put, find?, h]
  | cons entry rest ih =>
      by_cases known : entry.1 = key
      · subst known
        by_cases h : entry.1 = other <;> simp [put, find?_cons, h]
      · by_cases h : entry.1 = other
        · have differ : key ≠ other := fun e => known (h.trans e.symm)
          simp [put, find?_cons, h, differ, differ.symm]
        · simp [put, known, find?_cons, h, ih]

/-- A new key comes last. -/
theorem keys_put (entries : Entries) (key : String) (value : Document) :
    (put entries key value).map Prod.fst =
      if hasKey entries key then entries.map Prod.fst else entries.map Prod.fst ++ [key] := by
  induction entries with
  | nil => rfl
  | cons entry rest ih =>
      by_cases known : entry.1 = key
      · simp [put, hasKey, known]
      · by_cases h : hasKey rest key <;> simp_all [put, hasKey]

end Entries

end Tabletop
