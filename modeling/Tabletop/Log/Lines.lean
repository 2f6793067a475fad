import Tabletop.Log

/-!
# The log on the screen

Of a journal only the records of some level or above are shown, each on a line of its own, or on
several lines if its text has line feeds. A formula that was parsed lately is remembered and not
parsed again, so its parsing is shown once while it is remembered.
-/
namespace Tabletop

/-- A record with its level and origin, as it is written. -/
def Record.written? (r : Record) : Option String :=
  r.text?.map fun text => "[" ++ r.level.label ++ "] " ++ r.origin ++ ": " ++ text

/-- The lines of a record. A record without a text has none. -/
def Record.lines (r : Record) : List String :=
  match r.written? with
  | none => []
  | some written => (written.toList.splitOn '\n').map String.ofList

/-- How many formulas are remembered. -/
def Record.memory : Nat := 1024

/-- The records without the parsing of formulas that are among the remembered ones, the latest
first. -/
def Record.remembering (formulas : List String) : List Record → List Record
  | [] => []
  | .parsing formula :: rest =>
      if formulas.contains formula then remembering (formula :: formulas.erase formula) rest
      else .parsing formula :: remembering ((formula :: formulas).take memory) rest
  | r :: rest => r :: remembering formulas rest

/-- The lines of a journal at a level. -/
def Journal.lines (level : LogLevel) (j : Journal) : List String :=
  (Record.remembering [] j.records).flatMap fun r =>
    if level.rank ≤ r.level.rank then r.lines else []

end Tabletop
