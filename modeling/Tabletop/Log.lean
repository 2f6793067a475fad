import Tabletop.Check.Score
import Tabletop.Formula.Span
import Tabletop.Track

/-!
# The log

What happens on the way is written down as records. A record is data; its level, the part of the
program that it comes from and its text are read off it.
-/
namespace Tabletop

/-- How much a record weighs. -/
inductive LogLevel where
  | debug
  | info
  | warning
  | error
  | critical
  deriving DecidableEq, Repr

namespace LogLevel

def all : List LogLevel := [debug, info, warning, error, critical]

def label : LogLevel → String
  | debug => "DEBUG"
  | info => "INFO"
  | warning => "WARNING"
  | error => "ERROR"
  | critical => "CRITICAL"

/-- Levels are compared by these numbers. -/
def rank : LogLevel → Nat
  | debug => 10
  | info => 20
  | warning => 30
  | error => 40
  | critical => 50

/-- The level of a name. -/
def ofLabel? (name : String) : Option LogLevel := all.find? fun level => level.label == name

@[simp] theorem ofLabel?_label (level : LogLevel) : ofLabel? level.label = some level := by
  cases level <;> rfl

end LogLevel

/-- The two kinds of statistics that are saved. -/
inductive SavedKind where
  | attributes
  | skills
  deriving DecidableEq, Repr

def SavedKind.label : SavedKind → String
  | attributes => "attribute"
  | skills => "skill"

/-- Something that happened. -/
inductive Record where
  /-- A formula is about to be parsed. -/
  | parsing (formula : String)
  /-- A formula refers to a statistic that is being evaluated. -/
  | circular (stat : String)
  | rolled (source : String) (values : List Int)
  /-- The formula of a derived statistic does not parse. -/
  | derivedUnparsed (stat formula : String) (messages : List Diagnostic)
  | changed (change : Change)
  | built (attributes skills derived : Nat)
  /-- The formula of a modifier does not parse. -/
  | modifierUnparsed (label stat formula : String)
  | checkUnknown (name : String)
  | checked (stat : String) (die : Int) (sides : Nat) (value degree : Number)
  /-- An id that no formula can name. -/
  | unnameable (id source : String)
  | derivedRemark (id source : String) (message : Diagnostic)
  | contentLoaded (path gameVersion dataVersion : String)
  /-- A saved id that the content does not have. -/
  | savedUnknown (kind : SavedKind) (id : String)
  /-- Saved progress that the schedule does not reach. -/
  | savedUnreachable (kind : SavedKind) (id reason : String)
  | characterSaved (name path : String)
  deriving DecidableEq, Repr

namespace Record

def level : Record → LogLevel
  | circular _ | derivedUnparsed .. | modifierUnparsed .. | unnameable .. | derivedRemark ..
  | savedUnreachable .. => .warning
  | checkUnknown _ | savedUnknown .. => .info
  | _ => .debug

/-- The part of the program that a record comes from. -/
def origin : Record → String
  | parsing _ => "charsheet.core.formula.parser"
  | circular _ | rolled .. => "charsheet.core.formula.evaluator"
  | derivedUnparsed .. | changed _ => "charsheet.core.stats"
  | built .. | modifierUnparsed .. => "charsheet.core.sheet"
  | checkUnknown _ | checked .. => "charsheet.core.skill_check"
  | unnameable .. | derivedRemark .. | contentLoaded .. => "charsheet.core.gamedata_loader"
  | savedUnknown .. | savedUnreachable .. | characterSaved .. => "charsheet.core.persistence"

/-- The integers between brackets, unless one has too many digits. -/
def listText? (values : List Int) : Option String :=
  (values.mapM Decimal.text?).map fun texts => "[" ++ String.intercalate ", " texts ++ "]"

/-- A version, or a question mark for none. -/
def versionText (version : String) : String := if version.isEmpty then "?" else version

/-- The text of a record. A record that holds an integer with too many digits has none. -/
def text? : Record → Option String
  | parsing formula => some ("Parsing formula " ++ Text.quoted formula)
  | circular stat => some ("Circular reference to statistic " ++ stat)
  | rolled source values =>
      (listText? values).map fun values => "Rolled " ++ source ++ ": " ++ values
  | derivedUnparsed stat formula messages =>
      some ("Formula for " ++ stat ++ " does not parse, using 0: " ++ Text.quoted formula ++ " (" ++
        String.intercalate "; " (messages.map Diagnostic.line) ++ ")")
  | changed change =>
      if Decimal.fits change.old && Decimal.fits change.new then
        some ("Stat changed: " ++ change.line)
      else none
  | built attributes skills derived =>
      some ("Built sheet with " ++ Decimal.text attributes ++ " attributes, " ++
        Decimal.text skills ++ " skills, " ++ Decimal.text derived ++ " derived statistics")
  | modifierUnparsed label stat formula =>
      some ("Modifier " ++ Text.quoted label ++ " on " ++ stat ++ " does not parse: " ++
        Text.quoted formula)
  | checkUnknown name => some ("Skill check against unknown statistic " ++ Text.quoted name)
  | checked stat die sides value degree => do
      let die ← Decimal.text? die
      let value ← value.logText?
      let degree ← degree.logText?
      some ("Skill check " ++ stat ++ ": rolled " ++ die ++ " on d" ++ Decimal.text sides ++
        " against " ++ value ++ " (degree " ++ degree ++ ")")
  | unnameable id source =>
      some ("Statistic id " ++ id ++ " in " ++ source ++
        " contains '_' and cannot be referenced from formulas")
  | derivedRemark id source message =>
      some ("Derived statistic " ++ id ++ " in " ++ source ++ ": " ++ message.line)
  | contentLoaded path gameVersion dataVersion =>
      some ("Loaded game data " ++ path ++ " (game " ++ versionText gameVersion ++ ", data " ++
        versionText dataVersion ++ ")")
  | savedUnknown kind id =>
      some ("Skipping saved " ++ kind.label ++ " " ++ id ++ ": not in the current game data")
  | savedUnreachable kind id reason =>
      some ("Skipping saved " ++ kind.label ++ " " ++ id ++ ": " ++ reason)
  | characterSaved name path => some ("Saved character " ++ Text.quoted name ++ " to " ++ path)

end Record

/-- The records of a run, the latest first. -/
structure Journal where
  latest : List Record
  deriving DecidableEq, Repr

namespace Journal

def empty : Journal := ⟨[]⟩

/-- Write down a record. -/
def add (j : Journal) (r : Record) : Journal := ⟨r :: j.latest⟩

/-- Write down records in order. -/
def addAll (j : Journal) (rs : List Record) : Journal := rs.foldl add j

/-- The records in the order in which they were written. -/
def records (j : Journal) : List Record := j.latest.reverse

@[simp] theorem records_empty : empty.records = [] := rfl

@[simp] theorem records_add (j : Journal) (r : Record) : (j.add r).records = j.records ++ [r] := by
  simp [records, add]

@[simp] theorem records_addAll (j : Journal) (rs : List Record) :
    (j.addAll rs).records = j.records ++ rs := by
  induction rs generalizing j with
  | nil => simp [addAll]
  | cons r rs ih =>
      have := ih (j.add r)
      simp only [addAll, List.foldl_cons] at this ⊢
      simp [this]

end Journal

end Tabletop
