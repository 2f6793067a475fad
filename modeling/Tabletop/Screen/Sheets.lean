import Tabletop.Check.Outcome
import Tabletop.Screen.Cells
import Tabletop.Screen.Formulas
import Tabletop.Session

/-!
# Sheets on the screen

A character is shown with a line on who it is, a table of its attributes, each before its skills,
and a table of the derived statistics. Showing a value finds it anew, so that dice in formulas are
rolled from top to bottom.
-/
namespace Tabletop.Screen

variable {σ : Type}

/-! ### Identity -/

/-- The name, the pronouns if there are any, the level and the age. -/
def headline (i : Identity) : String :=
  styled "bold" (Markup.escape i.name) ++
    (if i.pronouns.isEmpty then "" else " (" ++ Markup.escape i.pronouns ++ ")") ++
    "  level " ++ Decimal.text i.level ++ ", age " ++ Decimal.text i.age

/-- What is said about who a character is. -/
def identityLines (i : Identity) : List String :=
  [headline i] ++
    (if i.power.isEmpty then [] else ["Power: " ++ Markup.escape i.power]) ++
    ["Wealth: " ++ Decimal.text i.wealthRemaining ++ "/" ++ Decimal.text i.wealthWeekly ++
      " weekly"]

/-! ### Statistics -/

/-- The row of a statistic with a track, under a name in markup; none if its progress cannot
be written. -/
def trackRow (roller : Roller σ) (label id : String) (t : Track) (s : Session σ) :
    Option (List String) × Session σ :=
  let (b, after) := s.evaluate roller id
  let row := [label, valueText b, Decimal.text t.level, progressCell s.sheet id]
  (if hasProgressCell s.sheet id then some row else none, after)

/-- The rows of skills, up to one that cannot be written. -/
def skillRows (roller : Roller σ) :
    List Skill → Session σ → Option (List (List String)) × Session σ
  | [], s => (some [], s)
  | skill :: rest, s =>
      match trackRow roller ("  " ++ Markup.escape skill.name) skill.id skill.track s with
      | (none, s) => (none, s)
      | (some row, s) =>
          let (rows, s) := skillRows roller rest s
          (rows.map (row :: ·), s)

/-- The rows of attributes and their skills, up to one that cannot be written. -/
def attributeRows (roller : Roller σ) :
    List Attribute → Session σ → Option (List (List String)) × Session σ
  | [], s => (some [], s)
  | a :: rest, s =>
      match trackRow roller (styled "bold" (Markup.escape a.name)) a.id a.track s with
      | (none, s) => (none, s)
      | (some row, s) =>
          match skillRows roller a.skills s with
          | (none, s) => (none, s)
          | (some skills, s) =>
              let (rows, s) := attributeRows roller rest s
              (rows.map (row :: skills ++ ·), s)

/-- A formula, with a note if it does not parse. -/
def formulaCell (d : Derived) : String :=
  Markup.escape d.formula ++ (if d.isValid then "" else " " ++ styled "red" "(invalid)")

/-- The rows of derived statistics. -/
def derivedRows (roller : Roller σ) : List Derived → Session σ → List (List String) × Session σ
  | [], s => ([], s)
  | d :: rest, s =>
      let (b, s) := s.evaluate roller d.id
      let (rows, s) := derivedRows roller rest s
      ([Markup.escape d.name, valueText b, formulaCell d] :: rows, s)

/-- The table of attributes and skills, if all of it can be written. -/
def attributeTable (roller : Roller σ) (s : Session σ) : Option Grid × Session σ :=
  let (rows, s) := attributeRows roller s.sheet.attributes s
  let columns := ["Statistic", "Value", "Level", "Progress"]
  (rows.map fun rows => ⟨"Attributes and skills", columns, rows⟩, s)

/-- The table of derived statistics; none without any. -/
def derivedTables (roller : Roller σ) (s : Session σ) : List Grid × Session σ :=
  let (rows, s) := derivedRows roller s.sheet.derived s
  let grid : Grid := ⟨"Derived statistics", ["Statistic", "Value", "Formula"], rows⟩
  (if rows.isEmpty then [] else [grid], s)

/-! ### Progress -/

/-- What is said about a change of a level. Changes of points are passed over. -/
def changeLine? (c : Change) : Option String :=
  match c.field with
  | .level =>
      some (styled "bold" c.stat ++ " level " ++ Decimal.text c.old ++ " -> " ++
        Decimal.text c.new)
  | .points => none

/-- No number in the line on progress has too many digits. -/
def hasProgressLine (t : Track) : Bool :=
  Decimal.fits t.points && t.missing?.all fun missing => Decimal.fits missing

/-- How far a statistic has come. -/
def progressLine (id : String) (t : Track) : String :=
  id ++ ": level " ++ Decimal.text t.level ++ ", " ++ Decimal.text t.points ++ " points (" ++
    (match t.missing? with
      | none => "max level"
      | some missing => Decimal.text missing ++ " to next level") ++ ")"

/-! ### Checks -/

/-- The row of an amount that is added. -/
def amountRow (l : BreakdownLine) : List String :=
  [Markup.escape l.label, Markup.escape l.formula, l.amount.display]

/-- The table of what a check was made against. -/
def checkTable (sheet : Sheet) (c : Check) : Grid :=
  let title := ((sheet.find? c.stat).map Statistic.name).getD c.stat
  ⟨Markup.escape sheet.identity.name ++ ": " ++ Markup.escape title ++ " check",
    ["Line", "Source", "Amount"],
    [["Base", c.stat, c.breakdown.base.display]] ++ c.breakdown.lines.map amountRow ++
      [[styled "bold" "Skill value", "", c.value.display]]⟩

/-- The tier that was rolled for, and the one that it comes from. -/
def difficultyLine (c : Check) : String :=
  "Difficulty: " ++ c.rolled.label ++
    (if c.rolled = c.base then "" else " (from " ++ c.base.label ++ ")")

/-- The die. -/
def dieLine (c : Check) : String :=
  "Rolled " ++ Decimal.text c.die ++ " on d" ++ Decimal.text c.rolled.sides

end Tabletop.Screen
