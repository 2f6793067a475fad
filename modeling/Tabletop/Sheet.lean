import Tabletop.Content

/-!
# Character sheets

A sheet holds who a character is, the statistics that the content gives it, the modifiers on them
and the checks that were made. Attributes own their skills. Statistics are found by their uppercase
ids.
-/
namespace Tabletop

/-- Who a character is. -/
structure Identity where
  name : String
  pronouns : String
  power : String
  level : Int
  age : Int
  wealthWeekly : Int
  wealthRemaining : Int
  deriving DecidableEq, Repr

/-- Nobody yet. -/
def Identity.blank : Identity := ⟨"", "", "", 0, 18, 0, 0⟩

/-- A skill with its own progress. -/
structure Skill where
  id : String
  name : String
  description : String
  track : Track
  deriving DecidableEq, Repr

/-- An attribute with its progress and its skills. -/
structure Attribute where
  id : String
  name : String
  description : String
  track : Track
  skills : List Skill
  deriving DecidableEq, Repr

/-- A statistic that a formula computes. -/
structure Derived where
  id : String
  name : String
  description : String
  formula : String
  deriving DecidableEq, Repr

namespace Derived

/-- The formula, parsed. -/
def parsed (d : Derived) : Parse := parse d.formula

/-- The formula has a term. -/
def isValid (d : Derived) : Bool := d.parsed.term.isSome

/-- The term of the formula; zero stands in for one that does not parse. -/
def term (d : Derived) : Term := d.parsed.term.getD .zero

end Derived

/-- A modifier on a statistic: its formula is evaluated whenever the statistic is. -/
structure Modifier where
  stat : String
  label : String
  formula : String
  deriving DecidableEq, Repr

/-- A statistic of a sheet. A skill comes with the attribute that owns it. -/
inductive Statistic where
  | ofAttribute (a : Attribute)
  | ofSkill (owner : Attribute) (s : Skill)
  | ofDerived (d : Derived)
  deriving DecidableEq, Repr

namespace Statistic

def id : Statistic → String
  | ofAttribute a => a.id
  | ofSkill _ s => s.id
  | ofDerived d => d.id

/-- The name that is shown. -/
def name : Statistic → String
  | ofAttribute a => a.name
  | ofSkill _ s => s.name
  | ofDerived d => d.name

def description : Statistic → String
  | ofAttribute a => a.description
  | ofSkill _ s => s.description
  | ofDerived d => d.description

/-- The progress of an attribute or a skill. -/
def track? : Statistic → Option Track
  | ofAttribute a => some a.track
  | ofSkill _ s => some s.track
  | ofDerived _ => none

/-- The value of an attribute or a skill without modifiers: a skill adds the level of its attribute
to its own. -/
def level? : Statistic → Option Nat
  | ofAttribute a => some a.track.level
  | ofSkill owner s => some (s.track.level + owner.track.level)
  | ofDerived _ => none

/-- The statistic on one line, for display. -/
def describe : Statistic → String
  | ofAttribute a => a.track.describe "CharacterAttribute" a.id
  | ofSkill _ s => s.track.describe "CharacterSkill" s.id
  | ofDerived d => "DerivedStat(" ++ Text.quoted d.id ++ ", " ++ Text.quoted d.formula ++ ")"

end Statistic

/-- The sheet of a character. -/
structure Sheet where
  identity : Identity
  attributes : List Attribute
  derived : List Derived
  modifiers : List Modifier
  history : List Check
  deriving DecidableEq, Repr

namespace Sheet

/-! ### Statistics -/

/-- The skills of all attributes. -/
def skills (sheet : Sheet) : List Skill := sheet.attributes.flatMap Attribute.skills

/-- An attribute after its skills. -/
def family (a : Attribute) : List Statistic :=
  a.skills.map (Statistic.ofSkill a) ++ [Statistic.ofAttribute a]

/-- All statistics: every attribute after its skills, then the derived ones. -/
def statistics (sheet : Sheet) : List Statistic :=
  sheet.attributes.flatMap family ++ sheet.derived.map Statistic.ofDerived

/-- The statistic of an id in upper case. -/
def statistic? (sheet : Sheet) (id : String) : Option Statistic :=
  sheet.statistics.find? fun stat => stat.id == id

/-- The statistic of an id in any letter case. -/
def find? (sheet : Sheet) (name : String) : Option Statistic := sheet.statistic? (Text.upper name)

/-- The track of an id in upper case. -/
def track? (sheet : Sheet) (id : String) : Option Track :=
  (sheet.statistic? id).bind Statistic.track?

/-- Change the track of an attribute and those of its skills, each according to its id. -/
def mapFamily (f : String → Track → Track) (a : Attribute) : Attribute :=
  { a with
    track := f a.id a.track
    skills := a.skills.map fun s => { s with track := f s.id s.track } }

/-- Change every track according to its id. -/
def mapTracks (f : String → Track → Track) (sheet : Sheet) : Sheet :=
  { sheet with attributes := sheet.attributes.map (mapFamily f) }

/-- Put the statistic of an id on another track. -/
def setTrack (sheet : Sheet) (id : String) (track : Track) : Sheet :=
  sheet.mapTracks fun other old => if other == id then track else old

/-! ### Building -/

/-- A name, or the id if the name is empty. -/
def shownName (name id : String) : String := if name.isEmpty then id else name

def skillOf (schedule : List Int) (s : SkillEntry) : Skill :=
  let id := Text.upper s.id
  ⟨id, shownName s.name id, s.description, Track.start schedule⟩

def attributeOf (c : Content) (a : AttributeEntry) : Attribute :=
  let id := Text.upper a.id
  ⟨id, shownName a.name id, a.description, Track.start c.attributeSchedule,
    a.skills.map (skillOf c.skillSchedule)⟩

def derivedOf (d : DerivedEntry) : Derived :=
  let id := Text.upper d.id
  ⟨id, shownName d.name id, d.description, d.formula⟩

/-- A new sheet: nobody yet, every level zero. -/
def ofContent (c : Content) : Sheet :=
  ⟨.blank, c.attributes.map (attributeOf c), c.derived.map derivedOf, [], []⟩

/-- The records on the formula of a derived statistic. -/
def formulaRecords (d : Derived) : List Record :=
  .parsing d.formula ::
    (if d.isValid then [] else [.derivedUnparsed d.id d.formula d.parsed.messages])

/-- The records that building a sheet leaves. -/
def buildRecords (sheet : Sheet) : List Record :=
  sheet.derived.flatMap formulaRecords ++
    [.built sheet.attributes.length sheet.skills.length sheet.derived.length]

/-! ### Modifiers -/

/-- The modifiers on a statistic, in order. -/
def modifiersOn (sheet : Sheet) (id : String) : List Modifier :=
  sheet.modifiers.filter fun m => m.stat == id

/-- Put a modifier on a statistic; none if there is no such statistic. -/
def addModifier? (sheet : Sheet) (name label formula : String) : Option (Modifier × Sheet) :=
  (sheet.find? name).map fun stat =>
    let m : Modifier := ⟨stat.id, label, formula⟩
    (m, { sheet with modifiers := sheet.modifiers ++ [m] })

/-- Take away the first modifier that equals the given one; none if there is none. -/
def removeModifier? (sheet : Sheet) (m : Modifier) : Option Sheet :=
  if sheet.modifiers.contains m then some { sheet with modifiers := sheet.modifiers.erase m }
  else none

/-- Take away all modifiers. -/
def clearModifiers (sheet : Sheet) : Sheet := { sheet with modifiers := [] }

/-- Take away the modifiers on one statistic. -/
def clearModifiersOn (sheet : Sheet) (name : String) : Sheet :=
  { sheet with modifiers := sheet.modifiers.filter fun m => m.stat != Text.upper name }

end Sheet

end Tabletop
