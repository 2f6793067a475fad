import Tabletop.Formula.Parse
import Tabletop.Log
import Tabletop.Text.LetterCase

/-!
# Game content

The content of a game: groups of attributes with their skills, the schedules by which both are
upgraded, and the derived statistics with their formulas. Ids are ASCII letters and underscores and
differ in more than letter case; every step of a schedule costs at least one point.
-/
namespace Tabletop

/-- A skill of an attribute. -/
structure SkillEntry where
  id : String
  name : String
  description : String
  deriving DecidableEq, Repr

/-- An attribute with the skills that inherit its level. -/
structure AttributeEntry where
  id : String
  name : String
  description : String
  skills : List SkillEntry
  deriving DecidableEq, Repr

/-- Attributes that are shown together. -/
structure AttributeGroup where
  name : String
  attributes : List AttributeEntry
  deriving DecidableEq, Repr

/-- A statistic that a formula computes. -/
structure DerivedEntry where
  id : String
  name : String
  description : String
  formula : String
  deriving DecidableEq, Repr

/-- The content of a game. -/
structure Content where
  gameVersion : String
  dataVersion : String
  attributeSchedule : List Int
  skillSchedule : List Int
  groups : List AttributeGroup
  derived : List DerivedEntry
  deriving DecidableEq, Repr

namespace Content

/-- No content at all. -/
def empty : Content := ⟨"", "", [], [], [], []⟩

/-- All attributes, group by group. -/
def attributes (c : Content) : List AttributeEntry := c.groups.flatMap AttributeGroup.attributes

/-- The ids of an attribute and its skills. -/
def attributeIds (a : AttributeEntry) : List String := a.id :: a.skills.map SkillEntry.id

/-- Every id of the content as it is written. -/
def ids (c : Content) : List String :=
  c.attributes.flatMap attributeIds ++ c.derived.map DerivedEntry.id

/-! ### The rules of content -/

/-- The characters of ids. -/
def isIdChar (c : Char) : Bool := Token.isLetter c || c == '_'

/-- The texts that may be ids. -/
def isId (id : String) : Bool := !id.isEmpty && id.toList.all isIdChar

/-- What is said about the first text of a list that may not be an id. -/
def idRefusal? (what : String) (ids : List String) : Option String :=
  (ids.find? fun id => !isId id).map fun id =>
    what ++ " id " ++ Text.quoted id ++ " may only contain ASCII letters and underscores"

/-- What is said about a schedule with a step that costs nothing. -/
def scheduleRefusal? (schedule : List Int) : Option String :=
  if schedule.any (· < 1) then some "level-up points must be positive integers" else none

/-- The first member of a list that comes again later, where the second one stands. -/
def firstRepeated? (seen : List String) : List String → Option String
  | [] => none
  | key :: rest => if seen.contains key then some key else firstRepeated? (key :: seen) rest

/-- What is said about two ids that differ at most in letter case. -/
def repeatRefusal? (c : Content) : Option String :=
  (firstRepeated? [] (c.ids.map Text.upper)).map fun key => "Duplicate statistic id: " ++ key

/-! ### Reading -/

/-- A skill under its id. -/
def readSkill (id : String) : Shape SkillEntry :=
  Shape.model fun e =>
    .apply
      (.map (SkillEntry.mk id) (e.optional "displayName" "display_name" Shape.text ""))
      (e.optional "displayDescription" "display_description" Shape.text "")

/-- A table of entries whose keys have to be ids. -/
def entriesUnderIds {α : Type} (what : String) (entry : String → Shape α) : Shape (List α) :=
  fun d =>
    let refusal (found : List (String × α)) := idRefusal? what (found.map Prod.fst)
    (Checked.guarded refusal (Shape.mappingOf entry d)).map fun found => found.map Prod.snd

/-- An attribute under its id. -/
def readAttribute (id : String) : Shape AttributeEntry :=
  Shape.model fun e =>
    .apply
      (.apply
        (.map (AttributeEntry.mk id) (e.optional "displayName" "display_name" Shape.text ""))
        (e.optional "displayDescription" "display_description" Shape.text ""))
      (e.optional "skills" "skills" (entriesUnderIds "Skill" readSkill) [])

/-- A group of attributes. -/
def readGroup : Shape AttributeGroup :=
  Shape.model fun e =>
    .apply
      (.map AttributeGroup.mk (e.optional "displayName" "display_name" Shape.text ""))
      (e.optional "attributes" "attributes" (entriesUnderIds "Attribute" readAttribute) [])

/-- A derived statistic under its id. -/
def readDerived (id : String) : Shape DerivedEntry :=
  Shape.model fun e =>
    .apply
      (.apply
        (.map (DerivedEntry.mk id) (e.optional "displayName" "display_name" Shape.text ""))
        (e.optional "displayDescription" "display_description" Shape.text ""))
      (e.required "formula" "formula" Shape.text)

/-- A schedule. -/
def readSchedule : Shape (List Int) := fun d =>
  Checked.guarded scheduleRefusal? (Shape.listOf Shape.int d)

/-- The fields of the content, each held against its own rules. -/
def readFields : Shape Content :=
  Shape.model fun e =>
    .apply
      (.apply
        (.apply
          (.apply
            (.apply
              (.map Content.mk (e.optional "gameVersion" "game_version" Shape.text ""))
              (e.optional "dataVersion" "data_version" Shape.text ""))
            (e.optional "attributeLevelUpPoints" "attribute_level_up_points" readSchedule []))
          (e.optional "skillLevelUpPoints" "skill_level_up_points" readSchedule []))
        (e.optional "attributeGroups" "attribute_groups" (Shape.listOf readGroup) []))
      (e.optional "derivedStatistics" "derived_statistics"
        (entriesUnderIds "Derived statistic" readDerived) [])

/-- Content from a document. -/
def read : Shape Content := fun d => Checked.guarded repeatRefusal? (readFields d)

/-! ### Remarks -/

/-- No formula can name the id. -/
def isUnnameable (id : String) : Bool := id.toList.contains '_'

/-- What there is to say about content from the given source: the ids that no formula can name, then
all remarks on the formulas. -/
def remarks (source : String) (c : Content) : List Record :=
  (c.ids.filter isUnnameable).map (.unnameable · source) ++
    c.derived.flatMap fun d =>
      .parsing d.formula :: (parse d.formula).messages.map (.derivedRemark d.id source)

end Content

end Tabletop
