import Tabletop.Sheet

/-!
# Skills and their owners

A skill belongs to an attribute and adds the level of that attribute to its own. Without its
attribute a skill can still be raised, but it has no value.
-/
namespace Tabletop

/-- A skill with the attribute that owns it, as long as there is one. -/
structure OwnedSkill where
  skill : Skill
  ownerId : String
  owner : Option Attribute
  deriving DecidableEq, Repr

/-- The attribute of a skill is gone. -/
structure OwnerGone where
  owner : String
  skill : String
  deriving DecidableEq, Repr

/-- What is wrong. -/
def OwnerGone.message (e : OwnerGone) : String :=
  "Attribute " ++ e.owner ++ " of skill " ++ e.skill ++ " is gone"

namespace OwnedSkill

/-- The attribute of a skill. -/
def attribute? (s : OwnedSkill) : Except OwnerGone Attribute :=
  match s.owner with
  | some a => .ok a
  | none => .error ⟨s.ownerId, s.skill.id⟩

/-- The level of a skill together with that of its attribute. -/
def value? (s : OwnedSkill) : Except OwnerGone Nat :=
  s.attribute?.map fun a => s.skill.track.level + a.track.level

theorem value?_eq_level? (a : Attribute) (s : Skill) :
    (value? ⟨s, a.id, some a⟩).toOption = (Statistic.ofSkill a s).level? := rfl

end OwnedSkill

end Tabletop
