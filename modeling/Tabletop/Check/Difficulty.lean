import Tabletop.Number.Decimal
import Tabletop.Text.Blank
import Tabletop.Text.LetterCase
import Tabletop.Text.Quoted

/-!
# Difficulty

Six tiers, each with a die of its own. Advantage moves a check to an easier tier and disadvantage to
a harder one; what would lead past the easiest tier or past formidable is kept as a bonus or a
penalty. Nothing moves a check onto the impossible tier or off it.
-/
namespace Tabletop

/-- The tiers, from the easiest to the hardest. -/
inductive Difficulty where
  | trivial
  | easy
  | moderate
  | hard
  | formidable
  | impossible
  deriving DecidableEq, Repr

namespace Difficulty

/-- All tiers, from the easiest to the hardest. -/
def all : List Difficulty := [trivial, easy, moderate, hard, formidable, impossible]

/-- The place of a tier among all. -/
def tier : Difficulty → Nat
  | trivial => 0
  | easy => 1
  | moderate => 2
  | hard => 3
  | formidable => 4
  | impossible => 5

def label : Difficulty → String
  | trivial => "trivial"
  | easy => "easy"
  | moderate => "moderate"
  | hard => "hard"
  | formidable => "formidable"
  | impossible => "impossible"

/-- The number of sides of the die that is rolled. -/
def sides : Difficulty → Nat
  | trivial => 4
  | easy => 6
  | moderate => 8
  | hard => 10
  | formidable => 12
  | impossible => 20

/-- The tier with the given place. -/
def ofTier? (n : Int) : Option Difficulty := all.find? fun d => (d.tier : Int) == n

@[simp] theorem ofTier?_tier (d : Difficulty) : ofTier? d.tier = some d := by
  cases d <;> rfl

/-- The tier of a name, in any letter case and with blanks around it. -/
def ofName? (name : String) : Option Difficulty :=
  all.find? fun d => Text.upper d.label == Text.upper (Text.strip name)

/-- What is said about a name that no tier has. -/
def unknownMessage (name : String) : String :=
  "Unknown difficulty " ++ Text.quoted name ++ " (expected one of: " ++
    String.intercalate ", " (all.map label) ++ ")"

/-- What is said about a place that no tier has. -/
def unknownTierMessage (n : Int) : String :=
  Decimal.text n ++ " is not a valid SkillCheckDifficulty"

end Difficulty

/-- The tier that is rolled, and the advantage that found no tier to move to; positive amounts
favour the roller. -/
structure EffectiveDifficulty where
  rolled : Difficulty
  overflow : Int
  deriving DecidableEq, Repr

/-- The tier of a check after net advantage. -/
def Difficulty.effective (base : Difficulty) (advantage : Int) : EffectiveDifficulty :=
  if base = impossible then ⟨base, 0⟩
  else
    let target : Int := base.tier - advantage
    if target < (trivial.tier : Int) then ⟨trivial, trivial.tier - target⟩
    else if (formidable.tier : Int) < target then ⟨formidable, formidable.tier - target⟩
    else ⟨(ofTier? target).getD base, 0⟩

end Tabletop
