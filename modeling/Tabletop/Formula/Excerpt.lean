import Tabletop.Number.Decimal
import Tabletop.Text.Quoted

/-!
# Excerpts

The part of a formula that an error is about, shown as the whole formula with a marker under the
part. A start before the formula and a length below one are shown as well as they can be.
-/
namespace Tabletop

/-- A range of a formula, possibly the formula of a statistic. -/
structure Excerpt where
  formula : String
  start : Int
  length : Int
  owner : Option String
  deriving DecidableEq, Repr

namespace Excerpt

/-- What stands in front of a formula that is shown. -/
def margin : String := "    | "

/-- The line of carets under the part. -/
def marker (e : Excerpt) : String :=
  String.ofList (List.replicate ((margin.length : Int) + e.start).toNat ' ' ++
    List.replicate (max 1 e.length).toNat '^')

/-- Where the part is, in words. -/
def location (e : Excerpt) : String :=
  let owner :=
    match e.owner with
    | some id => if id.isEmpty then "" else " in stat " ++ id
    | none => ""
  "formula " ++ Text.quoted e.formula ++ " at " ++ Decimal.text e.start ++ ":" ++
    Decimal.text (e.start + e.length) ++ owner

/-- The excerpt on three lines. -/
def text (e : Excerpt) : String :=
  e.location ++ "\n" ++ margin ++ e.formula ++ "\n" ++ e.marker

/-- A message under the excerpt. -/
def caption (e : Excerpt) (message : String) : String := e.text ++ "\n" ++ message

end Excerpt

end Tabletop
