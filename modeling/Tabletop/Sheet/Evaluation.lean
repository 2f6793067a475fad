import Tabletop.Dice.Roller
import Tabletop.Formula.Draft
import Tabletop.Formula.Evaluated
import Tabletop.Sheet

/-!
# Evaluating formulas

Formulas are evaluated against a sheet. A name stands for the value of a statistic, which may take
formulas of its own: those of derived statistics and of modifiers. While a statistic is being
evaluated it is marked, and a name that refers back to a marked statistic counts as zero, with a
warning. So the statistics in evaluation are never nested deeper than the sheet has statistics,
which is the depth that evaluation starts from.

An evaluation goes through a `Course`: the dice to roll, the marks, the messages so far and the
journal.
-/
namespace Tabletop

/-- What an evaluation goes on from. -/
structure Course (σ : Type) where
  dice : σ
  /-- The statistics that are being evaluated. -/
  marks : List String
  messages : List Diagnostic
  journal : Journal

namespace Course

variable {σ : Type}

/-- Nothing is marked and nothing has been said. -/
def fresh (dice : σ) (journal : Journal) : Course σ := ⟨dice, [], [], journal⟩

/-- The statistic is being evaluated. -/
def isMarked (c : Course σ) (id : String) : Bool := c.marks.contains id

/-- Mark a statistic as being evaluated. -/
def mark (c : Course σ) (id : String) : Course σ :=
  if c.isMarked id then c else { c with marks := id :: c.marks }

/-- Take the mark of a statistic away. -/
def unmark (c : Course σ) (id : String) : Course σ :=
  { c with marks := c.marks.filter (· != id) }

@[simp] theorem isMarked_mark (c : Course σ) (id other : String) :
    (c.mark id).isMarked other = (other == id || c.isMarked other) := by
  by_cases h : c.isMarked id <;> by_cases e : other = id <;> simp_all [mark, isMarked]

@[simp] theorem isMarked_unmark (c : Course σ) (id other : String) :
    (c.unmark id).isMarked other = (c.isMarked other && other != id) := by
  rw [Bool.eq_iff_iff]
  simp [isMarked, unmark]

/-- Write a record into the journal. -/
def record (c : Course σ) (r : Record) : Course σ := { c with journal := c.journal.add r }

/-- Say something. -/
def say (c : Course σ) (d : Diagnostic) : Course σ := { c with messages := c.messages ++ [d] }

end Course

/-- Goes through a course to a result; none if statistics are nested deeper than allowed. -/
abbrev Evaluation (σ α : Type) := Course σ → Option (α × Course σ)

/-- The outcome of a formula: its evaluated term, if it parses, and all that there is to say. -/
structure FormulaResult where
  formula : String
  root : Option Evaluated
  messages : List Diagnostic
  deriving DecidableEq, Repr

/-- The value of the formula, if it has one. -/
def FormulaResult.value? (r : FormulaResult) : Option Number := r.root.map Evaluated.value

namespace Evaluation

variable {σ α : Type}

/-- Evaluate something while a statistic is marked, keeping what is said to itself. -/
def inside (id : String) (f : Evaluation σ α) : Evaluation σ α := fun c => do
  let (a, after) ← f { c.mark id with messages := [] }
  some (a, { after.unmark id with messages := c.messages })

/-! ### Leaves -/

/-- Roll the dice of a node and add them up. -/
def dice (roller : Roller σ) (place : Place) (d : Dice) (c : Course σ) : Evaluated × Course σ :=
  let (values, dice) := roller.rolls d.sides d.count c.dice
  (.dice (.int (values.foldr (· + ·) 0)) place d values,
    { c with dice := dice }.record (.rolled place.source values))

/-- A name that stands for zero, and why. -/
def unresolved (place : Place) (name why : String) (c : Course σ) : Evaluated × Course σ :=
  (.stat (.int 0) place name none, c.say ⟨place.span, why, .warning⟩)

/-- A name stands for the final value of its statistic, which `refer` finds. -/
def stat (sheet : Sheet) (refer : Statistic → Evaluation σ Breakdown) (place : Place)
    (name : String) : Evaluation σ Evaluated := fun c =>
  match sheet.find? name with
  | none => some (unresolved place name ("Unknown statistic " ++ Text.quoted name) c)
  | some stat =>
      if c.isMarked stat.id then
        some (unresolved place name ("Circular reference to statistic " ++ Text.quoted stat.id)
          (c.record (.circular stat.id)))
      else do
        let (breakdown, c) ← refer stat c
        some (.stat breakdown.final place name (some stat.id), c)

/-! ### Terms -/

/-- Evaluate a term from left to right, operands before their operation. -/
def term (sheet : Sheet) (roller : Roller σ) (refer : Statistic → Evaluation σ Breakdown) :
    Term → Evaluation σ Evaluated
  | .literal place n, c => some (.literal (.int n) place n, c)
  | .dice place d, c => some (dice roller place d c)
  | .stat place name, c => stat sheet refer place name c
  | .negation place sign operand, c => do
      let (x, c) ← term sheet roller refer operand c
      some (.negation x.value.neg place sign x, c)
  | .binary place op sign left right, c => do
      let (x, c) ← term sheet roller refer left c
      let (y, c) ← term sheet roller refer right c
      some (.binary (op.apply x.value y.value) place op sign x y, c)

/-- Evaluate a draft in the same order, up to its first defect. -/
def draft (sheet : Sheet) (roller : Roller σ) (refer : Statistic → Evaluation σ Breakdown) :
    Draft → Evaluation σ (Except Defect Evaluated)
  | .literal place n, c => some (.ok (.literal (.int n) place n), c)
  | .dice place d, c =>
      let (x, c) := dice roller place d c
      some (.ok x, c)
  | .stat place name, c => do
      let (x, c) ← stat sheet refer place name c
      some (.ok x, c)
  | .unary place op sign operand, c => do
      let (x, c) ← draft sheet roller refer operand c
      match x with
      | .error defect => some (.error defect, c)
      | .ok x =>
          if Draft.isNegation op then some (.ok (.negation x.value.neg place sign x), c)
          else some (.error (.unaryOperator place op sign), c)
  | .binary place op sign left right, c => do
      let (x, c) ← draft sheet roller refer left c
      match x with
      | .error defect => some (.error defect, c)
      | .ok x =>
          let (y, c) ← draft sheet roller refer right c
          match y with
          | .error defect => some (.error defect, c)
          | .ok y =>
              match Operator.ofSign? op with
              | some op => some (.ok (.binary (op.apply x.value y.value) place op sign x y), c)
              | none => some (.error (.binaryOperator place op sign), c)
  | .foreign kind source, c => some (.error (.notATerm kind source), c)

/-- Parse a formula and evaluate its term. Of what the course holds already nothing is said again.
-/
def formula (sheet : Sheet) (roller : Roller σ) (refer : Statistic → Evaluation σ Breakdown)
    (source : String) : Evaluation σ FormulaResult := fun c =>
  let parsed := parse source
  let c := c.record (.parsing source)
  match parsed.term with
  | none => some (⟨source, none, parsed.messages⟩, c)
  | some t => do
      let (root, after) ← term sheet roller refer t c
      some (⟨source, some root, parsed.messages ++ after.messages.drop c.messages.length⟩, after)

/-! ### Statistics -/

/-- The lines of the modifiers on a statistic. A modifier that does not parse has none. -/
def lines (sheet : Sheet) (roller : Roller σ) (refer : Statistic → Evaluation σ Breakdown)
    (id : String) : List Modifier → Evaluation σ (List BreakdownLine)
  | [], c => some ([], c)
  | m :: rest, c => do
      let (result, c) ← inside id (formula sheet roller refer m.formula) c
      match result.value? with
      | none => lines sheet roller refer id rest (c.record (.modifierUnparsed m.label id m.formula))
      | some amount => do
          let (found, c) ← lines sheet roller refer id rest c
          some (⟨m.label, m.formula, amount⟩ :: found, c)

/-- The value of a statistic without modifiers: its level, or the value of its formula. -/
def base (sheet : Sheet) (roller : Roller σ) (refer : Statistic → Evaluation σ Breakdown) :
    Statistic → Evaluation σ Number
  | .ofAttribute a, c => some (.int a.track.level, c)
  | .ofSkill owner s, c => some (.int (s.track.level + owner.track.level : Nat), c)
  | .ofDerived d, c => do
      let (root, c) ← inside d.id (term sheet roller refer d.term) c
      some (root.value, c)

/-- Evaluate a statistic while at most `depth` statistics, this one included, are nested. -/
def statistic (sheet : Sheet) (roller : Roller σ) :
    (depth : Nat) → Statistic → Evaluation σ Breakdown
  | 0, _, _ => none
  | depth + 1, stat, c => do
      let refer := statistic sheet roller depth
      let (value, c) ← base sheet roller refer stat c
      let (found, c) ← lines sheet roller refer stat.id (sheet.modifiersOn stat.id) c
      some (⟨value, found⟩, c)

end Evaluation

namespace Sheet

variable {σ : Type}

/-- A depth that no evaluation exceeds. -/
def depth (sheet : Sheet) : Nat := sheet.statistics.length + 1

/-- What a reference to a statistic leads to, in an evaluation on the whole sheet. -/
def refer (sheet : Sheet) (roller : Roller σ) : Statistic → Evaluation σ Breakdown :=
  Evaluation.statistic sheet roller sheet.depth

/-- Nothing added to zero, the breakdown of what is no statistic. -/
def noBreakdown : Breakdown := ⟨.int 0, []⟩

/-- The breakdown of the statistic with an id in any letter case; zero if there is none. -/
def evaluate (sheet : Sheet) (roller : Roller σ) (name : String) (c : Course σ) :
    Breakdown × Course σ :=
  match sheet.find? name with
  | none => (noBreakdown, c)
  | some stat => (sheet.refer roller stat c).getD (noBreakdown, c)

/-- The outcome of a formula. -/
def evaluateFormula (sheet : Sheet) (roller : Roller σ) (source : String) (c : Course σ) :
    FormulaResult × Course σ :=
  (Evaluation.formula sheet roller (sheet.refer roller) source c).getD (⟨source, none, []⟩, c)

/-- The outcome of a draft. -/
def evaluateDraft (sheet : Sheet) (roller : Roller σ) (draft : Draft) (c : Course σ) :
    Except Defect Evaluated × Course σ :=
  (Evaluation.draft sheet roller (sheet.refer roller) draft c).getD (.error (.notATerm "" ""), c)

end Sheet

end Tabletop
