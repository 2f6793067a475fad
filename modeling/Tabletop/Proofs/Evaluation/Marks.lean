import Tabletop.Proofs.Evaluation.Nesting
import Tabletop.Proofs.Text.LetterCase

/-!
# The marks that an evaluation leaves

A mark says that a statistic is being evaluated, but not how often: a statistic is marked on the way
into one of its formulas and unmarked on the way out, whether it had been marked outside already or
not. Names within formulas never go into a marked statistic, so whatever is evaluated through names
leaves the marks as they were. A statistic that is evaluated directly loses its mark, and with it
the protection of everything around it.
-/
namespace Tabletop

namespace Evaluation

variable {σ α β : Type}

/-- The evaluation has come to a result, with these marks on the course. -/
def Leaves (r : Option (α × Course σ)) (marks : List String) : Prop :=
  ∃ a c', r = some (a, c') ∧ c'.marks = marks

theorem Leaves.bind {r : Option (α × Course σ)} {f : α × Course σ → Option (β × Course σ)}
    {marks marks' : List String} (h : Leaves r marks)
    (hf : ∀ a c', c'.marks = marks → Leaves (f (a, c')) marks') : Leaves (r.bind f) marks' := by
  obtain ⟨a, c', rfl, hmarks⟩ := h
  exact hf a c' hmarks

/-- Evaluate something while a statistic is marked. -/
def whileMarked (id : String) (e : Evaluation σ α) : Evaluation σ α := fun c => do
  let (a, after) ← e (c.mark id)
  some (a, after.unmark id)

/-- The tree of a derived statistic, with all that there is to say about it. -/
def derivedTree (sheet : Sheet) (roller : Roller σ) (refer : Statistic → Evaluation σ Breakdown)
    (d : Derived) : Evaluation σ Evaluated :=
  whileMarked d.id (term sheet roller refer d.term)

/-- The value of a derived statistic is that of its tree, and what is said about the tree is not
heard outside. -/
theorem base_ofDerived (sheet : Sheet) (roller : Roller σ)
    (refer : Statistic → Evaluation σ Breakdown) (d : Derived) (c : Course σ) :
    base sheet roller refer (.ofDerived d) c =
      (derivedTree sheet roller refer d { c with messages := [] }).map fun (x, after) =>
        (x.value, { after with messages := c.messages }) := by
  have hmark : ({ c with messages := [] } : Course σ).mark d.id =
      { c.mark d.id with messages := [] } := by
    unfold Course.mark
    by_cases h : c.isMarked d.id <;> simp_all [Course.isMarked]
  simp only [base, derivedTree, whileMarked, inside, hmark]
  cases term sheet roller refer d.term { c.mark d.id with messages := [] } <;> rfl

/-- Marking around an evaluation that leaves the marks as they were takes the mark away, also one
that had been there before. -/
theorem Leaves.whileMarked {e : Evaluation σ α} {c : Course σ} {id : String}
    (h : Leaves (e (c.mark id)) (c.mark id).marks) :
    Leaves (whileMarked id e c) (c.marks.filter (· != id)) := by
  refine h.bind fun a after hmarks => ⟨a, after.unmark id, rfl, ?_⟩
  calc (after.unmark id).marks
      = (c.enter id).marks.filter (· != id) := congrArg (List.filter (· != id)) hmarks
    _ = c.marks.filter (· != id) := c.filter_marks_enter id

/-! ### Trees -/

variable (sheet : Sheet) (roller : Roller σ)

theorem term_leaves (t : Term) (c : Course σ) :
    Leaves (term sheet roller (sheet.refer roller) t c) c.marks := by
  have hends := statistic_ends sheet roller sheet.depth
  obtain ⟨x, c', hx⟩ := term_ends hends t c (Nat.le_succ_of_le (sheet.unmarked_le_length c.marks))
  exact ⟨x, c', hx, (evaluates_term (evaluates_statistic sheet.depth) hx).marks_eq⟩

/-- A draft leaves the marks as they were, with a value as with a defect: defects are found at the
nodes of the draft itself, where no statistic is being evaluated that was not before. -/
theorem draft_leaves (d : Draft) (c : Course σ) :
    Leaves (draft sheet roller (sheet.refer roller) d c) c.marks := by
  induction d generalizing c with
  | literal place n => exact ⟨_, _, rfl, rfl⟩
  | dice place d => exact ⟨_, _, rfl, rfl⟩
  | stat place name =>
    exact (term_leaves sheet roller (.stat place name) c).bind
      fun x c' hmarks => ⟨.ok x, c', rfl, hmarks⟩
  | unary place op sign operand ih =>
    refine (ih c).bind fun x c' hmarks => ?_
    cases x with
    | error defect => exact ⟨_, c', rfl, hmarks⟩
    | ok x =>
      dsimp only
      split
      · exact ⟨_, c', rfl, hmarks⟩
      · exact ⟨_, c', rfl, hmarks⟩
  | binary place op sign left right ihl ihr =>
    refine (ihl c).bind fun x between hbetween => ?_
    cases x with
    | error defect => exact ⟨_, between, rfl, hbetween⟩
    | ok x =>
      refine (ihr between).bind fun y c' hmarks => ?_
      have hmarks : c'.marks = c.marks := hmarks.trans hbetween
      cases y with
      | error defect => exact ⟨_, c', rfl, hmarks⟩
      | ok y =>
        dsimp only
        split
        · exact ⟨_, c', rfl, hmarks⟩
        · exact ⟨_, c', rfl, hmarks⟩
  | foreign kind source => exact ⟨_, _, rfl, rfl⟩

theorem derivedTree_leaves (d : Derived) (c : Course σ) :
    Leaves (derivedTree sheet roller (sheet.refer roller) d c) (c.marks.filter (· != d.id)) :=
  (term_leaves sheet roller d.term (c.mark d.id)).whileMarked

end Evaluation

namespace Course

variable {σ : Type}

/-- The same statistics are being evaluated. -/
def SameMarks (c c' : Course σ) : Prop := ∀ id, c'.isMarked id = c.isMarked id

theorem SameMarks.of_eq {c c' : Course σ} (h : c'.marks = c.marks) : c.SameMarks c' := by
  intro id
  rw [isMarked, h, isMarked]

/-- Losing the mark of an id makes no difference only if there is none. -/
theorem sameMarks_iff_of_filter {c c' : Course σ} {id : String}
    (h : c'.marks = c.marks.filter (· != id)) : c.SameMarks c' ↔ c.isMarked id = false := by
  constructor
  · intro hsame
    rw [← hsame id, isMarked, h]
    simp
  · intro hid
    exact .of_eq (h.trans (filter_marks_of_not_isMarked hid))

end Course

namespace Sheet

open Evaluation

variable {σ : Type}

/-- A statistic that has formulas loses its mark, and the others keep theirs. -/
theorem marks_evaluate (sheet : Sheet) (roller : Roller σ) {name : String} {stat : Statistic}
    (h : sheet.find? name = some stat) (c : Course σ) :
    (sheet.evaluate roller name c).2.marks =
      if sheet.formulasOf stat = [] then c.marks else c.marks.filter (· != stat.id) :=
  (sheet.evaluates_evaluate roller h c).marks_eq

/-- Formulas, terms and drafts leave the marks as they were, whether they find a value or a defect.
The tree of a derived statistic and a statistic that has formulas lose the mark of this statistic
and no other, so they leave the marks as they were just when there was none. A statistic without
formulas and a name without a statistic change no mark. -/
theorem marks_after_evaluation (sheet : Sheet) (roller : Roller σ) (c : Course σ) :
    (∀ source, (sheet.evaluateFormula roller source c).2.marks = c.marks) ∧
    (∀ t, Leaves (term sheet roller (sheet.refer roller) t c) c.marks) ∧
    (∀ d, Leaves (draft sheet roller (sheet.refer roller) d c) c.marks) ∧
    (∀ d, ∃ x c', derivedTree sheet roller (sheet.refer roller) d c = some (x, c') ∧
      c'.marks = c.marks.filter (· != d.id) ∧ (c.SameMarks c' ↔ c.isMarked d.id = false)) ∧
    ∀ name, match sheet.find? name with
      | none => (sheet.evaluate roller name c).2.marks = c.marks
      | some stat =>
          (sheet.evaluate roller name c).2.marks =
            (if sheet.formulasOf stat = [] then c.marks else c.marks.filter (· != stat.id)) ∧
          (c.SameMarks (sheet.evaluate roller name c).2 ↔
            sheet.formulasOf stat = [] ∨ c.isMarked stat.id = false) := by
  refine ⟨?_, fun t => term_leaves sheet roller t c, fun d => draft_leaves sheet roller d c, ?_, ?_⟩
  · intro source
    exact (sheet.evaluates_evaluateFormula roller source c).marks_eq
  · intro d
    obtain ⟨x, c', hx, hmarks⟩ := derivedTree_leaves sheet roller d c
    exact ⟨x, c', hx, hmarks, Course.sameMarks_iff_of_filter hmarks⟩
  · intro name
    split
    · rename_i hfind
      rw [evaluate, hfind]
    · rename_i stat hfind
      have hmarks := sheet.marks_evaluate roller hfind c
      refine ⟨hmarks, ?_⟩
      by_cases hnone : sheet.formulasOf stat = []
      · rw [if_pos hnone] at hmarks
        exact iff_of_true (.of_eq hmarks) (.inl hnone)
      · rw [if_neg hnone] at hmarks
        rw [Course.sameMarks_iff_of_filter hmarks, or_iff_right hnone]

/-- Health that is always ten. -/
def health : Derived := ⟨"HEALTH", "HEALTH", "", "10"⟩

/-- A character who has nothing else. -/
def patient : Sheet := ⟨.blank, [], [health], [], []⟩

/-- A course on which health is being evaluated. -/
def examined : Course Unit := ⟨(), ["HEALTH"], [], .empty⟩

theorem find?_patient : patient.find? "HEALTH" = some (.ofDerived health) := by
  have hupper : Text.upper "HEALTH" = "HEALTH" := Text.upper_of_ascii (by decide)
  rw [find?, hupper]
  rfl

/-- Evaluating health once more takes its mark away, by its name and as the tree of a derived
statistic. -/
theorem exists_mark_lost :
    examined.isMarked "HEALTH" = true ∧
      (patient.evaluate (.fixed 1) "HEALTH" examined).2.isMarked "HEALTH" = false ∧
      ∃ x c', derivedTree patient (.fixed 1) (patient.refer (.fixed 1)) health examined =
        some (x, c') ∧ c'.isMarked "HEALTH" = false := by
  refine ⟨by decide, ?_, ?_⟩
  · rw [Course.isMarked, patient.marks_evaluate (.fixed 1) find?_patient]
    decide
  · obtain ⟨x, c', hx, hmarks⟩ := derivedTree_leaves patient (.fixed 1) health examined
    refine ⟨x, c', hx, ?_⟩
    rw [Course.isMarked, hmarks]
    decide

end Sheet

end Tabletop
