import Tabletop.Proofs.Evaluation.Marks
import Tabletop.Proofs.Number.Guarded

/-!
# Defects of drafts

A draft is evaluated like a term, each node after what it joins, up to the first node with a defect.
Whether there is one depends on the tree alone, not on the sheet, the dice or any number: the
arithmetic of the nodes before does not fail, nor does that of the statistics that they name. A term
has no defects, so that evaluating it as a draft finds what evaluating it as a term does.
-/
namespace Tabletop

namespace Operator

theorem ofSign?_eq_none_iff {op : String} : ofSign? op = none ↔ op ∉ ["+", "-", "*", "/"] := by
  have hsigns : ["+", "-", "*", "/"] = [plus, minus, times, divide].map sign := rfl
  simp only [hsigns, ofSign?, List.find?_eq_none, List.mem_map, not_exists, not_and, beq_iff_eq]

end Operator

namespace Draft

/-- All nodes of a draft in the order of evaluation: those of the left operand, then those of the
right one, then the node itself. -/
def nodes : Draft → List Draft
  | literal place n => [literal place n]
  | dice place d => [dice place d]
  | stat place name => [stat place name]
  | unary place op sign operand => operand.nodes ++ [unary place op sign operand]
  | binary place op sign left right =>
      left.nodes ++ right.nodes ++ [binary place op sign left right]
  | foreign kind source => [foreign kind source]

/-- The node has an operator that is not in the language, or is no term at all. -/
def IsDefective : Draft → Prop
  | unary _ op _ _ => op ≠ "-"
  | binary _ op _ _ _ => op ∉ ["+", "-", "*", "/"]
  | foreign .. => True
  | _ => False

/-- The error is about the node. It shows the operator of the node in the source of the node, or the
whole of what is no term. -/
def Raises : Draft → Defect → Prop
  | unary place op sign _, e =>
      op ≠ "-" ∧ e = .unaryOperator place op sign ∧
        e.excerpt = ⟨place.source, (sign.start : Int) - place.span.start, sign.length, none⟩
  | binary place op sign _ _, e =>
      op ∉ ["+", "-", "*", "/"] ∧ e = .binaryOperator place op sign ∧
        e.excerpt = ⟨place.source, (sign.start : Int) - place.span.start, sign.length, none⟩
  | foreign kind source, e =>
      e = .notATerm kind source ∧ e.excerpt = ⟨source, 0, source.length, none⟩
  | _, _ => False

/-- What is wrong with the node itself. -/
def defect? : Draft → Option Defect
  | unary place op sign _ => if op = "-" then none else some (.unaryOperator place op sign)
  | binary place op sign _ _ =>
      if op ∈ ["+", "-", "*", "/"] then none else some (.binaryOperator place op sign)
  | foreign kind source => some (.notATerm kind source)
  | _ => none

theorem defect?_eq_some_iff {node : Draft} {e : Defect} :
    node.defect? = some e ↔ node.Raises e := by
  cases node with
  | unary place op sign operand =>
    by_cases h : op = "-"
    · simp [defect?, Raises, h]
    · simp only [defect?, Raises, if_neg h, Option.some.injEq]
      exact ⟨by rintro rfl; exact ⟨h, rfl, rfl⟩, fun hraises => hraises.2.1.symm⟩
  | binary place op sign left right =>
    by_cases h : op ∈ ["+", "-", "*", "/"]
    · simp only [defect?, Raises, if_pos h, reduceCtorEq, false_iff, not_and]
      exact fun hnot => absurd h hnot
    · simp only [defect?, Raises, if_neg h, Option.some.injEq]
      exact ⟨by rintro rfl; exact ⟨h, rfl, rfl⟩, fun hraises => hraises.2.1.symm⟩
  | foreign kind source =>
    simp only [defect?, Raises, Option.some.injEq]
    exact ⟨by rintro rfl; exact ⟨rfl, rfl⟩, fun hraises => hraises.1.symm⟩
  | _ => simp [defect?, Raises]

theorem defect?_eq_none_iff {node : Draft} : node.defect? = none ↔ ¬ node.IsDefective := by
  cases node <;> simp [defect?, IsDefective]

/-- The first defect in the order of evaluation. -/
def firstDefect? (d : Draft) : Option Defect := d.nodes.findSome? defect?

theorem firstDefect?_unary (place : Place) (op : String) (sign : Span) (operand : Draft) :
    (unary place op sign operand).firstDefect? =
      operand.firstDefect?.or (unary place op sign operand).defect? := by
  rw [firstDefect?, nodes, List.findSome?_append, List.findSome?_singleton]
  rfl

theorem firstDefect?_binary (place : Place) (op : String) (sign : Span) (left right : Draft) :
    (binary place op sign left right).firstDefect? =
      (left.firstDefect?.or right.firstDefect?).or (binary place op sign left right).defect? := by
  rw [firstDefect?, nodes, List.findSome?_append, List.findSome?_append, List.findSome?_singleton]
  rfl

theorem firstDefect?_eq_some_iff {d : Draft} {e : Defect} :
    d.firstDefect? = some e ↔ ∃ before node after, d.nodes = before ++ node :: after ∧
      (∀ earlier ∈ before, ¬ earlier.IsDefective) ∧ node.Raises e := by
  simp only [firstDefect?, List.findSome?_eq_some_iff, defect?_eq_some_iff, defect?_eq_none_iff,
    and_comm]

/-- An operation with an unknown sign on an operand with another one: the operand comes first. -/
example : (binary ⟨⟨0, 6⟩, "1 % !2"⟩ "%" ⟨2, 1⟩ (literal ⟨⟨0, 1⟩, "1"⟩ 1)
    (unary ⟨⟨4, 2⟩, "!2"⟩ "!" ⟨4, 1⟩ (literal ⟨⟨5, 1⟩, "2"⟩ 2))).firstDefect? =
      some (.unaryOperator ⟨⟨4, 2⟩, "!2"⟩ "!" ⟨4, 1⟩) := by
  decide

theorem firstDefect?_eq_none_iff {d : Draft} :
    d.firstDefect? = none ↔ ¬ ∃ node ∈ d.nodes, node.IsDefective := by
  simp only [firstDefect?, List.findSome?_eq_none_iff, defect?_eq_none_iff, not_exists, not_and]

end Draft

namespace Evaluation

variable {σ : Type} {sheet : Sheet} {roller : Roller σ}
  {refer : Statistic → Evaluation σ Breakdown}

/-- The defect that the evaluation of a draft came upon. -/
def defectOf : Except Defect Evaluated → Option Defect
  | .ok _ => none
  | .error e => some e

/-- An evaluation comes upon the first defect of its draft. -/
theorem defectOf_draft {d : Draft} {c c' : Course σ} {result : Except Defect Evaluated}
    (h : draft sheet roller refer d c = some (result, c')) : defectOf result = d.firstDefect? := by
  induction d generalizing c c' result with
  | literal place n =>
    cases h
    rfl
  | dice place d =>
    cases h
    rfl
  | stat place name =>
    simp only [draft, Option.bind_eq_bind, Option.bind_eq_some_iff] at h
    obtain ⟨⟨x, after⟩, -, h⟩ := h
    cases h
    rfl
  | unary place op sign operand ih =>
    simp only [draft, Option.bind_eq_bind, Option.bind_eq_some_iff] at h
    obtain ⟨⟨x, after⟩, hx, h⟩ := h
    rw [Draft.firstDefect?_unary, ← ih hx]
    cases x with
    | error e =>
      cases h
      rfl
    | ok x =>
      dsimp only at h
      split at h <;> rename_i hop <;> cases h
      · rw [Draft.isNegation, beq_iff_eq] at hop
        exact (if_pos hop).symm
      · rw [Draft.isNegation, beq_iff_eq] at hop
        exact (if_neg hop).symm
  | binary place op sign left right ihl ihr =>
    simp only [draft, Option.bind_eq_bind, Option.bind_eq_some_iff] at h
    obtain ⟨⟨x, between⟩, hx, h⟩ := h
    rw [Draft.firstDefect?_binary, ← ihl hx]
    cases x with
    | error e =>
      cases h
      rfl
    | ok x =>
      simp only [Option.bind_eq_some_iff] at h
      obtain ⟨⟨y, after⟩, hy, h⟩ := h
      rw [← ihr hy]
      cases y with
      | error e =>
        cases h
        rfl
      | ok y =>
        dsimp only at h
        split at h <;> rename_i hop <;> cases h
        · have hknown : op ∈ ["+", "-", "*", "/"] := by
            by_contra hnot
            cases (Operator.ofSign?_eq_none_iff.mpr hnot).symm.trans hop
          exact (if_pos hknown).symm
        · exact (if_neg (Operator.ofSign?_eq_none_iff.mp hop)).symm
  | foreign kind source =>
    cases h
    rfl

/-- A term is evaluated as a draft like as a term. -/
theorem draft_ofTerm (t : Term) (c : Course σ) :
    draft sheet roller refer (.ofTerm t) c =
      (term sheet roller refer t c).map fun (x, after) => (.ok x, after) := by
  induction t generalizing c with
  | literal place n => rfl
  | dice place d => rfl
  | stat place name =>
    simp only [Draft.ofTerm, draft, term]
    cases stat sheet refer place name c <;> rfl
  | negation place sign t ih =>
    simp only [Draft.ofTerm, draft, term, ih]
    cases term sheet roller refer t c <;> rfl
  | binary place op sign t u iht ihu =>
    simp only [Draft.ofTerm, draft, term, iht]
    cases term sheet roller refer t c with
    | none => rfl
    | some p =>
      simp only [Option.map_some, Option.bind_eq_bind, Option.bind_some, ihu,
        Operator.ofSign?_sign]
      cases term sheet roller refer u p.2 <;> rfl

end Evaluation

namespace Sheet

open Evaluation

variable {σ : Type}

/-- Evaluating a draft always comes to a result, which is an error just if a node of the draft is
defective. The error is about the first such node in the order of evaluation. A term is never in
error, whatever it is evaluated with: no operation on values fails, however large integers are and
whatever they are divided by, nor does adding up the breakdown of a statistic. -/
theorem draft_error_iff (sheet : Sheet) (roller : Roller σ) (c : Course σ) :
    (∀ d : Draft, ∃ result c', draft sheet roller (sheet.refer roller) d c = some (result, c') ∧
      sheet.evaluateDraft roller d c = (result, c') ∧
      ((∃ e, result = .error e) ↔ ∃ node ∈ d.nodes, node.IsDefective) ∧
      ∀ e, result = .error e ↔ ∃ before node after, d.nodes = before ++ node :: after ∧
        (∀ earlier ∈ before, ¬ earlier.IsDefective) ∧ node.Raises e) ∧
    (∀ t : Term, ∃ x c', term sheet roller (sheet.refer roller) t c = some (x, c') ∧
      sheet.evaluateDraft roller (.ofTerm t) c = (.ok x, c')) ∧
    (∀ (op : Operator) (x y : Number), op.guarded x y = .ok (op.apply x y)) ∧
    ∀ b : Breakdown, b.guardedFinal = .ok b.final := by
  refine ⟨fun d => ?_, fun t => ?_, Operator.guarded_eq, Breakdown.guardedFinal_eq⟩
  · obtain ⟨result, c', hd, -⟩ := draft_leaves sheet roller d c
    have hfirst := defectOf_draft hd
    have herror : ∀ e, result = .error e ↔ d.firstDefect? = some e := by
      intro e
      rw [← hfirst]
      cases result <;> simp [defectOf]
    refine ⟨result, c', hd, by rw [evaluateDraft, hd, Option.getD_some], ?_, ?_⟩
    · simp only [herror]
      rw [← not_iff_not, ← Draft.firstDefect?_eq_none_iff, Option.eq_none_iff_forall_ne_some,
        not_exists]
    · exact fun e => (herror e).trans Draft.firstDefect?_eq_some_iff
  · obtain ⟨x, c', hx, -⟩ := term_leaves sheet roller t c
    refine ⟨x, c', hx, ?_⟩
    rw [evaluateDraft, draft_ofTerm, hx, Option.map_some, Option.getD_some]

end Sheet

end Tabletop
