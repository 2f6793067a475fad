import Tabletop.Proofs.Evaluation.Nesting

/-!
# When circular references are recorded

The marked statistics are those on the way from the start of an evaluation to where it is, and
evaluation follows every reference. So it records a circular reference exactly if a walk along
references runs into a statistic on its way, which is to say if there is a cycle that it can reach.
-/
namespace Tabletop

namespace Course

variable {σ : Type}

theorem journal_enter (c : Course σ) (id : String) : (c.enter id).journal = c.journal := by
  by_cases h : c.isMarked id <;> simp [enter, mark, h]

/-- From the first course to the second, records were only added, and there is a circular reference
among the new ones exactly if the statement is true. -/
def RecordsCircular (c c' : Course σ) (p : Prop) : Prop :=
  ∃ new, c'.journal.records = c.journal.records ++ new ∧ ((∃ id, Record.circular id ∈ new) ↔ p)

namespace RecordsCircular

variable {c c' c'' : Course σ} {p q : Prop}

theorem of_journal_eq (h : c'.journal = c.journal) : RecordsCircular c c' False :=
  ⟨[], by rw [h, List.append_nil], by simp⟩

theorem of_record {r : Record} (h : c'.journal = c.journal.add r) (hr : ∀ id, r ≠ .circular id) :
    RecordsCircular c c' False := by
  refine ⟨[r], by rw [h, Journal.records_add], ?_⟩
  simp only [List.mem_singleton, iff_false, not_exists]
  intro id hid
  exact hr id hid.symm

theorem trans (h : RecordsCircular c c' p) (k : RecordsCircular c' c'' q) :
    RecordsCircular c c'' (p ∨ q) := by
  obtain ⟨new, hn, hp⟩ := h
  obtain ⟨more, hm, hq⟩ := k
  refine ⟨new ++ more, by rw [hm, hn, List.append_assoc], ?_⟩
  rw [← hp, ← hq, ← exists_or]
  simp only [List.mem_append]

theorem congr (h : RecordsCircular c c' p) (hpq : p ↔ q) : RecordsCircular c c' q := by
  rwa [propext hpq] at h

end RecordsCircular

end Course

/-! ### References of parts -/

namespace Sheet

variable {sheet : Sheet}

/-- A statistic is marked, or following references from it runs into a mark. -/
def Meets (sheet : Sheet) (marks : List String) (target : Statistic) : Prop :=
  target.id ∈ marks ∨ sheet.RunsInto marks target

theorem mentions_iff {source : String} {t : Term} (h : (parse source).term = some t)
    (target : Statistic) :
    sheet.Mentions source target ↔ ∃ name ∈ t.names, sheet.find? name = some target := by
  unfold Mentions
  simp only [h, Option.some.injEq, exists_eq_left']

theorem not_mentions {source : String} (h : (parse source).term = none) (target : Statistic) :
    ¬ sheet.Mentions source target := by
  rintro ⟨t, ht, _⟩
  rw [h] at ht
  cases ht

/-- The term of a derived statistic has the names that its formula has. -/
theorem mentions_derived_iff (d : Derived) (target : Statistic) :
    sheet.Mentions d.formula target ↔ ∃ name ∈ d.term.names, sheet.find? name = some target := by
  cases h : (parse d.formula).term with
  | none =>
    have hd : d.term = .zero := by rw [Derived.term, Derived.parsed, h, Option.getD_none]
    simp only [not_mentions h, hd, Term.zero, Term.names, List.not_mem_nil, false_and,
      exists_false]
  | some t =>
    have hd : d.term = t := by rw [Derived.term, Derived.parsed, h, Option.getD_some]
    rw [hd, mentions_iff h]

theorem refers_iff {stat target : Statistic} :
    sheet.Refers stat target ↔
      (∃ source, stat.formula? = some source ∧ sheet.Mentions source target) ∨
      ∃ m ∈ sheet.modifiersOn stat.id, sheet.Mentions m.formula target := by
  simp only [Refers, formulasOf, List.mem_append, Option.mem_toList, List.mem_map,
    or_and_right, exists_or, exists_exists_and_eq_and]

end Sheet

/-- Evaluating the task meets a marked statistic. -/
def Task.Meets (sheet : Sheet) (marks : List String) : Task → Prop
  | term t => ∃ target, (∃ name ∈ t.names, sheet.find? name = some target) ∧
      sheet.Meets marks target
  | formula source => ∃ target, sheet.Mentions source target ∧ sheet.Meets marks target
  | lines id ms => ∃ target, (∃ m ∈ ms, sheet.Mentions m.formula target) ∧
      sheet.Meets (id :: marks) target
  | statistic stat => sheet.RunsInto marks stat

/-- The statistic that the task belongs to, if any, is not marked. -/
def Task.IsFree {σ : Type} (c : Course σ) : Task → Prop
  | term _ => True
  | formula _ => True
  | lines id _ => c.isMarked id = false
  | statistic stat => c.isMarked stat.id = false

variable {σ : Type} {sheet : Sheet} {roller : Roller σ}

theorem Course.isMarked_eq_false_congr {c c' : Course σ} {id : String} (h : c'.marks = c.marks) :
    c'.isMarked id = false ↔ c.isMarked id = false := by
  rw [isMarked, isMarked, h]

/-- What happens inside of a statistic has its mark on top of those outside. -/
theorem Course.RecordsCircular.leave {task : Task} {c c' : Course σ} {id : String}
    (hm : c.isMarked id = false)
    (h : (c.enter id).RecordsCircular c' (task.Meets sheet (c.enter id).marks)) :
    c.RecordsCircular (c.leave c' id) (task.Meets sheet (id :: c.marks)) := by
  obtain ⟨new, hn, hp⟩ := h
  rw [journal_enter] at hn
  rw [marks_enter_of_not_isMarked hm] at hp
  exact ⟨new, hn, hp⟩

namespace Task

variable {marks : List String}

theorem meets_stat {place : Place} {name : String} {stat : Statistic}
    (h : sheet.find? name = some stat) :
    (term (.stat place name)).Meets sheet marks ↔ sheet.Meets marks stat := by
  simp only [Meets, Term.names, List.mem_singleton, exists_eq_left, h, Option.some.injEq,
    exists_eq_left']

theorem meets_binary {place : Place} {op : Operator} {sign : Span} {t u : Term} :
    (term (.binary place op sign t u)).Meets sheet marks ↔
      (term t).Meets sheet marks ∨ (term u).Meets sheet marks := by
  simp only [Meets, Term.names, List.mem_append, or_and_right, exists_or]

theorem meets_formula {source : String} {t : Term} (h : (parse source).term = some t) :
    (formula source).Meets sheet marks ↔ (term t).Meets sheet marks := by
  simp only [Meets, Sheet.mentions_iff h]

theorem meets_lines_cons {id : String} {m : Modifier} {ms : List Modifier} :
    (lines id (m :: ms)).Meets sheet marks ↔
      (formula m.formula).Meets sheet (id :: marks) ∨ (lines id ms).Meets sheet marks := by
  simp only [Meets, List.mem_cons, or_and_right, exists_or, exists_eq_left]

theorem meets_statistic {stat : Statistic} :
    (statistic stat).Meets sheet marks ↔
      ∃ target, sheet.Refers stat target ∧ sheet.Meets (stat.id :: marks) target :=
  Sheet.runsInto_iff

theorem meets_level {stat : Statistic} {n : Nat} (h : stat.level? = some n) :
    (statistic stat).Meets sheet marks ↔
      (lines stat.id (sheet.modifiersOn stat.id)).Meets sheet marks := by
  have hown := Statistic.formula?_of_level? h
  rw [meets_statistic]
  simp only [Sheet.refers_iff, hown, reduceCtorEq, false_and, exists_false, false_or, Meets]

theorem meets_derived {d : Derived} :
    (statistic (.ofDerived d)).Meets sheet marks ↔
      (term d.term).Meets sheet (d.id :: marks) ∨
      (lines d.id (sheet.modifiersOn d.id)).Meets sheet marks := by
  rw [meets_statistic]
  simp only [Sheet.refers_iff, Statistic.formula?, Option.some.injEq, exists_eq_left',
    Sheet.mentions_derived_iff, or_and_right, exists_or, Meets]
  rfl

end Task

/-- The induction is on the rules: the marks at a name are those on the way to it. -/
theorem Evaluates.recordsCircular {task : Task} {found : Finding} {c c' : Course σ}
    (h : Evaluates sheet roller task c found c') (hfree : task.IsFree c) :
    c.RecordsCircular c' (task.Meets sheet c.marks) := by
  induction h with
  | literal =>
    exact (Course.RecordsCircular.of_journal_eq rfl).congr (by simp [Task.Meets, Term.names])
  | dice =>
    exact (Course.RecordsCircular.of_record rfl (by simp)).congr (by simp [Task.Meets, Term.names])
  | unknown h =>
    exact (Course.RecordsCircular.of_journal_eq rfl).congr (by simp [Task.Meets, Term.names, h])
  | @circular place name stat c h hm =>
    refine ⟨[.circular stat.id], Journal.records_add _ _, ?_⟩
    have hmem : stat.id ∈ c.marks := by simpa [Course.isMarked] using hm
    simp [Task.meets_stat h, Sheet.Meets, hmem]
  | @known place name stat b c c' h hm _ ih =>
    refine (ih hm).congr ?_
    have hmem : stat.id ∉ c.marks := by simpa [Course.isMarked] using hm
    rw [Task.meets_stat h, Sheet.Meets, or_iff_right hmem]
    rfl
  | negation _ ih => exact ih trivial
  | @binary place op sign t u x y c c' c'' hl _ ihl ihr =>
    refine ((ihl trivial).trans (ihr trivial)).congr ?_
    rw [show c'.marks = c.marks from hl.marks_eq, Task.meets_binary]
  | unparsed h =>
    exact (Course.RecordsCircular.of_record rfl (by simp)).congr
      (by simp [Task.Meets, Sheet.not_mentions h])
  | @parsed source t x c c' h _ ih =>
    have hfirst : c.RecordsCircular (c.record (.parsing source)) False := .of_record rfl (by simp)
    refine (hfirst.trans (ih trivial)).congr ?_
    rw [Task.meets_formula h, Course.marks_record, false_or]
  | noLines => exact (Course.RecordsCircular.of_journal_eq rfl).congr (by simp [Task.Meets])
  | @skip id m ms r found c c' c'' he _ _ ihf ihs =>
    have hout : (c.leave c' id).marks = c.marks :=
      Course.marks_leave_of_not_isMarked hfree he.marks_eq
    have hin := (ihf trivial).leave hfree
    have hskip : (c.leave c' id).RecordsCircular
        ((c.leave c' id).record (.modifierUnparsed m.label id m.formula)) False :=
      .of_record rfl (by simp)
    have hrest := ihs ((Course.isMarked_eq_false_congr hout).mpr hfree)
    refine ((hin.trans hskip).trans hrest).congr ?_
    rw [Course.marks_record, hout, or_false, Task.meets_lines_cons]
  | @line id m ms r amount found c c' c'' he _ _ ihf ihs =>
    have hout : (c.leave c' id).marks = c.marks :=
      Course.marks_leave_of_not_isMarked hfree he.marks_eq
    have hin := (ihf trivial).leave hfree
    have hrest := ihs ((Course.isMarked_eq_false_congr hout).mpr hfree)
    refine (hin.trans hrest).congr ?_
    rw [hout, Task.meets_lines_cons]
  | level h _ ih => exact (ih hfree).congr (Task.meets_level h).symm
  | @derived d x found c c' c'' he _ iht ihs =>
    have hout : (c.leave c' d.id).marks = c.marks :=
      Course.marks_leave_of_not_isMarked hfree he.marks_eq
    have hin := (iht trivial).leave hfree
    have hrest := ihs ((Course.isMarked_eq_false_congr hout).mpr hfree)
    rw [hout] at hrest
    exact (hin.trans hrest).congr Task.meets_derived.symm

namespace Sheet

/-- A statistic that is evaluated without marks meets one exactly if it leads to a cycle. -/
theorem meets_nil_iff {stat : Statistic} (h : sheet.statistic? stat.id = some stat) :
    sheet.Meets [] stat ↔ sheet.LeadsToCycle stat := by
  simp only [Meets, List.not_mem_nil, false_or, runsInto_nil_iff h]

/-- Starting without marks, the evaluation of a statistic records a circular reference exactly if a
cycle can be reached from it, and the evaluation of a formula exactly if a cycle can be reached from
a statistic that it mentions. -/
theorem recordsCircular_iff_leadsToCycle (sheet : Sheet) (roller : Roller σ) (dice : σ)
    (messages : List Diagnostic) (journal : Journal) :
    let c : Course σ := ⟨dice, [], messages, journal⟩
    (∀ name stat, sheet.find? name = some stat →
      c.RecordsCircular (sheet.evaluate roller name c).2 (sheet.LeadsToCycle stat)) ∧
    ∀ source, c.RecordsCircular (sheet.evaluateFormula roller source c).2
      (∃ target, sheet.Mentions source target ∧ sheet.LeadsToCycle target) := by
  intro c
  constructor
  · intro name stat hf
    have h := (evaluates_evaluate roller hf c).recordsCircular rfl
    exact h.congr (runsInto_nil_iff (statistic?_of_find? hf))
  · intro source
    have h := (sheet.evaluates_evaluateFormula roller source c).recordsCircular trivial
    refine h.congr (exists_congr fun target => and_congr_right fun hm => ?_)
    exact meets_nil_iff (statistic?_of_mentions hm)

end Sheet

end Tabletop
