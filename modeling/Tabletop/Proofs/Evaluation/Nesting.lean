import Tabletop.Proofs.Evaluation.References
import Tabletop.Proofs.Evaluation.Rules

/-!
# How deep evaluations are nested

A name is evaluated only if its statistic is not marked, and while it is evaluated it is. So within
an evaluation every nested one has fewer statistics left to go to, and their number bounds the
nesting: an evaluation that may nest that deep always comes to an end. Marks are taken away on every
way out, so those of a name that was evaluated are gone when the next name is reached.
-/
namespace Tabletop

namespace Course

variable {σ : Type}

theorem marks_record (c : Course σ) (r : Record) : (c.record r).marks = c.marks := rfl

theorem mem_marks_enter (c : Course σ) (id other : String) :
    other ∈ (c.enter id).marks ↔ other = id ∨ other ∈ c.marks := by
  have h := c.isMarked_mark id other
  rw [Bool.eq_iff_iff] at h
  simpa [isMarked, enter] using h

/-- Going in and out again leaves all marks but that of the statistic. -/
theorem filter_marks_enter (c : Course σ) (id : String) :
    (c.enter id).marks.filter (· != id) = c.marks.filter (· != id) := by
  by_cases h : c.isMarked id <;> simp [enter, mark, h]

theorem marks_leave {c after : Course σ} {id : String} (h : after.marks = (c.enter id).marks) :
    (c.leave after id).marks = c.marks.filter (· != id) := by
  rw [← filter_marks_enter, ← h]
  rfl

theorem filter_marks_of_not_isMarked {c : Course σ} {id : String} (h : c.isMarked id = false) :
    c.marks.filter (· != id) = c.marks := by
  apply List.filter_eq_self.mpr
  intro other ho
  have hne : other ≠ id := by
    rintro rfl
    simp [isMarked, ho] at h
  simpa using hne

theorem marks_enter_of_not_isMarked {c : Course σ} {id : String} (h : c.isMarked id = false) :
    (c.enter id).marks = id :: c.marks := by
  simp [enter, mark, h]

/-- A statistic that was not marked is not marked again afterwards. -/
theorem marks_leave_of_not_isMarked {c after : Course σ} {id : String}
    (h : c.isMarked id = false) (ha : after.marks = (c.enter id).marks) :
    (c.leave after id).marks = c.marks := by
  rw [marks_leave ha, filter_marks_of_not_isMarked h]

end Course

/-! ### Marks -/

/-- The marks that are left after a task. A statistic is unmarked at the end of each of its
formulas, even if it was marked at the start. -/
def Task.marksAfter (sheet : Sheet) (marks : List String) : Task → List String
  | term _ => marks
  | formula _ => marks
  | lines id ms => if ms = [] then marks else marks.filter (· != id)
  | statistic stat =>
      if sheet.formulasOf stat = [] then marks else marks.filter (· != stat.id)

variable {σ : Type} {sheet : Sheet} {roller : Roller σ}

theorem Statistic.formula?_of_level? {stat : Statistic} {n : Nat} (h : stat.level? = some n) :
    stat.formula? = none := by
  cases stat with
  | ofAttribute a => rfl
  | ofSkill owner s => rfl
  | ofDerived d => cases h

theorem Task.marksAfter_lines_filter (id : String) (ms : List Modifier) (marks : List String) :
    (Task.lines id ms).marksAfter sheet (marks.filter (· != id)) = marks.filter (· != id) := by
  simp [marksAfter]

theorem Evaluates.marks_eq {task : Task} {found : Finding} {c c' : Course σ}
    (h : Evaluates sheet roller task c found c') : c'.marks = task.marksAfter sheet c.marks := by
  induction h with
  | literal => rfl
  | dice => rfl
  | unknown _ => rfl
  | circular _ _ => rfl
  | known _ hm _ ih =>
    rw [ih]
    simp only [Task.marksAfter, Course.filter_marks_of_not_isMarked hm, ite_self]
  | negation _ ih => exact ih
  | binary _ _ ihl ihr => exact ihr.trans ihl
  | unparsed _ => rfl
  | parsed _ _ ih => exact ih
  | noLines => rfl
  | @skip id m ms r found c c' c'' _ _ _ ihf ihs =>
    have hout : (c.leave c' id).marks = c.marks.filter (· != id) := Course.marks_leave ihf
    rw [ihs, Course.marks_record, hout, Task.marksAfter_lines_filter]
    rfl
  | @line id m ms r amount found c c' c'' _ _ _ ihf ihs =>
    have hout : (c.leave c' id).marks = c.marks.filter (· != id) := Course.marks_leave ihf
    rw [ihs, hout, Task.marksAfter_lines_filter]
    rfl
  | level h _ ih =>
    rw [ih]
    simp [Task.marksAfter, Sheet.formulasOf, Statistic.formula?_of_level? h]
  | @derived d x found c c' c'' _ _ iht ihs =>
    have hout : (c.leave c' d.id).marks = c.marks.filter (· != d.id) := Course.marks_leave iht
    rw [ihs, hout, Task.marksAfter_lines_filter]
    simp [Task.marksAfter, Sheet.formulasOf, Statistic.formula?, Statistic.id]

/-! ### Depth -/

namespace Evaluation

/-- Every evaluation of a statistic ends within a depth that leaves room for all statistics that are
not marked. -/
def Ends (sheet : Sheet) (roller : Roller σ) (depth : Nat) : Prop :=
  ∀ stat c, sheet.unmarked (stat.id :: c.marks) < depth →
    ∃ b c', statistic sheet roller depth stat c = some (b, c')

variable {depth : Nat}

theorem term_ends (hends : Ends sheet roller depth) (t : Term) (c : Course σ)
    (h : sheet.unmarked c.marks ≤ depth) :
    ∃ x c', term sheet roller (statistic sheet roller depth) t c = some (x, c') := by
  induction t generalizing c with
  | literal place n => exact ⟨_, _, rfl⟩
  | dice place d => exact ⟨_, _, rfl⟩
  | stat place name =>
    cases hf : sheet.find? name with
    | none => exact ⟨_, _, by simp only [term, stat, hf]; rfl⟩
    | some target =>
      cases hm : c.isMarked target.id with
      | true => exact ⟨_, _, by simp only [term, stat, hf, hm]; rfl⟩
      | false =>
        have hmem := Sheet.mem_of_statistic? (Sheet.statistic?_of_find? hf)
        have hfresh : target.id ∉ c.marks := by simpa [Course.isMarked] using hm
        have hless := Sheet.unmarked_cons_lt hmem hfresh
        obtain ⟨b, c', hb⟩ := hends target c (by omega)
        exact ⟨_, _, by simp only [term, stat, hf, hm, hb]; rfl⟩
  | negation place sign t ih =>
    obtain ⟨x, c', hx⟩ := ih c h
    exact ⟨_, _, by simp only [term, hx]; rfl⟩
  | binary place op sign t u iht ihu =>
    obtain ⟨x, c', hx⟩ := iht c h
    have hmarks : c'.marks = c.marks := (evaluates_term (evaluates_statistic depth) hx).marks_eq
    obtain ⟨y, c'', hy⟩ := ihu c' (hmarks ▸ h)
    exact ⟨_, _, by simp only [term, hx, hy, Option.bind_eq_bind, Option.bind_some]; rfl⟩

theorem formula_ends (hends : Ends sheet roller depth) (source : String) (c : Course σ)
    (h : sheet.unmarked c.marks ≤ depth) :
    ∃ r c', formula sheet roller (statistic sheet roller depth) source c = some (r, c') := by
  cases hp : (parse source).term with
  | none => exact ⟨_, _, by simp only [formula, hp]; rfl⟩
  | some t =>
    obtain ⟨x, c', hx⟩ := term_ends hends t (c.record (.parsing source)) h
    exact ⟨_, _, by simp only [formula, hp, hx]; rfl⟩

theorem unmarked_enter (c : Course σ) (id : String) :
    sheet.unmarked (c.enter id).marks = sheet.unmarked (id :: c.marks) :=
  Sheet.unmarked_congr fun other => by rw [c.mem_marks_enter, List.mem_cons]

/-- The marks within a statistic are the same each time that one of its formulas is evaluated. -/
theorem unmarked_leave {c after : Course σ} {id : String}
    (h : after.marks = (c.enter id).marks) :
    sheet.unmarked (id :: (c.leave after id).marks) = sheet.unmarked (id :: c.marks) := by
  apply Sheet.unmarked_congr
  intro other
  rw [Course.marks_leave h]
  by_cases ho : other = id <;> simp [ho]

theorem lines_ends (hends : Ends sheet roller depth) (id : String) (ms : List Modifier)
    (c : Course σ) (h : sheet.unmarked (id :: c.marks) ≤ depth) :
    ∃ found c', lines sheet roller (statistic sheet roller depth) id ms c = some (found, c') := by
  induction ms generalizing c with
  | nil => exact ⟨_, _, rfl⟩
  | cons m ms ih =>
    obtain ⟨r, after, hr⟩ := formula_ends hends m.formula (c.enter id) (unmarked_enter c id ▸ h)
    have hmarks : after.marks = (c.enter id).marks :=
      (evaluates_formula (evaluates_statistic depth) hr).marks_eq
    have hout : sheet.unmarked (id :: (c.leave after id).marks) = sheet.unmarked (id :: c.marks) :=
      unmarked_leave hmarks
    have hin := inside_eq_some_iff.mpr ⟨after, hr, rfl⟩
    cases hv : r.value? with
    | none =>
      have hskip : sheet.unmarked (id :: ((c.leave after id).record
          (.modifierUnparsed m.label id m.formula)).marks) ≤ depth := by
        rw [Course.marks_record, hout]
        exact h
      obtain ⟨found, c', hs⟩ := ih _ hskip
      exact ⟨_, _, by simp only [lines, hin, Option.bind_eq_bind, Option.bind_some, hv, hs]; rfl⟩
    | some amount =>
      obtain ⟨found, c', hs⟩ := ih (c.leave after id) (by rw [hout]; exact h)
      exact ⟨_, _, by simp only [lines, hin, Option.bind_eq_bind, Option.bind_some, hv, hs]; rfl⟩

theorem base_ends (hends : Ends sheet roller depth) (stat : Statistic) (c : Course σ)
    (h : sheet.unmarked (stat.id :: c.marks) ≤ depth) :
    ∃ value c', base sheet roller (statistic sheet roller depth) stat c = some (value, c') ∧
      sheet.unmarked (stat.id :: c'.marks) = sheet.unmarked (stat.id :: c.marks) := by
  cases stat with
  | ofAttribute a => exact ⟨_, _, rfl, rfl⟩
  | ofSkill owner s => exact ⟨_, _, rfl, rfl⟩
  | ofDerived d =>
    obtain ⟨x, after, hx⟩ := term_ends hends d.term (c.enter d.id) (unmarked_enter c d.id ▸ h)
    have hmarks : after.marks = (c.enter d.id).marks :=
      (evaluates_term (evaluates_statistic depth) hx).marks_eq
    have hin := inside_eq_some_iff.mpr ⟨after, hx, rfl⟩
    exact ⟨x.value, c.leave after d.id, by simp only [base, hin]; rfl, unmarked_leave hmarks⟩

theorem statistic_ends (sheet : Sheet) (roller : Roller σ) (depth : Nat) :
    Ends sheet roller depth := by
  induction depth with
  | zero =>
    intro stat c h
    omega
  | succ depth ih =>
    intro stat c h
    obtain ⟨value, between, hv, hmarks⟩ := base_ends ih stat c (by omega)
    obtain ⟨found, c', hs⟩ := lines_ends ih stat.id (sheet.modifiersOn stat.id) between (by omega)
    exact ⟨_, _, by simp only [statistic, hv, hs, Option.bind_eq_bind, Option.bind_some]; rfl⟩

end Evaluation

namespace Sheet

theorem unmarked_le_length (marks : List String) :
    sheet.unmarked marks ≤ sheet.statistics.length := List.countP_le_length

theorem refer_ends (sheet : Sheet) (roller : Roller σ) (stat : Statistic) (c : Course σ) :
    ∃ b c', sheet.refer roller stat c = some (b, c') :=
  Evaluation.statistic_ends sheet roller sheet.depth stat c
    (Nat.lt_succ_of_le (sheet.unmarked_le_length (stat.id :: c.marks)))

/-- The breakdown of a statistic follows from the rules. -/
theorem evaluates_evaluate (roller : Roller σ) {name : String} {stat : Statistic}
    (h : sheet.find? name = some stat) (c : Course σ) :
    Evaluates sheet roller (.statistic stat) c (.statistic (sheet.evaluate roller name c).1)
      (sheet.evaluate roller name c).2 := by
  obtain ⟨b, c', hb⟩ := sheet.refer_ends roller stat c
  have he : sheet.evaluate roller name c = (b, c') := by
    simp only [evaluate, h, hb, Option.getD_some]
  rw [he]
  exact Evaluation.evaluates_statistic sheet.depth stat c b c' hb

/-- The outcome of a formula follows from the rules. -/
theorem evaluates_evaluateFormula (sheet : Sheet) (roller : Roller σ) (source : String)
    (c : Course σ) :
    Evaluates sheet roller (.formula source) c
      (.formula (sheet.evaluateFormula roller source c).1)
      (sheet.evaluateFormula roller source c).2 := by
  have hle : sheet.unmarked c.marks ≤ sheet.depth :=
    Nat.le_succ_of_le (sheet.unmarked_le_length c.marks)
  have hends := Evaluation.statistic_ends sheet roller sheet.depth
  obtain ⟨r, c', hr⟩ := Evaluation.formula_ends hends source c hle
  have he : sheet.evaluateFormula roller source c = (r, c') := by
    have hr' : Evaluation.formula sheet roller (sheet.refer roller) source c = some (r, c') := hr
    simp only [evaluateFormula, hr', Option.getD_some]
  rw [he]
  exact Evaluation.evaluates_formula (Evaluation.evaluates_statistic sheet.depth) hr

/-- A formula is evaluated in full if as many statistics may be nested as are not marked, and so is
a statistic by its name; one that is marked itself needs one level more. A name without a statistic
evaluates nothing. -/
theorem evaluate_within_unmarked (sheet : Sheet) (roller : Roller σ) (c : Course σ) :
    (∀ source depth, sheet.unmarked c.marks ≤ depth →
      Evaluation.formula sheet roller (Evaluation.statistic sheet roller depth) source c =
        some (sheet.evaluateFormula roller source c)) ∧
    (∀ name stat depth, sheet.find? name = some stat →
      sheet.unmarked c.marks + (if c.isMarked stat.id then 1 else 0) ≤ depth →
      Evaluation.statistic sheet roller depth stat c = some (sheet.evaluate roller name c)) ∧
    ∀ name, sheet.find? name = none → sheet.evaluate roller name c = (noBreakdown, c) := by
  refine ⟨?_, ?_, ?_⟩
  · intro source depth hd
    have hends := Evaluation.statistic_ends sheet roller depth
    obtain ⟨r, c', hr⟩ := Evaluation.formula_ends hends source c hd
    have he := Evaluation.evaluates_formula (Evaluation.evaluates_statistic depth) hr
    obtain ⟨hf, hc⟩ := he.unique (sheet.evaluates_evaluateFormula roller source c)
    rw [hr, Finding.formula.inj hf, hc]
  · intro name stat depth hf hd
    have hless : sheet.unmarked (stat.id :: c.marks) < depth := by
      cases hm : c.isMarked stat.id with
      | true =>
        have hmem : stat.id ∈ c.marks := by simpa [Course.isMarked] using hm
        have hsame : sheet.unmarked (stat.id :: c.marks) = sheet.unmarked c.marks :=
          unmarked_cons_of_mem hmem
        simp only [hm, if_true] at hd
        omega
      | false =>
        have hmem : stat.id ∉ c.marks := by simpa [Course.isMarked] using hm
        have hlt := unmarked_cons_lt (mem_of_statistic? (statistic?_of_find? hf)) hmem
        omega
    have hends := Evaluation.statistic_ends sheet roller depth
    obtain ⟨b, c', hb⟩ := hends stat c hless
    have he := Evaluation.evaluates_statistic depth stat c b c' hb
    obtain ⟨hf', hc⟩ := he.unique (evaluates_evaluate roller hf c)
    rw [hb, Finding.statistic.inj hf', hc]
  · intro name hf
    simp only [evaluate, hf]

end Sheet

end Tabletop
