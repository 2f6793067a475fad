import Mathlib.Data.List.Basic
import Tabletop.Proofs.Evaluation.Circularity

/-!
# What statistics are worth

On a sheet without cycles every statistic has a value of its own: its level or the value of its
formula, with the values of the modifiers on it added in order. These values are defined all at once
by what statistics refer to, without marks or an order of evaluation.

Evaluation finds them. The marks on its way are those of statistics that it is inside of, and on a
sheet without cycles it never gets back to one of them.
-/
namespace Tabletop

/-- The dice show the same face whenever dice of that many sides are rolled. -/
def Roller.Shows {σ : Type} (roller : Roller σ) (face : Nat → Int) : Prop :=
  ∀ sides s, (roller sides s).1 = face sides

/-- The value of a term, given the faces of dice and what names stand for. -/
def Term.value (face : Nat → Int) (meaning : String → Number) : Term → Number
  | literal _ n => .int n
  | dice _ d => .int (d.count * face d.sides)
  | stat _ name => meaning name
  | negation _ _ operand => (operand.value face meaning).neg
  | binary _ op _ left right => op.apply (left.value face meaning) (right.value face meaning)

namespace Sheet

/-- The value that a name stands for, zero if there is no such statistic. -/
def meaning (sheet : Sheet) (val : Statistic → Number) (name : String) : Number :=
  match sheet.find? name with
  | none => .int 0
  | some stat => val stat

/-- The value of a formula, if it parses. -/
def formulaValue? (sheet : Sheet) (face : Nat → Int) (val : Statistic → Number) (source : String) :
    Option Number :=
  (parse source).term.map (Term.value face (sheet.meaning val))

/-- The value of a statistic without modifiers: its level, or the value of its formula. -/
def baseValue (sheet : Sheet) (face : Nat → Int) (val : Statistic → Number) : Statistic → Number
  | .ofAttribute a => .int a.track.level
  | .ofSkill owner s => .int (s.track.level + owner.track.level)
  | .ofDerived d => (sheet.formulaValue? face val d.formula).getD (.int 0)

/-- What a statistic is worth if all statistics have the given values: modifiers that parse are
added to its value without them. -/
def worth (sheet : Sheet) (face : Nat → Int) (val : Statistic → Number) (stat : Statistic) :
    Number :=
  ((sheet.modifiersOn stat.id).filterMap fun m =>
    sheet.formulaValue? face val m.formula).foldl Number.add (sheet.baseValue face val stat)

/-- Every statistic of the sheet has the value that it is worth. -/
def IsValuation (sheet : Sheet) (face : Nat → Int) (val : Statistic → Number) : Prop :=
  ∀ stat ∈ sheet.statistics, val stat = sheet.worth face val stat

end Sheet

/-! ### There is one valuation -/

theorem Term.value_congr {face : Nat → Int} {meaning other : String → Number} {t : Term}
    (h : ∀ name ∈ t.names, meaning name = other name) :
    t.value face meaning = t.value face other := by
  induction t with
  | literal place n => rfl
  | dice place d => rfl
  | stat place name => exact h name (List.mem_singleton_self name)
  | negation place sign t ih => simp only [value, ih h]
  | binary place op sign t u iht ihu =>
    have hl := iht fun name hn => h name (List.mem_append_left _ hn)
    have hr := ihu fun name hn => h name (List.mem_append_right _ hn)
    simp only [value, hl, hr]

namespace Sheet

variable {sheet : Sheet} {face : Nat → Int} {val other : Statistic → Number}

theorem meaning_of_find? {name : String} {stat : Statistic} (h : sheet.find? name = some stat) :
    sheet.meaning val name = val stat := by
  simp only [meaning, h]

theorem meaning_of_find?_eq_none {name : String} (h : sheet.find? name = none) :
    sheet.meaning val name = .int 0 := by
  simp only [meaning, h]

theorem formulaValue?_congr {source : String}
    (h : ∀ target, sheet.Mentions source target → val target = other target) :
    sheet.formulaValue? face val source = sheet.formulaValue? face other source := by
  unfold formulaValue?
  refine Option.map_congr fun t ht => Term.value_congr fun name hn => ?_
  cases hf : sheet.find? name with
  | none => rw [meaning_of_find?_eq_none hf, meaning_of_find?_eq_none hf]
  | some target =>
    rw [meaning_of_find? hf, meaning_of_find? hf]
    exact h target ((mentions_iff ht target).mpr ⟨name, hn, hf⟩)

/-- What a statistic is worth depends only on the values of those that it refers to. -/
theorem worth_congr {stat : Statistic}
    (h : ∀ target, sheet.Refers stat target → val target = other target) :
    sheet.worth face val stat = sheet.worth face other stat := by
  have hbase : sheet.baseValue face val stat = sheet.baseValue face other stat := by
    cases stat with
    | ofAttribute a => rfl
    | ofSkill owner s => rfl
    | ofDerived d =>
      have hvalue : sheet.formulaValue? face val d.formula =
          sheet.formulaValue? face other d.formula :=
        formulaValue?_congr fun target hm => h target (refers_iff.mpr (.inl ⟨d.formula, rfl, hm⟩))
      simp only [baseValue, hvalue]
  have hlines : ∀ m ∈ sheet.modifiersOn stat.id,
      sheet.formulaValue? face val m.formula = sheet.formulaValue? face other m.formula := by
    intro m hm
    exact formulaValue?_congr fun target ht => h target (refers_iff.mpr (.inr ⟨m, hm, ht⟩))
  unfold worth
  rw [hbase, List.filterMap_congr hlines]

theorem Acyclic.exists_isValuation (h : sheet.Acyclic) (face : Nat → Int) :
    ∃ val, sheet.IsValuation face val := by
  classical
  -- what a statistic does not refer to counts as zero while its own value is made
  let rule (stat : Statistic) (below : ∀ target, flip sheet.Refers target stat → Number) : Number :=
    sheet.worth face (fun target => if hr : sheet.Refers stat target then below target hr
      else .int 0) stat
  refine ⟨h.wellFounded.fix rule, fun stat _ => ?_⟩
  rw [h.wellFounded.fix_eq]
  refine worth_congr fun target hr => ?_
  rw [dif_pos hr]

theorem IsValuation.unique (h : sheet.Acyclic) (hval : sheet.IsValuation face val)
    (hother : sheet.IsValuation face other) {stat : Statistic} (hstat : stat ∈ sheet.statistics) :
    other stat = val stat := by
  induction stat using h.wellFounded.induction with
  | h stat ih =>
    rw [hother stat hstat, hval stat hstat]
    exact worth_congr fun target hr => ih target hr (mem_of_statistic? (statistic?_of_refers hr))

end Sheet

/-! ### Evaluation finds its values -/

/-- Dice that show one face add up to a multiple of it. -/
theorem Roller.Shows.sum_rolls {σ : Type} {roller : Roller σ} {face : Nat → Int}
    (h : roller.Shows face) (sides count : Nat) (s : σ) :
    (roller.rolls sides count s).1.foldr (· + ·) 0 = count * face sides := by
  induction count generalizing s with
  | zero => simp [rolls]
  | succ count ih =>
    simp only [rolls, List.foldr_cons, ih, h sides s]
    push_cast
    rw [Int.add_mul, Int.one_mul, Int.add_comm]

theorem Breakdown.final_eq (b : Breakdown) :
    b.final = (b.lines.map BreakdownLine.amount).foldl Number.add b.base := by
  rw [final, List.foldl_map]

theorem Derived.value_term {sheet : Sheet} {face : Nat → Int} {val : Statistic → Number}
    (d : Derived) : d.term.value face (sheet.meaning val) =
      (sheet.formulaValue? face val d.formula).getD (.int 0) := by
  unfold Sheet.formulaValue? Derived.term Derived.parsed
  cases (parse d.formula).term with
  | none => rfl
  | some t => rfl

theorem Sheet.baseValue_of_level? {sheet : Sheet} {face : Nat → Int} {val : Statistic → Number}
    {stat : Statistic} {n : Nat} (h : stat.level? = some n) :
    sheet.baseValue face val stat = .int n := by
  cases stat with
  | ofAttribute a =>
    cases h
    rfl
  | ofSkill owner s =>
    cases h
    rfl
  | ofDerived d => cases h

/-- What is found of a task has the value that the task has. -/
def Finding.Agrees (sheet : Sheet) (face : Nat → Int) (val : Statistic → Number) :
    Task → Finding → Prop
  | .term t, .term x => x.value = t.value face (sheet.meaning val)
  | .formula source, .formula r => r.value? = sheet.formulaValue? face val source
  | .lines _ ms, .lines found => found.map BreakdownLine.amount =
      ms.filterMap fun m => sheet.formulaValue? face val m.formula
  | .statistic stat, .statistic b => b.final = sheet.worth face val stat
  | _, _ => False

variable {σ : Type} {sheet : Sheet} {roller : Roller σ} {face : Nat → Int}
  {val : Statistic → Number}

/-- The induction is on the rules: where no mark is met, every name stands for its value. -/
theorem Evaluates.agrees {task : Task} {found : Finding} {c c' : Course σ}
    (h : Evaluates sheet roller task c found c') (hface : roller.Shows face)
    (hval : sheet.IsValuation face val) (hfree : task.IsFree c)
    (hmeets : ¬ task.Meets sheet c.marks) : found.Agrees sheet face val task := by
  induction h with
  | literal => rfl
  | @dice place d c =>
    have hsum := hface.sum_rolls d.sides d.count c.dice
    simp only [Finding.Agrees, Evaluation.dice, Evaluated.value, Term.value, hsum]
  | unknown h => exact (Sheet.meaning_of_find?_eq_none h).symm
  | @circular place name stat c h hm =>
    have hmem : stat.id ∈ c.marks := by simpa [Course.isMarked] using hm
    exact absurd ((Task.meets_stat h).mpr (.inl hmem)) hmeets
  | @known place name stat b c c' h hm _ ih =>
    have hstat := Sheet.mem_of_statistic? (Sheet.statistic?_of_find? h)
    have hb : b.final = sheet.worth face val stat :=
      ih hm fun hw => hmeets ((Task.meets_stat h).mpr (.inr hw))
    simp only [Finding.Agrees, Evaluated.value, Term.value, Sheet.meaning_of_find? h, hb,
      hval stat hstat]
  | @negation place sign t x c c' _ ih =>
    have hx : x.value = t.value face (sheet.meaning val) := ih trivial hmeets
    rw [Finding.Agrees, Term.value, ← hx]
    rfl
  | @binary place op sign t u x y c c' c'' hl _ ihl ihr =>
    rw [Task.meets_binary, not_or] at hmeets
    have hmarks : c'.marks = c.marks := hl.marks_eq
    have hx : x.value = t.value face (sheet.meaning val) := ihl trivial hmeets.1
    have hy : y.value = u.value face (sheet.meaning val) := ihr trivial (hmarks ▸ hmeets.2)
    rw [Finding.Agrees, Term.value, ← hx, ← hy]
    rfl
  | unparsed h => simp only [Finding.Agrees, FormulaResult.value?, Sheet.formulaValue?, h,
      Option.map_none]
  | @parsed source t x c c' h _ ih =>
    rw [Task.meets_formula h] at hmeets
    have hx : x.value = t.value face (sheet.meaning val) := ih trivial hmeets
    simp only [Finding.Agrees, FormulaResult.value?, Sheet.formulaValue?, h, Option.map_some, hx]
  | noLines => rfl
  | @skip id m ms r found c c' c'' he hv _ ihf ihs =>
    rw [Task.meets_lines_cons, not_or, ← Course.marks_enter_of_not_isMarked hfree] at hmeets
    have hout : (c.leave c' id).marks = c.marks :=
      Course.marks_leave_of_not_isMarked hfree he.marks_eq
    have hr : r.value? = sheet.formulaValue? face val m.formula := ihf trivial hmeets.1
    have hrest : found.map BreakdownLine.amount =
        ms.filterMap fun m => sheet.formulaValue? face val m.formula :=
      ihs ((Course.isMarked_eq_false_congr hout).mpr hfree) (hout.symm ▸ hmeets.2)
    rw [Finding.Agrees, hrest, List.filterMap_cons_none (hr ▸ hv)]
  | @line id m ms r amount found c c' c'' he hv _ ihf ihs =>
    rw [Task.meets_lines_cons, not_or, ← Course.marks_enter_of_not_isMarked hfree] at hmeets
    have hout : (c.leave c' id).marks = c.marks :=
      Course.marks_leave_of_not_isMarked hfree he.marks_eq
    have hr : r.value? = sheet.formulaValue? face val m.formula := ihf trivial hmeets.1
    have hrest : found.map BreakdownLine.amount =
        ms.filterMap fun m => sheet.formulaValue? face val m.formula :=
      ihs ((Course.isMarked_eq_false_congr hout).mpr hfree) (hout.symm ▸ hmeets.2)
    rw [Finding.Agrees, List.map_cons, hrest, List.filterMap_cons_some (hr ▸ hv)]
  | @level stat n found c c' h _ ih =>
    rw [Task.meets_level h] at hmeets
    have hlines : found.map BreakdownLine.amount = (sheet.modifiersOn stat.id).filterMap fun m =>
        sheet.formulaValue? face val m.formula := ih hfree hmeets
    rw [Finding.Agrees, Breakdown.final_eq, hlines, Sheet.worth, Sheet.baseValue_of_level? h]
  | @derived d x found c c' c'' he _ iht ihs =>
    have hfree : c.isMarked d.id = false := hfree
    rw [Task.meets_derived, not_or, ← Course.marks_enter_of_not_isMarked hfree] at hmeets
    have hout : (c.leave c' d.id).marks = c.marks :=
      Course.marks_leave_of_not_isMarked hfree he.marks_eq
    have hx : x.value = d.term.value face (sheet.meaning val) := iht trivial hmeets.1
    have hlines : found.map BreakdownLine.amount = (sheet.modifiersOn d.id).filterMap fun m =>
        sheet.formulaValue? face val m.formula :=
      ihs ((Course.isMarked_eq_false_congr hout).mpr hfree) (hout.symm ▸ hmeets.2)
    rw [Finding.Agrees, Breakdown.final_eq, hlines, hx, d.value_term]
    rfl

namespace Sheet

theorem IsValuation.final_eq (hacyclic : sheet.Acyclic) (hface : roller.Shows face)
    (hval : sheet.IsValuation face val) {name : String} {stat : Statistic} {c : Course σ}
    (hf : sheet.find? name = some stat) (hmarks : sheet.Enclosed c.marks stat) :
    (sheet.evaluate roller name c).1.final = val stat := by
  have hstat := statistic?_of_find? hf
  have hfree : c.isMarked stat.id = false := by
    simpa [Course.isMarked] using hacyclic.not_mem_of_enclosed hstat hmarks
  have hmeets := hacyclic.not_runsInto_of_enclosed hstat hmarks
  rw [hval stat (mem_of_statistic? hstat)]
  exact (evaluates_evaluate roller hf c).agrees hface hval hfree hmeets

theorem IsValuation.value?_eq (hacyclic : sheet.Acyclic) (hface : roller.Shows face)
    (hval : sheet.IsValuation face val) {source : String} {c : Course σ}
    (hmarks : ∀ target, sheet.Mentions source target → sheet.Enclosed c.marks target) :
    (sheet.evaluateFormula roller source c).1.value? = sheet.formulaValue? face val source := by
  refine (sheet.evaluates_evaluateFormula roller source c).agrees hface hval trivial ?_
  rintro ⟨target, hm, hmark | hwalk⟩
  · exact hacyclic.not_mem_of_enclosed (statistic?_of_mentions hm) (hmarks target hm) hmark
  · exact hacyclic.not_runsInto_of_enclosed (statistic?_of_mentions hm) (hmarks target hm) hwalk

/-- A sheet without cycles has exactly one valuation, and everything is evaluated to what it says:
statistics and formulas alike, without marks or within any statistics that lead to them. -/
theorem exists_valuation_of_acyclic (hacyclic : sheet.Acyclic) (hface : roller.Shows face) :
    ∃ val, sheet.IsValuation face val ∧
      (∀ other, sheet.IsValuation face other → ∀ stat ∈ sheet.statistics, other stat = val stat) ∧
      (∀ name stat c, sheet.find? name = some stat → sheet.Enclosed c.marks stat →
        (sheet.evaluate roller name c).1.final = val stat) ∧
      ∀ source t c, (parse source).term = some t →
        (∀ target, sheet.Mentions source target → sheet.Enclosed c.marks target) →
        (sheet.evaluateFormula roller source c).1.value? =
          some (t.value face (sheet.meaning val)) := by
  obtain ⟨val, hval⟩ := hacyclic.exists_isValuation face
  refine ⟨val, hval, ?_, ?_, ?_⟩
  · intro other hother stat hstat
    exact hval.unique hacyclic hother hstat
  · intro name stat c hf hmarks
    exact hval.final_eq hacyclic hface hf hmarks
  · intro source t c ht hmarks
    rw [hval.value?_eq hacyclic hface hmarks, formulaValue?, ht, Option.map_some]

/-- The strength of the fighter below. -/
def strength : Attribute := ⟨"STR", "Strength", "", ⟨[10, 20], 2, 0, by decide⟩, []⟩

/-- How hard the fighter below hits. -/
def hit : Derived := ⟨"HIT", "Hit", "", "STR * 2 + 1"⟩

/-- A fighter with a belt that makes strong. -/
def fighter : Sheet := ⟨.blank, [strength], [hit], [⟨"STR", "Belt", "1d4"⟩], []⟩

theorem fighter_acyclic : fighter.Acyclic := by
  refine .of_rank (fun stat => if stat.level?.isSome then 0 else 1) ?_
  decide +kernel

/-- With dice that show a 3, the fighter has strength 5 and hits with 11. -/
theorem exists_valuation_fighter :
    fighter.Acyclic ∧ (Roller.fixed 3).Shows (fun sides => max 1 (min 3 sides)) ∧
      ∃ val, fighter.IsValuation (fun sides => max 1 (min 3 sides)) val ∧
        val (.ofAttribute strength) = .int 5 ∧ val (.ofDerived hit) = .int 11 := by
  have hface : (Roller.fixed 3).Shows fun sides => max 1 (min 3 sides) := fun _ _ => rfl
  obtain ⟨val, hval, -, heval, -⟩ := exists_valuation_of_acyclic fighter_acyclic hface
  have hfind : fighter.find? "str" = some (.ofAttribute strength) ∧
      fighter.find? "hit" = some (.ofDerived hit) := by decide +kernel
  have hstrength := heval _ _ (.fresh () .empty) hfind.1 (enclosed_nil _)
  have hhit := heval _ _ (.fresh () .empty) hfind.2 (enclosed_nil _)
  refine ⟨fighter_acyclic, hface, val, hval, ?_, ?_⟩
  · rw [← hstrength]
    decide +kernel
  · rw [← hhit]
    decide +kernel

end Sheet

end Tabletop
