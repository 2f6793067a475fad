import Tabletop.Proofs.Evaluation.Integers
import Tabletop.Proofs.Evaluation.Marks

/-!
# The order of modifiers

With dice that always show the same faces, a statistic is worth the same each time that it is met
inside of the same others, on sheets with cycles too: all its modifiers are evaluated inside of the
same statistics, whatever stood before them. What they add are integers where nothing is divided,
and these come to the same in every order.
-/
namespace Tabletop

namespace Sheet

/-- What a statistic is worth inside of the given ones; zero if it is one of them. -/
def valueWithin (sheet : Sheet) (face : Nat → Int) (within : List String) (stat : Statistic) :
    Number :=
  if _ : stat ∈ sheet.statistics ∧ stat.id ∉ within then
    sheet.worth face (fun next => sheet.valueWithin face (stat.id :: within) next) stat
  else .int 0
termination_by sheet.unmarked within
decreasing_by
  rename_i h
  exact unmarked_cons_lt h.1 h.2

variable {sheet : Sheet} {face : Nat → Int} {within : List String} {stat : Statistic}

theorem valueWithin_of_outside (h : stat ∈ sheet.statistics ∧ stat.id ∉ within) :
    sheet.valueWithin face within stat =
      sheet.worth face (sheet.valueWithin face (stat.id :: within)) stat := by
  rw [valueWithin, dif_pos h]

theorem valueWithin_of_not_outside (h : ¬ (stat ∈ sheet.statistics ∧ stat.id ∉ within)) :
    sheet.valueWithin face within stat = .int 0 := by
  rw [valueWithin, dif_neg h]

end Sheet

/-! ### Evaluation inside of statistics -/

/-- What is found of a task has the value that the task has; a statistic is found part for part. -/
def Finding.AgreesInParts (sheet : Sheet) (face : Nat → Int) (val : Statistic → Number) :
    Task → Finding → Prop
  | .statistic stat, .statistic b => b.base = sheet.baseValue face val stat ∧
      b.lines.map BreakdownLine.amount = (sheet.modifiersOn stat.id).filterMap fun m =>
        sheet.formulaValue? face val m.formula
  | task, found => found.Agrees sheet face val task

theorem Finding.AgreesInParts.final_eq {sheet : Sheet} {face : Nat → Int}
    {val : Statistic → Number} {stat : Statistic} {b : Breakdown}
    (h : (Finding.statistic b).AgreesInParts sheet face val (.statistic stat)) :
    b.final = sheet.worth face val stat := by
  obtain ⟨hbase, hlines⟩ := h
  rw [Breakdown.final_eq, hbase, hlines]
  rfl

variable {σ : Type} {sheet : Sheet} {roller : Roller σ} {face : Nat → Int} {within : List String}

/-- The induction is on the rules. The statistics that a rule hands down to its parts are the ones
that their values are taken inside of. -/
theorem Evaluates.agreesWithin {task : Task} {found : Finding} {c c' : Course σ}
    (h : Evaluates sheet roller task c found c') (hface : roller.Shows face)
    (hscope : ∀ id, id ∈ task.scope c.marks ↔ id ∈ task.scope within) :
    found.AgreesInParts sheet face (sheet.valueWithin face (task.scope within)) task := by
  induction h generalizing within with
  | literal => rfl
  | @dice place d c =>
    have hsum := hface.sum_rolls d.sides d.count c.dice
    simp only [Finding.AgreesInParts, Finding.Agrees, Evaluation.dice, Evaluated.value, Term.value,
      hsum]
  | unknown h => exact (Sheet.meaning_of_find?_eq_none h).symm
  | @circular place name stat c h hm =>
    have hmarked : stat.id ∈ c.marks := by simpa [Course.isMarked] using hm
    have hmem : stat.id ∈ within := (hscope stat.id).mp hmarked
    have hzero : sheet.valueWithin face within stat = .int 0 :=
      Sheet.valueWithin_of_not_outside fun hout => hout.2 hmem
    exact ((Sheet.meaning_of_find? h).trans hzero).symm
  | @known place name stat b c c' h hm _ ih =>
    have hstat := Sheet.mem_of_statistic? (Sheet.statistic?_of_find? h)
    have hout : stat.id ∉ c.marks := by simpa [Course.isMarked] using hm
    have hmem : stat.id ∉ within := fun hin => hout ((hscope stat.id).mpr hin)
    have hb : b.final = sheet.worth face (sheet.valueWithin face (stat.id :: within)) stat :=
      (ih (Task.mem_scope_statistic hscope)).final_eq
    have hvalue : b.final = sheet.valueWithin face within stat :=
      hb.trans (Sheet.valueWithin_of_outside ⟨hstat, hmem⟩).symm
    exact hvalue.trans (Sheet.meaning_of_find? h).symm
  | @negation place sign t x c c' _ ih =>
    have hx : x.value = t.value face (sheet.meaning (sheet.valueWithin face within)) := ih hscope
    exact congrArg Number.neg hx
  | @binary place op sign t u x y c c' c'' hl _ ihl ihr =>
    have hmarks : c'.marks = c.marks := hl.marks_eq
    have hbetween : ∀ id, id ∈ c'.marks ↔ id ∈ within := hmarks.symm ▸ hscope
    have hx : x.value = t.value face (sheet.meaning (sheet.valueWithin face within)) := ihl hscope
    have hy : y.value = u.value face (sheet.meaning (sheet.valueWithin face within)) :=
      ihr hbetween
    exact congrArg₂ op.apply hx hy
  | unparsed h => simp only [Finding.AgreesInParts, Finding.Agrees, FormulaResult.value?,
      Sheet.formulaValue?, h, Option.map_none]
  | @parsed source t x c c' h _ ih =>
    have hx : x.value = t.value face (sheet.meaning (sheet.valueWithin face within)) := ih hscope
    simp only [Finding.AgreesInParts, Finding.Agrees, FormulaResult.value?, Sheet.formulaValue?, h,
      Option.map_some, hx]
    rfl
  | noLines => rfl
  | @skip id m ms r found c c' c'' he hv _ ihf ihs =>
    have hr : r.value? =
        sheet.formulaValue? face (sheet.valueWithin face (id :: within)) m.formula :=
      ihf (Course.mem_enter_iff hscope)
    have hrest : found.map BreakdownLine.amount = ms.filterMap fun m =>
        sheet.formulaValue? face (sheet.valueWithin face (id :: within)) m.formula :=
      ihs (Course.mem_leave_iff he.marks_eq hscope)
    exact hrest.trans (List.filterMap_cons_none (hr ▸ hv)).symm
  | @line id m ms r amount found c c' c'' he hv _ ihf ihs =>
    have hr : r.value? =
        sheet.formulaValue? face (sheet.valueWithin face (id :: within)) m.formula :=
      ihf (Course.mem_enter_iff hscope)
    have hrest : found.map BreakdownLine.amount = ms.filterMap fun m =>
        sheet.formulaValue? face (sheet.valueWithin face (id :: within)) m.formula :=
      ihs (Course.mem_leave_iff he.marks_eq hscope)
    exact (congrArg (amount :: ·) hrest).trans (List.filterMap_cons_some (hr ▸ hv)).symm
  | level h _ ih => exact ⟨(Sheet.baseValue_of_level? h).symm, ih hscope⟩
  | @derived d x found c c' c'' he _ iht ihs =>
    have hx : x.value =
        d.term.value face (sheet.meaning (sheet.valueWithin face (d.id :: within))) :=
      iht (Course.mem_enter_iff hscope)
    exact ⟨hx.trans d.value_term, ihs (Course.mem_leave_iff he.marks_eq hscope)⟩

theorem Course.SameMarks.mem_iff {c d : Course σ} (h : c.SameMarks d) (id : String) :
    id ∈ d.marks ↔ id ∈ c.marks := by
  simpa [isMarked] using Bool.eq_iff_iff.mp (h id)

namespace Sheet

variable {c d : Course σ}

/-- A statistic is found part for part as it is worth inside of those that are marked. -/
theorem evaluate_agreesInParts (hface : roller.Shows face) {name : String} {stat : Statistic}
    (hf : sheet.find? name = some stat) (hmarks : c.SameMarks d) :
    (Finding.statistic (sheet.evaluate roller name d).1).AgreesInParts sheet face
      (sheet.valueWithin face (stat.id :: c.marks)) (.statistic stat) :=
  (evaluates_evaluate roller hf d).agreesWithin hface (Task.mem_scope_statistic hmarks.mem_iff)

/-- In a formula names stand for what their statistics are worth inside of those that are marked. -/
theorem value?_evaluateFormula (hface : roller.Shows face) (source : String)
    (hmarks : c.SameMarks d) : (sheet.evaluateFormula roller source d).1.value? =
      sheet.formulaValue? face (sheet.valueWithin face c.marks) source :=
  (sheet.evaluates_evaluateFormula roller source d).agreesWithin hface hmarks.mem_iff

end Sheet

/-! ### Adding in another order -/

/-- Integers add up to the same in every order. -/
theorem Number.foldl_add_perm {l l' : List Number} (h : l.Perm l')
    (hints : ∀ x ∈ l, ∃ a, x = .int a) (n : Int) :
    l.foldl Number.add (.int n) = l'.foldl Number.add (.int n) := by
  induction h generalizing n with
  | nil => rfl
  | cons x _ ih =>
    obtain ⟨a, rfl⟩ := hints x List.mem_cons_self
    exact ih (fun y hy => hints y (List.mem_cons_of_mem _ hy)) (n + a)
  | swap x y l =>
    -- only integers add up alike in both orders; what they are added to is one as well
    obtain ⟨a, rfl⟩ := hints x (List.mem_cons_of_mem _ List.mem_cons_self)
    obtain ⟨b, rfl⟩ := hints y List.mem_cons_self
    simp only [List.foldl_cons, Number.add_int, Int.add_right_comm]
  | trans hfirst _ ih ih' =>
    exact (ih hints n).trans (ih' (fun x hx => hints x (hfirst.mem_iff.mpr hx)) n)

namespace Sheet

/-- The values that statistics take are integers where nothing is divided: evaluation finds them. -/
theorem exists_ints (hsheet : sheet.divides = false) (hface : roller.Shows face) (dice : σ)
    (within : List String) {stat : Statistic} (hstat : stat ∈ sheet.statistics) :
    ∃ base, sheet.baseValue face (sheet.valueWithin face (stat.id :: within)) stat = .int base ∧
      ∀ m ∈ sheet.modifiersOn stat.id, ∀ amount,
        sheet.formulaValue? face (sheet.valueWithin face (stat.id :: within)) m.formula =
          some amount → ∃ a, amount = .int a := by
  obtain ⟨b, c', hb⟩ := sheet.refer_ends roller stat ⟨dice, within, [], .empty⟩
  have he := Evaluation.evaluates_statistic sheet.depth _ _ _ _ hb
  obtain ⟨hbase, hlines⟩ := he.agreesWithin hface fun _ => Iff.rfl
  obtain ⟨_, -, his⟩ := he.reckons hsheet (Task.divides_of_mem hsheet hstat) fun _ => Iff.rfl
  cases his with
  | @statistic _ base amounts hbase' hlines' =>
    refine ⟨base, hbase.symm.trans hbase', fun m hm amount hamount => ?_⟩
    have hmem : amount ∈ amounts.map Number.int :=
      (hlines.symm.trans hlines') ▸ List.mem_filterMap.mpr ⟨m, hm, hamount⟩
    obtain ⟨a, -, rfl⟩ := List.mem_map.mp hmem
    exact ⟨a, rfl⟩

/-- The sheet with other modifiers. -/
def withModifiers (sheet : Sheet) (ms : List Modifier) : Sheet := { sheet with modifiers := ms }

variable {ms : List Modifier} {val : Statistic → Number} {stat : Statistic}

theorem find?_withModifiers (ms : List Modifier) (name : String) :
    (sheet.withModifiers ms).find? name = sheet.find? name := rfl

/-- Modifiers that add integers to an integer may change places. -/
theorem worth_perm (hperm : ms.Perm sheet.modifiers) {base : Int}
    (hbase : sheet.baseValue face val stat = .int base)
    (hints : ∀ m ∈ sheet.modifiersOn stat.id, ∀ amount,
      sheet.formulaValue? face val m.formula = some amount → ∃ a, amount = .int a) :
    (sheet.withModifiers ms).worth face val stat = sheet.worth face val stat := by
  have hlines : ((ms.filter (·.stat == stat.id)).filterMap fun m =>
        sheet.formulaValue? face val m.formula).Perm
      ((sheet.modifiersOn stat.id).filterMap fun m => sheet.formulaValue? face val m.formula) :=
    (hperm.filter _).filterMap _
  have hamounts : ∀ x ∈ (ms.filter (·.stat == stat.id)).filterMap fun m =>
      sheet.formulaValue? face val m.formula, ∃ a, x = .int a := by
    intro x hx
    obtain ⟨m, hm, hvalue⟩ := List.mem_filterMap.mp (hlines.mem_iff.mp hx)
    exact hints m hm x hvalue
  have hsum := Number.foldl_add_perm hlines hamounts base
  rw [← hbase] at hsum
  exact hsum

/-- Statistics keep their values when modifiers change places. The induction is on the statistics
that a value is not taken inside of. -/
theorem valueWithin_perm (hsheet : sheet.divides = false) (hperm : ms.Perm sheet.modifiers)
    (hface : roller.Shows face) (dice : σ) (within : List String) (stat : Statistic) :
    (sheet.withModifiers ms).valueWithin face within stat =
      sheet.valueWithin face within stat := by
  induction within, stat using valueWithin.induct sheet with
  | case1 within stat h ih =>
    -- the induction gives all values inside of the statistic, and so each of its amounts
    obtain ⟨base, hbase, hints⟩ := exists_ints hsheet hface dice within h.1
    rw [sheet.valueWithin_of_outside h, ← worth_perm hperm hbase hints, ← funext ih]
    exact valueWithin_of_outside h
  | case2 within stat h =>
    rw [sheet.valueWithin_of_not_outside h]
    exact valueWithin_of_not_outside h

/-- Where nothing is divided, no order of the modifiers changes the value of anything, with dice
that always show the same faces: on the same marks, every statistic comes to the same base value and
the same final value, and every formula to the same value. -/
theorem evaluates_as_perm (hsheet : sheet.divides = false) (hperm : ms.Perm sheet.modifiers)
    (hface : roller.Shows face) {c d : Course σ} (hmarks : c.SameMarks d) :
    (∀ name,
      ((sheet.withModifiers ms).evaluate roller name d).1.base =
        (sheet.evaluate roller name c).1.base ∧
      ((sheet.withModifiers ms).evaluate roller name d).1.final =
        (sheet.evaluate roller name c).1.final) ∧
    ∀ source,
      ((sheet.withModifiers ms).evaluateFormula roller source d).1.value? =
        (sheet.evaluateFormula roller source c).1.value? := by
  have hval (within : List String) := funext (valueWithin_perm hsheet hperm hface c.dice within)
  have hself : c.SameMarks c := .of_eq rfl
  refine ⟨fun name => ?_, fun source => ?_⟩
  · cases hf : sheet.find? name with
    | none =>
      rw [evaluate, evaluate, find?_withModifiers, hf]
      exact ⟨rfl, rfl⟩
    | some stat =>
      have hf' : (sheet.withModifiers ms).find? name = some stat := hf
      have hfound := evaluate_agreesInParts hface hf hself
      have hfound' := evaluate_agreesInParts hface hf' hmarks
      rw [hval] at hfound'
      obtain ⟨base, hbase, hints⟩ :=
        exists_ints hsheet hface c.dice c.marks (mem_of_statistic? (statistic?_of_find? hf))
      constructor
      · exact hfound'.1.trans hfound.1.symm
      · rw [hfound.final_eq, hfound'.final_eq]
        exact worth_perm hperm hbase hints
  · rw [value?_evaluateFormula hface source hself, value?_evaluateFormula hface source hmarks, hval]
    rfl

/-- The rage of the fighter and the belt add the same in every order, though the rage looks back at
strength itself. -/
theorem evaluates_as_perm_berserk :
    berserk.divides = false ∧ berserk.modifiers.reverse.Perm berserk.modifiers ∧
      (Roller.fixed 3).Shows (fun sides => max 1 (min 3 sides)) ∧
      berserk.modifiers.reverse ≠ berserk.modifiers ∧
      ((berserk.withModifiers berserk.modifiers.reverse).evaluate (.fixed 3) "str"
        (.fresh () .empty)).1.final = .int (-1) := by
  have hsheet : berserk.divides = false := by decide +kernel
  have hperm : berserk.modifiers.reverse.Perm berserk.modifiers := List.reverse_perm _
  have hface := Roller.shows_fixed 3
  have hall := evaluates_as_perm hsheet hperm hface
    (.of_eq rfl : (Course.fresh () .empty).SameMarks (.fresh () .empty))
  refine ⟨hsheet, hperm, hface, by decide, (hall.1 "str").2.trans ?_⟩
  decide +kernel

end Sheet

end Tabletop
