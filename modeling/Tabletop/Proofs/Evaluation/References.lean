import Mathlib.Logic.Relation
import Mathlib.Tactic.Common
import Tabletop.Sheet

/-!
# References between statistics

A formula mentions the statistics that its names stand for, and a statistic refers to those that are
mentioned by its own formula or by the modifiers on it. Only formulas that parse mention anything.

Whoever follows references and remembers which statistics lie on the way runs into one of them
exactly if a cycle of references can be reached: a walk without that is a walk of ever fewer
statistics to go to.
-/
namespace Tabletop

/-- The names in a term, from left to right. -/
def Term.names : Term → List String
  | literal .. => []
  | dice .. => []
  | stat _ name => [name]
  | negation _ _ operand => operand.names
  | binary _ _ _ left right => left.names ++ right.names

/-- The formula of a derived statistic. -/
def Statistic.formula? : Statistic → Option String
  | ofAttribute _ => none
  | ofSkill .. => none
  | ofDerived d => some d.formula

namespace Sheet

/-- A formula parses, and one of its names stands for the statistic. -/
def Mentions (sheet : Sheet) (source : String) (target : Statistic) : Prop :=
  ∃ t, (parse source).term = some t ∧ ∃ name ∈ t.names, sheet.find? name = some target

/-- The formulas that are evaluated along with a statistic: its own and those of the modifiers on
it. -/
def formulasOf (sheet : Sheet) (stat : Statistic) : List String :=
  stat.formula?.toList ++ (sheet.modifiersOn stat.id).map Modifier.formula

/-- One of the formulas of a statistic mentions the other. -/
def Refers (sheet : Sheet) (stat target : Statistic) : Prop :=
  ∃ source ∈ sheet.formulasOf stat, sheet.Mentions source target

/-- From the statistic one can follow references to one that leads back to itself. -/
def LeadsToCycle (sheet : Sheet) (stat : Statistic) : Prop :=
  ∃ target, Relation.ReflTransGen sheet.Refers stat target ∧
    Relation.TransGen sheet.Refers target target

/-- No statistic leads back to itself. -/
def Acyclic (sheet : Sheet) : Prop := ∀ stat, ¬ Relation.TransGen sheet.Refers stat stat

/-- The marked ids are those of statistics that lead to this one, as it is inside of them. -/
def Enclosed (sheet : Sheet) (marks : List String) (stat : Statistic) : Prop :=
  ∀ id ∈ marks, ∃ outer, sheet.statistic? id = some outer ∧
    Relation.TransGen sheet.Refers outer stat

/-- The statistics that a formula mentions, as often as it does. -/
def mentioned (sheet : Sheet) (source : String) : List Statistic :=
  (((parse source).term.map Term.names).getD []).filterMap sheet.find?

/-- The statistics that a statistic refers to, as often as it does. -/
def references (sheet : Sheet) (stat : Statistic) : List Statistic :=
  (sheet.formulasOf stat).flatMap sheet.mentioned

variable {sheet : Sheet}

theorem mem_mentioned_iff {source : String} {target : Statistic} :
    target ∈ sheet.mentioned source ↔ sheet.Mentions source target := by
  unfold mentioned Mentions
  cases (parse source).term with
  | none => simp
  | some t => simp

theorem mem_references_iff {stat target : Statistic} :
    target ∈ sheet.references stat ↔ sheet.Refers stat target := by
  unfold references Refers
  simp only [List.mem_flatMap, mem_mentioned_iff]

/-! ### Statistics that are found -/

theorem statistic?_id {id : String} {stat : Statistic} (h : sheet.statistic? id = some stat) :
    stat.id = id := by simpa [statistic?] using List.find?_some h

theorem mem_of_statistic? {id : String} {stat : Statistic} (h : sheet.statistic? id = some stat) :
    stat ∈ sheet.statistics := List.mem_of_find?_eq_some h

/-- A statistic that a name stands for is the one with its id. -/
theorem statistic?_of_find? {name : String} {stat : Statistic} (h : sheet.find? name = some stat) :
    sheet.statistic? stat.id = some stat := by
  rw [find?] at h
  rwa [statistic?_id h]

theorem statistic?_of_mentions {source : String} {target : Statistic}
    (h : sheet.Mentions source target) : sheet.statistic? target.id = some target := by
  obtain ⟨_, _, _, _, hf⟩ := h
  exact statistic?_of_find? hf

theorem statistic?_of_refers {stat target : Statistic} (h : sheet.Refers stat target) :
    sheet.statistic? target.id = some target := by
  obtain ⟨_, _, hm⟩ := h
  exact statistic?_of_mentions hm

theorem statistic?_of_transGen {stat target : Statistic}
    (h : Relation.TransGen sheet.Refers stat target) :
    sheet.statistic? target.id = some target := by
  obtain ⟨_, _, hr⟩ := Relation.TransGen.tail'_iff.mp h
  exact statistic?_of_refers hr

/-! ### Statistics that are not marked -/

/-- How many statistics are not among the marked ones. -/
def unmarked (sheet : Sheet) (marks : List String) : Nat :=
  sheet.statistics.countP fun stat => !marks.contains stat.id

theorem unmarked_congr {marks others : List String} (h : ∀ id, id ∈ marks ↔ id ∈ others) :
    sheet.unmarked marks = sheet.unmarked others := by
  unfold unmarked
  congr 1
  funext stat
  simp only [List.contains_eq_mem, h]

/-- Marking an id takes away the statistics with that id that were not marked. -/
theorem unmarked_cons (id : String) (marks : List String) :
    sheet.unmarked (id :: marks) +
      sheet.statistics.countP (fun stat => stat.id == id && !marks.contains stat.id) =
      sheet.unmarked marks := by
  unfold unmarked
  induction sheet.statistics with
  | nil => rfl
  | cons stat rest ih =>
    simp only [List.countP_cons, ← ih]
    by_cases hid : stat.id = id <;> by_cases hm : stat.id ∈ marks <;>
      simp [hid, hm] <;> omega

theorem unmarked_cons_lt {stat : Statistic} {marks : List String} (h : stat ∈ sheet.statistics)
    (hm : stat.id ∉ marks) : sheet.unmarked (stat.id :: marks) < sheet.unmarked marks := by
  have hpos : 0 < sheet.statistics.countP fun s => s.id == stat.id && !marks.contains s.id :=
    List.countP_pos_iff.mpr ⟨stat, h, by simp [hm]⟩
  have hsum := sheet.unmarked_cons stat.id marks
  omega

theorem unmarked_cons_of_mem {id : String} {marks : List String} (h : id ∈ marks) :
    sheet.unmarked (id :: marks) = sheet.unmarked marks :=
  unmarked_congr fun other => by
    simp only [List.mem_cons, or_iff_right_iff_imp]
    rintro rfl
    exact h

/-! ### Walks along references -/

/-- Following references from a statistic runs into one that is marked or has been passed. -/
inductive RunsInto (sheet : Sheet) : List String → Statistic → Prop
  | here {marks : List String} {stat target : Statistic} : sheet.Refers stat target →
      target.id ∈ stat.id :: marks → RunsInto sheet marks stat
  | later {marks : List String} {stat target : Statistic} : sheet.Refers stat target →
      RunsInto sheet (stat.id :: marks) target → RunsInto sheet marks stat

theorem runsInto_iff {marks : List String} {stat : Statistic} :
    sheet.RunsInto marks stat ↔ ∃ target, sheet.Refers stat target ∧
      (target.id ∈ stat.id :: marks ∨ sheet.RunsInto (stat.id :: marks) target) := by
  constructor
  · rintro (⟨hr, hm⟩ | ⟨hr, hw⟩)
    · exact ⟨_, hr, .inl hm⟩
    · exact ⟨_, hr, .inr hw⟩
  · rintro ⟨target, hr, hm | hw⟩
    · exact .here hr hm
    · exact .later hr hw

theorem LeadsToCycle.head {stat target : Statistic} (h : sheet.Refers stat target)
    (hc : sheet.LeadsToCycle target) : sheet.LeadsToCycle stat := by
  obtain ⟨last, hr, hback⟩ := hc
  exact ⟨last, .head h hr, hback⟩

theorem enclosed_nil (stat : Statistic) : sheet.Enclosed [] stat := by
  intro id hid
  cases hid

/-- What a walk runs into lies on the way to itself, if the marked statistics are those passed. -/
theorem leadsToCycle_of_runsInto {marks : List String} {stat : Statistic}
    (h : sheet.RunsInto marks stat) (hstat : sheet.statistic? stat.id = some stat)
    (hmarks : sheet.Enclosed marks stat) : sheet.LeadsToCycle stat := by
  induction h with
  | @here marks stat target hr hm =>
    have ht := statistic?_of_refers hr
    rcases List.mem_cons.mp hm with hid | hid
    · obtain rfl : target = stat := Option.some.inj (by rw [← ht, hid, hstat])
      exact ⟨target, .refl, .single hr⟩
    · obtain ⟨passed, hp, hback⟩ := hmarks _ hid
      obtain rfl : target = passed := Option.some.inj (by rw [← ht, hp])
      exact ⟨target, .single hr, hback.tail hr⟩
  | @later marks stat target hr _ ih =>
    refine .head hr (ih (statistic?_of_refers hr) ?_)
    intro id hid
    rcases List.mem_cons.mp hid with rfl | hid
    · exact ⟨stat, hstat, .single hr⟩
    · obtain ⟨passed, hp, hback⟩ := hmarks id hid
      exact ⟨passed, hp, hback.tail hr⟩

/-- A walk that runs into nothing ends, since every step marks one statistic more. -/
theorem acc_of_not_runsInto {marks : List String} {stat : Statistic}
    (hstat : stat ∈ sheet.statistics) (hmark : stat.id ∉ marks)
    (h : ¬ sheet.RunsInto marks stat) : Acc (flip sheet.Refers) stat := by
  induction hn : sheet.unmarked marks using Nat.strongRecOn generalizing marks stat with
  | ind n ih =>
    refine ⟨_, fun target hr => ?_⟩
    have ht : target ∈ sheet.statistics := mem_of_statistic? (statistic?_of_refers hr)
    have hfresh : target.id ∉ stat.id :: marks := fun hm => h (.here hr hm)
    have hless : sheet.unmarked (stat.id :: marks) < n := hn ▸ unmarked_cons_lt hstat hmark
    exact ih _ hless ht hfresh (fun hw => h (.later hr hw)) rfl

theorem not_leadsToCycle_of_acc {stat : Statistic} (h : Acc (flip sheet.Refers) stat) :
    ¬ sheet.LeadsToCycle stat := by
  induction h with
  | intro stat _ ih =>
    rintro ⟨last, hr, hback⟩
    rcases Relation.ReflTransGen.cases_head hr with rfl | ⟨next, hnext, hrest⟩
    · obtain ⟨next, hnext, hrest⟩ := Relation.TransGen.head'_iff.mp hback
      exact ih next hnext ⟨stat, hrest, hback⟩
    · exact ih next hnext ⟨last, hrest, hback⟩

/-- Without marks, a walk runs into something exactly if a cycle can be reached. -/
theorem runsInto_nil_iff {stat : Statistic} (h : sheet.statistic? stat.id = some stat) :
    sheet.RunsInto [] stat ↔ sheet.LeadsToCycle stat := by
  constructor
  · intro hw
    exact leadsToCycle_of_runsInto hw h (enclosed_nil stat)
  · intro hc
    by_contra hw
    exact not_leadsToCycle_of_acc (acc_of_not_runsInto (mem_of_statistic? h) (by simp) hw) hc

/-! ### Sheets without cycles -/

theorem Acyclic.wellFounded (h : sheet.Acyclic) : WellFounded (flip sheet.Refers) := by
  have hfound {stat : Statistic} (hs : sheet.statistic? stat.id = some stat) :
      Acc (flip sheet.Refers) stat := by
    refine acc_of_not_runsInto (mem_of_statistic? hs) List.not_mem_nil fun hw => ?_
    obtain ⟨target, _, hback⟩ := (runsInto_nil_iff hs).mp hw
    exact h target hback
  -- a statistic that no name stands for still refers only to some that are found
  exact ⟨fun stat => ⟨_, fun target hr => hfound (statistic?_of_refers hr)⟩⟩

/-- What leads from inside of a statistic back to it would be a cycle. -/
theorem Acyclic.not_mem_of_enclosed (h : sheet.Acyclic) {marks : List String} {stat : Statistic}
    (hstat : sheet.statistic? stat.id = some stat) (hmarks : sheet.Enclosed marks stat) :
    stat.id ∉ marks := by
  intro hm
  obtain ⟨outer, ho, hback⟩ := hmarks _ hm
  obtain rfl : stat = outer := Option.some.inj (by rw [← hstat, ho])
  exact h stat hback

theorem Acyclic.not_runsInto_of_enclosed (h : sheet.Acyclic) {marks : List String}
    {stat : Statistic} (hstat : sheet.statistic? stat.id = some stat)
    (hmarks : sheet.Enclosed marks stat) : ¬ sheet.RunsInto marks stat := by
  intro hw
  obtain ⟨target, _, hback⟩ := leadsToCycle_of_runsInto hw hstat hmarks
  exact h target hback

/-- A sheet has no cycle if the statistics can be ranked above all that they refer to. -/
theorem Acyclic.of_rank (rank : Statistic → Nat)
    (h : ∀ stat ∈ sheet.statistics, ∀ target ∈ sheet.references stat, rank target < rank stat) :
    sheet.Acyclic := by
  have hless {stat target : Statistic} (hr : Relation.TransGen sheet.Refers stat target)
      (hs : stat ∈ sheet.statistics) : rank target < rank stat := by
    induction hr with
    | single hr => exact h stat hs _ (mem_references_iff.mpr hr)
    | tail hr hlast ih =>
      have hmem := mem_of_statistic? (statistic?_of_transGen hr)
      have hnext := h _ hmem _ (mem_references_iff.mpr hlast)
      omega
  intro stat hback
  have hmem := mem_of_statistic? (statistic?_of_transGen hback)
  have := hless hback hmem
  omega

end Sheet

end Tabletop
