import Mathlib.Tactic.Common
import Tabletop.Sheet.Evaluation

/-!
# The rules of evaluation

What an evaluation does, as one rule for each of its steps and without a bound on nesting: the rules
relate what is to be evaluated and the course before to what is found and the course after. Every
result of an evaluation, whatever its depth, follows from the rules, so a law of all evaluations
needs one case for each rule.
-/
namespace Tabletop

namespace Course

variable {σ : Type}

/-- The course inside of a statistic, in which nothing has been said yet. -/
def enter (c : Course σ) (id : String) : Course σ := { c.mark id with messages := [] }

/-- The course outside again, with what it had been said there. -/
def leave (c after : Course σ) (id : String) : Course σ :=
  { after.unmark id with messages := c.messages }

end Course

/-- What can be evaluated. -/
inductive Task where
  | term (t : Term)
  | formula (source : String)
  | lines (id : String) (modifiers : List Modifier)
  | statistic (stat : Statistic)

/-- What evaluating a task finds. -/
inductive Finding where
  | term (x : Evaluated)
  | formula (r : FormulaResult)
  | lines (found : List BreakdownLine)
  | statistic (b : Breakdown)

open Evaluation in
/-- Evaluating the task on the first course finds this and leads to the second course. -/
inductive Evaluates {σ : Type} (sheet : Sheet) (roller : Roller σ) :
    Task → Course σ → Finding → Course σ → Prop
  | literal {place : Place} {n : Nat} {c : Course σ} :
      Evaluates sheet roller (.term (.literal place n)) c (.term (.literal (.int n) place n)) c
  | dice {place : Place} {d : Dice} {c : Course σ} :
      Evaluates sheet roller (.term (.dice place d)) c (.term (dice roller place d c).1)
        (dice roller place d c).2
  | unknown {place : Place} {name : String} {c : Course σ} (h : sheet.find? name = none) :
      Evaluates sheet roller (.term (.stat place name)) c
        (.term (.stat (.int 0) place name none))
        (c.say ⟨place.span, "Unknown statistic " ++ Text.quoted name, .warning⟩)
  | circular {place : Place} {name : String} {stat : Statistic} {c : Course σ}
      (h : sheet.find? name = some stat) (hm : c.isMarked stat.id = true) :
      Evaluates sheet roller (.term (.stat place name)) c
        (.term (.stat (.int 0) place name none))
        ((c.record (.circular stat.id)).say
          ⟨place.span, "Circular reference to statistic " ++ Text.quoted stat.id, .warning⟩)
  | known {place : Place} {name : String} {stat : Statistic} {b : Breakdown} {c c' : Course σ}
      (h : sheet.find? name = some stat) (hm : c.isMarked stat.id = false)
      (he : Evaluates sheet roller (.statistic stat) c (.statistic b) c') :
      Evaluates sheet roller (.term (.stat place name)) c
        (.term (.stat b.final place name (some stat.id))) c'
  | negation {place : Place} {sign : Span} {t : Term} {x : Evaluated} {c c' : Course σ}
      (he : Evaluates sheet roller (.term t) c (.term x) c') :
      Evaluates sheet roller (.term (.negation place sign t)) c
        (.term (.negation x.value.neg place sign x)) c'
  | binary {place : Place} {op : Operator} {sign : Span} {t u : Term} {x y : Evaluated}
      {c c' c'' : Course σ} (hl : Evaluates sheet roller (.term t) c (.term x) c')
      (hr : Evaluates sheet roller (.term u) c' (.term y) c'') :
      Evaluates sheet roller (.term (.binary place op sign t u)) c
        (.term (.binary (op.apply x.value y.value) place op sign x y)) c''
  | unparsed {source : String} {c : Course σ} (h : (parse source).term = none) :
      Evaluates sheet roller (.formula source) c
        (.formula ⟨source, none, (parse source).messages⟩) (c.record (.parsing source))
  | parsed {source : String} {t : Term} {x : Evaluated} {c c' : Course σ}
      (h : (parse source).term = some t)
      (he : Evaluates sheet roller (.term t) (c.record (.parsing source)) (.term x) c') :
      Evaluates sheet roller (.formula source) c
        (.formula ⟨source, some x,
          (parse source).messages ++ c'.messages.drop c.messages.length⟩) c'
  | noLines {id : String} {c : Course σ} : Evaluates sheet roller (.lines id []) c (.lines []) c
  /-- A modifier that does not parse. -/
  | skip {id : String} {m : Modifier} {ms : List Modifier} {r : FormulaResult}
      {found : List BreakdownLine} {c c' c'' : Course σ}
      (he : Evaluates sheet roller (.formula m.formula) (c.enter id) (.formula r) c')
      (hv : r.value? = none)
      (hs : Evaluates sheet roller (.lines id ms)
        ((c.leave c' id).record (.modifierUnparsed m.label id m.formula)) (.lines found) c'') :
      Evaluates sheet roller (.lines id (m :: ms)) c (.lines found) c''
  | line {id : String} {m : Modifier} {ms : List Modifier} {r : FormulaResult} {amount : Number}
      {found : List BreakdownLine} {c c' c'' : Course σ}
      (he : Evaluates sheet roller (.formula m.formula) (c.enter id) (.formula r) c')
      (hv : r.value? = some amount)
      (hs : Evaluates sheet roller (.lines id ms) (c.leave c' id) (.lines found) c'') :
      Evaluates sheet roller (.lines id (m :: ms)) c
        (.lines (⟨m.label, m.formula, amount⟩ :: found)) c''
  /-- An attribute or a skill. -/
  | level {stat : Statistic} {n : Nat} {found : List BreakdownLine} {c c' : Course σ}
      (h : stat.level? = some n)
      (hs : Evaluates sheet roller (.lines stat.id (sheet.modifiersOn stat.id)) c (.lines found)
        c') :
      Evaluates sheet roller (.statistic stat) c (.statistic ⟨.int n, found⟩) c'
  | derived {d : Derived} {x : Evaluated} {found : List BreakdownLine} {c c' c'' : Course σ}
      (he : Evaluates sheet roller (.term d.term) (c.enter d.id) (.term x) c')
      (hs : Evaluates sheet roller (.lines d.id (sheet.modifiersOn d.id)) (c.leave c' d.id)
        (.lines found) c'') :
      Evaluates sheet roller (.statistic (.ofDerived d)) c (.statistic ⟨x.value, found⟩) c''

namespace Evaluation

variable {σ α : Type} {sheet : Sheet} {roller : Roller σ}

theorem inside_eq_some_iff {id : String} {f : Evaluation σ α} {c c' : Course σ} {a : α} :
    inside id f c = some (a, c') ↔ ∃ after, f (c.enter id) = some (a, after) ∧
      c' = c.leave after id := by
  unfold inside
  simp only [Option.bind_eq_bind, Option.bind_eq_some_iff, Option.some.injEq]
  constructor
  · rintro ⟨⟨b, after⟩, hf, h⟩
    cases h
    exact ⟨after, hf, rfl⟩
  · rintro ⟨after, hf, rfl⟩
    exact ⟨(a, after), hf, rfl⟩

/-- What a reference leads to follows from the rules. -/
def Sound (sheet : Sheet) (roller : Roller σ) (refer : Statistic → Evaluation σ Breakdown) : Prop :=
  ∀ stat c b c', refer stat c = some (b, c') →
    Evaluates sheet roller (.statistic stat) c (.statistic b) c'

variable {refer : Statistic → Evaluation σ Breakdown}

theorem evaluates_term (hrefer : Sound sheet roller refer) {t : Term} {c c' : Course σ}
    {x : Evaluated} (h : term sheet roller refer t c = some (x, c')) :
    Evaluates sheet roller (.term t) c (.term x) c' := by
  induction t generalizing c c' x with
  | literal place n =>
    cases h
    exact .literal
  | dice place d =>
    cases h
    exact .dice
  | stat place name =>
    simp only [term, stat] at h
    split at h
    · rename_i hf
      cases h
      exact .unknown hf
    · rename_i target hf
      split at h
      · rename_i hm
        cases h
        exact .circular hf hm
      · rename_i hm
        simp only [Option.bind_eq_bind, Option.bind_eq_some_iff] at h
        obtain ⟨⟨b, after⟩, hb, h⟩ := h
        cases h
        exact .known hf (by simpa using hm) (hrefer _ _ _ _ hb)
  | negation place sign t ih =>
    simp only [term, Option.bind_eq_bind, Option.bind_eq_some_iff] at h
    obtain ⟨⟨y, after⟩, hy, h⟩ := h
    cases h
    exact .negation (ih hy)
  | binary place op sign t u iht ihu =>
    simp only [term, Option.bind_eq_bind, Option.bind_eq_some_iff] at h
    obtain ⟨⟨y, between⟩, hy, ⟨z, after⟩, hz, h⟩ := h
    cases h
    exact .binary (iht hy) (ihu hz)

theorem evaluates_formula (hrefer : Sound sheet roller refer) {source : String} {c c' : Course σ}
    {r : FormulaResult} (h : formula sheet roller refer source c = some (r, c')) :
    Evaluates sheet roller (.formula source) c (.formula r) c' := by
  simp only [formula] at h
  split at h
  · rename_i hp
    cases h
    exact .unparsed hp
  · rename_i t hp
    simp only [Option.bind_eq_bind, Option.bind_eq_some_iff] at h
    obtain ⟨⟨x, after⟩, hx, h⟩ := h
    cases h
    exact .parsed hp (evaluates_term hrefer hx)

theorem evaluates_lines (hrefer : Sound sheet roller refer) {id : String} {ms : List Modifier}
    {c c' : Course σ} {found : List BreakdownLine}
    (h : lines sheet roller refer id ms c = some (found, c')) :
    Evaluates sheet roller (.lines id ms) c (.lines found) c' := by
  induction ms generalizing c c' found with
  | nil =>
    cases h
    exact .noLines
  | cons m ms ih =>
    simp only [lines, Option.bind_eq_bind, Option.bind_eq_some_iff] at h
    obtain ⟨⟨r, between⟩, hr, h⟩ := h
    obtain ⟨after, hf, rfl⟩ := inside_eq_some_iff.mp hr
    have he := evaluates_formula hrefer hf
    dsimp only at h
    split at h
    · rename_i hv
      exact .skip he hv (ih h)
    · rename_i amount hv
      simp only [Option.bind_eq_some_iff] at h
      obtain ⟨⟨rest, last⟩, hs, h⟩ := h
      cases h
      exact .line he hv (ih hs)

theorem evaluates_statistic (depth : Nat) : Sound sheet roller (statistic sheet roller depth) := by
  induction depth with
  | zero =>
    intro stat c b c' h
    cases h
  | succ depth ih =>
    intro stat c b c' h
    simp only [statistic, Option.bind_eq_bind, Option.bind_eq_some_iff] at h
    obtain ⟨⟨value, between⟩, hv, ⟨found, last⟩, hs, h⟩ := h
    cases h
    have hlines := evaluates_lines ih hs
    cases stat with
    | ofAttribute a =>
      cases hv
      exact .level rfl hlines
    | ofSkill owner s =>
      cases hv
      exact .level rfl hlines
    | ofDerived d =>
      simp only [base, Option.bind_eq_bind, Option.bind_eq_some_iff] at hv
      obtain ⟨⟨x, middle⟩, hx, hv⟩ := hv
      cases hv
      obtain ⟨after, hf, rfl⟩ := inside_eq_some_iff.mp hx
      exact .derived (evaluates_term ih hf) hlines

/-- The bounded evaluation of a task. -/
def Comes (sheet : Sheet) (roller : Roller σ) (depth : Nat) :
    Task → Course σ → Finding → Course σ → Prop
  | .term t, c, .term x, c' =>
      term sheet roller (statistic sheet roller depth) t c = some (x, c')
  | .formula source, c, .formula r, c' =>
      formula sheet roller (statistic sheet roller depth) source c = some (r, c')
  | .lines id ms, c, .lines found, c' =>
      lines sheet roller (statistic sheet roller depth) id ms c = some (found, c')
  | .statistic stat, c, .statistic b, c' => statistic sheet roller depth stat c = some (b, c')
  | _, _, _, _ => False

/-- What follows from the rules comes out at every depth from some on. -/
theorem comes_of_evaluates {task : Task} {found : Finding} {c c' : Course σ}
    (h : Evaluates sheet roller task c found c') :
    ∃ least, ∀ depth, least ≤ depth → Comes sheet roller depth task c found c' := by
  induction h with
  | literal => exact ⟨0, fun depth _ => rfl⟩
  | dice => exact ⟨0, fun depth _ => rfl⟩
  | unknown h => exact ⟨0, fun depth _ => by simp only [Comes, term, stat, h]; rfl⟩
  | circular h hm => exact ⟨0, fun depth _ => by simp only [Comes, term, stat, h, hm]; rfl⟩
  | known h hm _ ih =>
    obtain ⟨least, ih⟩ := ih
    refine ⟨least, fun depth hd => ?_⟩
    have hb := ih depth hd
    simp only [Comes] at hb
    simp only [Comes, term, stat, h, hm, hb]
    rfl
  | negation _ ih =>
    obtain ⟨least, ih⟩ := ih
    refine ⟨least, fun depth hd => ?_⟩
    have hx := ih depth hd
    simp only [Comes] at hx
    simp only [Comes, term, hx]
    rfl
  | binary _ _ ihl ihr =>
    obtain ⟨least, ihl⟩ := ihl
    obtain ⟨least', ihr⟩ := ihr
    refine ⟨max least least', fun depth hd => ?_⟩
    have hx := ihl depth (by omega)
    have hy := ihr depth (by omega)
    simp only [Comes] at hx hy
    simp only [Comes, term, hx, hy, Option.bind_eq_bind, Option.bind_some]
  | unparsed h => exact ⟨0, fun depth _ => by simp only [Comes, formula, h]⟩
  | parsed h _ ih =>
    obtain ⟨least, ih⟩ := ih
    refine ⟨least, fun depth hd => ?_⟩
    have hx := ih depth hd
    simp only [Comes] at hx
    simp only [Comes, formula, h, hx]
    rfl
  | noLines => exact ⟨0, fun depth _ => rfl⟩
  | @skip id m ms r found c c' c'' _ hv _ ihf ihs =>
    obtain ⟨least, ihf⟩ := ihf
    obtain ⟨least', ihs⟩ := ihs
    refine ⟨max least least', fun depth hd => ?_⟩
    have hr := inside_eq_some_iff.mpr ⟨c', ihf depth (by omega), rfl⟩
    have hs := ihs depth (by omega)
    simp only [Comes] at hs
    simp only [Comes, lines, hr, Option.bind_eq_bind, Option.bind_some, hv, hs]
  | @line id m ms r amount found c c' c'' _ hv _ ihf ihs =>
    obtain ⟨least, ihf⟩ := ihf
    obtain ⟨least', ihs⟩ := ihs
    refine ⟨max least least', fun depth hd => ?_⟩
    have hr := inside_eq_some_iff.mpr ⟨c', ihf depth (by omega), rfl⟩
    have hs := ihs depth (by omega)
    simp only [Comes] at hs
    simp only [Comes, lines, hr, Option.bind_eq_bind, Option.bind_some, hv, hs]
  | @level stat n found c c' h _ ih =>
    obtain ⟨least, ih⟩ := ih
    refine ⟨least + 1, fun depth hd => ?_⟩
    cases depth with
    | zero => omega
    | succ depth =>
      have hs := ih depth (by omega)
      simp only [Comes] at hs
      cases stat with
      | ofAttribute a =>
        cases h
        simp only [Comes, statistic, base, Option.bind_eq_bind, Option.bind_some, hs]
      | ofSkill owner s =>
        cases h
        simp only [Comes, statistic, base, Option.bind_eq_bind, Option.bind_some, hs]
      | ofDerived d => cases h
  | @derived d x found c c' c'' _ _ iht ihs =>
    obtain ⟨least, iht⟩ := iht
    obtain ⟨least', ihs⟩ := ihs
    refine ⟨max least least' + 1, fun depth hd => ?_⟩
    cases depth with
    | zero => omega
    | succ depth =>
      have hx := inside_eq_some_iff.mpr ⟨c', iht depth (by omega), rfl⟩
      have hs := ihs depth (by omega)
      simp only [Comes] at hs
      simp only [Comes, statistic, base, Option.bind_eq_bind, Option.bind_some, hx, Statistic.id,
        hs]

theorem Comes.unique {depth : Nat} {task : Task} {f g : Finding} {c c' d' : Course σ}
    (h : Comes sheet roller depth task c f c') (k : Comes sheet roller depth task c g d') :
    f = g ∧ c' = d' := by
  cases task <;> cases f <;> cases g <;> simp only [Comes] at h k <;>
    (rw [h] at k; cases k; exact ⟨rfl, rfl⟩)

end Evaluation

/-- Evaluating a task finds at most one thing. -/
theorem Evaluates.unique {σ : Type} {sheet : Sheet} {roller : Roller σ} {task : Task}
    {f g : Finding} {c c' d' : Course σ} (h : Evaluates sheet roller task c f c')
    (k : Evaluates sheet roller task c g d') : f = g ∧ c' = d' := by
  obtain ⟨least, hl⟩ := Evaluation.comes_of_evaluates h
  obtain ⟨least', hl'⟩ := Evaluation.comes_of_evaluates k
  exact (hl (max least least') (by omega)).unique (hl' (max least least') (by omega))

end Tabletop
