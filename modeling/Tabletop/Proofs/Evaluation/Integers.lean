import Mathlib.Algebra.BigOperators.Group.List.Basic
import Tabletop.Proofs.Evaluation.Traces

/-!
# Integers stay exact

Only quotients leave the integers. Where neither the formulas of a sheet nor the one that is
evaluated divide, an evaluation comes to the same as reckoning in exact arithmetic, which knows
nothing but integers and a list of the statistics that it is inside of. Each of its rules hands this
list down to its parts, so nothing is ever unmarked.
-/
namespace Tabletop

/-! ### Formulas that do not divide -/

/-- What an operation does to integers; a quotient has no place among them. -/
def Operator.onInts? : Operator → Option (Int → Int → Int)
  | plus => some (· + ·)
  | minus => some (· - ·)
  | times => some (· * ·)
  | divide => none

theorem Operator.apply_int {op : Operator} {f : Int → Int → Int} (h : op.onInts? = some f)
    (m n : Int) : op.apply (.int m) (.int n) = .int (f m n) := by
  cases op <;> cases h <;> rfl

theorem Operator.exists_onInts? {op : Operator} (h : op ≠ .divide) :
    ∃ f, op.onInts? = some f := by
  cases op with
  | divide => exact absurd rfl h
  | _ => exact ⟨_, rfl⟩

/-- Something is divided in the term. -/
def Term.divides : Term → Bool
  | literal .. => false
  | dice .. => false
  | stat .. => false
  | negation _ _ operand => operand.divides
  | binary _ op _ left right => op == .divide || left.divides || right.divides

/-- The formula parses, and something is divided in it. -/
def dividesIn (source : String) : Bool := (parse source).term.any Term.divides

theorem dividesIn_of_parse {source : String} {t : Term} (h : (parse source).term = some t) :
    dividesIn source = t.divides := by
  rw [dividesIn, h, Option.any_some]

theorem Derived.divides_term (d : Derived) : d.term.divides = dividesIn d.formula := by
  unfold Derived.term Derived.parsed dividesIn
  cases (parse d.formula).term with
  | none => rfl
  | some t => rfl

namespace Sheet

/-- The formulas of derived statistics and modifiers. -/
def formulas (sheet : Sheet) : List String :=
  sheet.derived.map Derived.formula ++ sheet.modifiers.map Modifier.formula

/-- Something is divided in a formula of the sheet. -/
def divides (sheet : Sheet) : Bool := sheet.formulas.any dividesIn

variable {sheet : Sheet}

theorem formulasOf_subset {stat : Statistic} (h : stat ∈ sheet.statistics) :
    sheet.formulasOf stat ⊆ sheet.formulas := by
  intro source hsource
  rcases List.mem_append.mp hsource with hown | hmodifier
  · cases stat with
    | ofAttribute a => cases hown
    | ofSkill owner s => cases hown
    | ofDerived d =>
      obtain rfl : source = d.formula := by simpa [Statistic.formula?] using hown
      have hd : d ∈ sheet.derived := by simpa [statistics, family] using h
      exact List.mem_append_left _ (List.mem_map_of_mem hd)
  · obtain ⟨m, hm, rfl⟩ := List.mem_map.mp hmodifier
    exact List.mem_append_right _ (List.mem_map_of_mem (List.mem_of_mem_filter hm))

end Sheet

/-- Something is divided in a formula that the task begins with. -/
def Task.divides (sheet : Sheet) : Task → Bool
  | term t => t.divides
  | formula source => dividesIn source
  | lines _ ms => ms.any fun m => dividesIn m.formula
  | statistic stat => (sheet.formulasOf stat).any dividesIn

namespace Task

variable {sheet : Sheet}

theorem divides_of_mem (h : sheet.divides = false) {stat : Statistic}
    (hstat : stat ∈ sheet.statistics) : (statistic stat).divides sheet = false := by
  refine List.any_eq_false.mpr fun source hsource => ?_
  exact List.any_eq_false.mp h source (Sheet.formulasOf_subset hstat hsource)

theorem divides_of_find? (h : sheet.divides = false) {name : String} {stat : Statistic}
    (hf : sheet.find? name = some stat) : (statistic stat).divides sheet = false :=
  divides_of_mem h (Sheet.mem_of_statistic? (Sheet.statistic?_of_find? hf))

theorem divides_binary {place : Place} {op : Operator} {sign : Span} {t u : Term} :
    (term (.binary place op sign t u)).divides sheet = false ↔
      op ≠ .divide ∧ t.divides = false ∧ u.divides = false := by
  simp only [divides, Term.divides, Bool.or_eq_false_iff, beq_eq_false_iff_ne, ne_eq, and_assoc]

theorem divides_lines_cons {id : String} {m : Modifier} {ms : List Modifier} :
    (lines id (m :: ms)).divides sheet = false ↔
      (formula m.formula).divides sheet = false ∧ (lines id ms).divides sheet = false := by
  simp only [divides, List.any_cons, Bool.or_eq_false_iff]

theorem divides_statistic {stat : Statistic} :
    (statistic stat).divides sheet = false ↔
      stat.formula?.toList.any dividesIn = false ∧
        (lines stat.id (sheet.modifiersOn stat.id)).divides sheet = false := by
  simp only [divides, Sheet.formulasOf, List.any_append, Bool.or_eq_false_iff, List.any_map]
  rfl

end Task

/-! ### Exact arithmetic -/

/-- What exact arithmetic finds: a tree with its value, the value of a formula if it parses, the
amounts of lines, or a base value with the amounts that are added to it. -/
inductive Reckoned where
  | term (x : Evaluated) (n : Int)
  | formula (n : Option Int)
  | lines (amounts : List Int)
  | statistic (base : Int) (amounts : List Int)

/-- Reckoning a task inside of the given statistics finds this, and rolls dice from the one state to
the other. -/
inductive Reckons {σ : Type} (sheet : Sheet) (roller : Roller σ) :
    List String → Task → σ → Reckoned → σ → Prop
  | literal {within : List String} {place : Place} {n : Nat} {s : σ} :
      Reckons sheet roller within (.term (.literal place n)) s
        (.term (.literal (.int n) place n) n) s
  | dice {within : List String} {place : Place} {d : Dice} {s s' : σ} {rolls : List Int}
      (h : roller.rolls d.sides d.count s = (rolls, s')) :
      Reckons sheet roller within (.term (.dice place d)) s
        (.term (.dice (.int rolls.sum) place d rolls) rolls.sum) s'
  /-- The name of no statistic, or of one that this is inside of. -/
  | unresolved {within : List String} {place : Place} {name : String} {s : σ}
      (h : ∀ stat, sheet.find? name = some stat → stat.id ∈ within) :
      Reckons sheet roller within (.term (.stat place name)) s
        (.term (.stat (.int 0) place name none) 0) s
  | resolved {within : List String} {place : Place} {name : String} {stat : Statistic}
      {base : Int} {amounts : List Int} {s s' : σ} (h : sheet.find? name = some stat)
      (hm : stat.id ∉ within)
      (he : Reckons sheet roller within (.statistic stat) s (.statistic base amounts) s') :
      Reckons sheet roller within (.term (.stat place name)) s
        (.term (.stat (.int (base + amounts.sum)) place name (some stat.id)) (base + amounts.sum))
        s'
  | negation {within : List String} {place : Place} {sign : Span} {t : Term} {x : Evaluated}
      {n : Int} {s s' : σ} (he : Reckons sheet roller within (.term t) s (.term x n) s') :
      Reckons sheet roller within (.term (.negation place sign t)) s
        (.term (.negation (.int (-n)) place sign x) (-n)) s'
  | binary {within : List String} {place : Place} {op : Operator} {sign : Span} {t u : Term}
      {x y : Evaluated} {f : Int → Int → Int} {m n : Int} {s s' s'' : σ}
      (hop : op.onInts? = some f) (hl : Reckons sheet roller within (.term t) s (.term x m) s')
      (hr : Reckons sheet roller within (.term u) s' (.term y n) s'') :
      Reckons sheet roller within (.term (.binary place op sign t u)) s
        (.term (.binary (.int (f m n)) place op sign x y) (f m n)) s''
  | unparsed {within : List String} {source : String} {s : σ} (h : (parse source).term = none) :
      Reckons sheet roller within (.formula source) s (.formula none) s
  | parsed {within : List String} {source : String} {t : Term} {x : Evaluated} {n : Int}
      {s s' : σ} (h : (parse source).term = some t)
      (he : Reckons sheet roller within (.term t) s (.term x n) s') :
      Reckons sheet roller within (.formula source) s (.formula (some n)) s'
  | noLines {within : List String} {id : String} {s : σ} :
      Reckons sheet roller within (.lines id []) s (.lines []) s
  | line {within : List String} {id : String} {m : Modifier} {ms : List Modifier}
      {amount : Option Int} {amounts : List Int} {s s' s'' : σ}
      (he : Reckons sheet roller (id :: within) (.formula m.formula) s (.formula amount) s')
      (hs : Reckons sheet roller within (.lines id ms) s' (.lines amounts) s'') :
      Reckons sheet roller within (.lines id (m :: ms)) s (.lines (amount.toList ++ amounts)) s''
  | level {within : List String} {stat : Statistic} {n : Nat} {amounts : List Int} {s s' : σ}
      (h : stat.level? = some n)
      (hs : Reckons sheet roller within (.lines stat.id (sheet.modifiersOn stat.id)) s
        (.lines amounts) s') :
      Reckons sheet roller within (.statistic stat) s (.statistic n amounts) s'
  | derived {within : List String} {d : Derived} {x : Evaluated} {n : Int} {amounts : List Int}
      {s s' s'' : σ} (he : Reckons sheet roller (d.id :: within) (.term d.term) s (.term x n) s')
      (hs : Reckons sheet roller within (.lines d.id (sheet.modifiersOn d.id)) s' (.lines amounts)
        s'') :
      Reckons sheet roller within (.statistic (.ofDerived d)) s (.statistic n amounts) s''

variable {σ : Type} {sheet : Sheet} {roller : Roller σ} {within : List String}

/-- There is at most one thing that exact arithmetic finds. -/
theorem Reckons.unique {task : Task} {f g : Reckoned} {s s' t' : σ}
    (h : Reckons sheet roller within task s f s') (k : Reckons sheet roller within task s g t') :
    f = g ∧ s' = t' := by
  induction h generalizing g t' with
  | literal =>
    cases k
    exact ⟨rfl, rfl⟩
  | dice h =>
    cases k with
    | dice h' =>
      cases h.symm.trans h'
      exact ⟨rfl, rfl⟩
  | unresolved h =>
    cases k with
    | unresolved _ => exact ⟨rfl, rfl⟩
    | resolved h' hm _ => exact absurd (h _ h') hm
  | resolved h hm _ ih =>
    cases k with
    | unresolved h' => exact absurd (h' _ h) hm
    | resolved h' _ he =>
      cases h.symm.trans h'
      obtain ⟨hfound, rfl⟩ := ih he
      cases hfound
      exact ⟨rfl, rfl⟩
  | negation _ ih =>
    cases k with
    | negation he =>
      obtain ⟨hfound, rfl⟩ := ih he
      cases hfound
      exact ⟨rfl, rfl⟩
  | binary hop _ _ ihl ihr =>
    cases k with
    | binary hop' hl hr =>
      cases hop.symm.trans hop'
      obtain ⟨hleft, rfl⟩ := ihl hl
      obtain ⟨hright, rfl⟩ := ihr hr
      cases hleft
      cases hright
      exact ⟨rfl, rfl⟩
  | unparsed h =>
    cases k with
    | unparsed _ => exact ⟨rfl, rfl⟩
    | parsed h' _ => cases h.symm.trans h'
  | parsed h _ ih =>
    cases k with
    | unparsed h' => cases h.symm.trans h'
    | parsed h' he =>
      cases h.symm.trans h'
      obtain ⟨hfound, rfl⟩ := ih he
      cases hfound
      exact ⟨rfl, rfl⟩
  | noLines =>
    cases k
    exact ⟨rfl, rfl⟩
  | line _ _ ihf ihs =>
    cases k with
    | line he hs =>
      obtain ⟨hfirst, rfl⟩ := ihf he
      obtain ⟨hrest, rfl⟩ := ihs hs
      cases hfirst
      cases hrest
      exact ⟨rfl, rfl⟩
  | level h _ ih =>
    cases k with
    | level h' hs =>
      cases h.symm.trans h'
      obtain ⟨hlines, rfl⟩ := ih hs
      cases hlines
      exact ⟨rfl, rfl⟩
    | derived _ _ => cases h
  | derived _ _ iht ihs =>
    cases k with
    | level h' _ => cases h'
    | derived he hs =>
      obtain ⟨hterm, rfl⟩ := iht he
      obtain ⟨hlines, rfl⟩ := ihs hs
      cases hterm
      cases hlines
      exact ⟨rfl, rfl⟩

/-- Every node of a tree was reckoned on the way, and has the value that it then had. -/
theorem Reckons.nodes {t : Term} {x : Evaluated} {n : Int} {s s' : σ}
    (h : Reckons sheet roller within (.term t) s (.term x n) s') :
    x.term = t ∧ x.value = .int n ∧ ∀ node ∈ x.nodes, ∃ m s₁ s₂, node.value = .int m ∧
      Reckons sheet roller within (.term node.term) s₁ (.term node m) s₂ := by
  induction t generalizing x n s s' with
  | literal place n =>
    have hself := h
    cases h
    exact ⟨rfl, rfl, List.forall_mem_singleton.mpr ⟨_, _, _, rfl, hself⟩⟩
  | dice place d =>
    have hself := h
    cases h
    exact ⟨rfl, rfl, List.forall_mem_singleton.mpr ⟨_, _, _, rfl, hself⟩⟩
  | stat place name =>
    have hself := h
    cases h with
    | unresolved _ => exact ⟨rfl, rfl, List.forall_mem_singleton.mpr ⟨_, _, _, rfl, hself⟩⟩
    | resolved _ _ _ => exact ⟨rfl, rfl, List.forall_mem_singleton.mpr ⟨_, _, _, rfl, hself⟩⟩
  | negation place sign t ih =>
    have hself := h
    cases h with
    | negation he =>
      obtain ⟨rfl, -, hnodes⟩ := ih he
      exact ⟨rfl, rfl, List.forall_mem_cons.mpr ⟨⟨_, _, _, rfl, hself⟩, hnodes⟩⟩
  | binary place op sign t u iht ihu =>
    have hself := h
    cases h with
    | binary _ hl hr =>
      obtain ⟨rfl, -, hleft⟩ := iht hl
      obtain ⟨rfl, -, hright⟩ := ihu hr
      exact ⟨rfl, rfl, List.forall_mem_cons.mpr
        ⟨⟨_, _, _, rfl, hself⟩, List.forall_mem_append.mpr ⟨hleft, hright⟩⟩⟩

/-! ### Evaluation reckons -/

/-- Amounts that are integers add up to one. -/
theorem Breakdown.final_of_ints {b : Breakdown} {base : Int} {amounts : List Int}
    (hbase : b.base = .int base)
    (hlines : b.lines.map BreakdownLine.amount = amounts.map Number.int) :
    b.final = .int (base + amounts.sum) := by
  rw [Breakdown.final_eq, hbase, hlines]
  clear hbase hlines
  induction amounts generalizing base with
  | nil => simp
  | cons amount amounts ih =>
    rw [List.map_cons, List.foldl_cons, Number.add_int, ih, List.sum_cons, Int.add_assoc]

/-- What was found are the integers that were reckoned. -/
inductive Finding.Is : Finding → Reckoned → Prop
  | term {x : Evaluated} {n : Int} (h : x.value = .int n) : Is (.term x) (.term x n)
  | formula {r : FormulaResult} {n : Option Int} (h : r.value? = n.map Number.int) :
      Is (.formula r) (.formula n)
  | lines {found : List BreakdownLine} {amounts : List Int}
      (h : found.map BreakdownLine.amount = amounts.map Number.int) :
      Is (.lines found) (.lines amounts)
  | statistic {b : Breakdown} {base : Int} {amounts : List Int} (hbase : b.base = .int base)
      (hlines : b.lines.map BreakdownLine.amount = amounts.map Number.int) :
      Is (.statistic b) (.statistic base amounts)

/-- The statistics that formulas of the task are inside of, where it begins inside of others. -/
def Task.scope (within : List String) : Task → List String
  | term _ => within
  | formula _ => within
  | lines id _ => id :: within
  | statistic stat => stat.id :: within

theorem Task.mem_scope_statistic {marks : List String} {stat : Statistic}
    (h : ∀ id, id ∈ marks ↔ id ∈ within) (id : String) :
    id ∈ (statistic stat).scope marks ↔ id ∈ (statistic stat).scope within := by
  simp only [scope, List.mem_cons, h id]

namespace Course

variable {c c' : Course σ} {id : String}

/-- Within a statistic the statistics are marked that it hands down. -/
theorem mem_enter_iff (h : ∀ other, other ∈ id :: c.marks ↔ other ∈ id :: within)
    (other : String) : other ∈ (c.enter id).marks ↔ other ∈ id :: within := by
  rw [mem_marks_enter, ← h, List.mem_cons]

/-- They are handed down to each of its formulas, though it is unmarked after every one. -/
theorem mem_leave_iff (hafter : c'.marks = (c.enter id).marks)
    (h : ∀ other, other ∈ id :: c.marks ↔ other ∈ id :: within) (other : String) :
    other ∈ id :: (c.leave c' id).marks ↔ other ∈ id :: within := by
  rw [← h, marks_leave hafter]
  by_cases hsame : other = id <;> simp [hsame]

end Course

/-- The induction is on the rules. What is marked when a formula is begun is what exact arithmetic
is inside of there. -/
theorem Evaluates.reckons {task : Task} {found : Finding} {c c' : Course σ}
    (h : Evaluates sheet roller task c found c') (hsheet : sheet.divides = false)
    (htask : task.divides sheet = false)
    (hscope : ∀ id, id ∈ task.scope c.marks ↔ id ∈ task.scope within) :
    ∃ reckoned, Reckons sheet roller within task c.dice reckoned c'.dice ∧ found.Is reckoned := by
  induction h generalizing within with
  | literal => exact ⟨_, .literal, .term rfl⟩
  | dice => exact ⟨_, .dice rfl, .term rfl⟩
  | unknown hf => exact ⟨_, .unresolved fun stat hstat => (nomatch hf.symm.trans hstat), .term rfl⟩
  | @circular place name stat c hf hm =>
    -- a mark is met just where exact arithmetic is inside of the statistic
    have hmarked : stat.id ∈ c.marks := by simpa [Course.isMarked] using hm
    have hmem : stat.id ∈ within := (hscope stat.id).mp hmarked
    refine ⟨_, .unresolved fun other hother => ?_, .term rfl⟩
    cases hf.symm.trans hother
    exact hmem
  | @known place name stat b c c' hf hm _ ih =>
    have hout : stat.id ∉ c.marks := by simpa [Course.isMarked] using hm
    have hmem : stat.id ∉ within := fun hin => hout ((hscope stat.id).mpr hin)
    obtain ⟨_, hr, his⟩ := ih (Task.divides_of_find? hsheet hf) (Task.mem_scope_statistic hscope)
    cases his with
    | statistic hbase hlines =>
      have hfinal := Breakdown.final_of_ints hbase hlines
      rw [hfinal]
      exact ⟨_, .resolved hf hmem hr, .term rfl⟩
  | negation _ ih =>
    obtain ⟨_, hr, his⟩ := ih htask hscope
    cases his with
    | term hx =>
      rw [hx, Number.neg_int]
      exact ⟨_, .negation hr, .term rfl⟩
  | @binary place op sign t u x y c c' c'' hl _ ihl ihr =>
    obtain ⟨hop, hleft, hright⟩ := Task.divides_binary.mp htask
    obtain ⟨f, hf⟩ := Operator.exists_onInts? hop
    have hmarks : c'.marks = c.marks := hl.marks_eq
    have hbetween : ∀ id, id ∈ c'.marks ↔ id ∈ within := hmarks.symm ▸ hscope
    obtain ⟨_, hr, his⟩ := ihl hleft hscope
    obtain ⟨_, hr', his'⟩ := ihr hright hbetween
    cases his with
    | term hx =>
      cases his' with
      | term hy =>
        rw [hx, hy, Operator.apply_int hf]
        exact ⟨_, .binary hf hr hr', .term rfl⟩
  | unparsed hp => exact ⟨_, .unparsed hp, .formula rfl⟩
  | parsed hp _ ih =>
    have hterm := (dividesIn_of_parse hp).symm.trans htask
    obtain ⟨_, hr, his⟩ := ih hterm hscope
    cases his with
    | term hx => exact ⟨_, .parsed hp hr, .formula (congrArg some hx)⟩
  | noLines => exact ⟨_, .noLines, .lines rfl⟩
  | @skip id m ms r found c c' c'' he hv _ ihf ihs =>
    obtain ⟨hfirst, hrest⟩ := Task.divides_lines_cons.mp htask
    obtain ⟨_, hr, his⟩ := ihf hfirst (Course.mem_enter_iff hscope)
    -- the mark is taken away after this modifier, but the others begin inside of the statistic too
    obtain ⟨_, hr', his'⟩ := ihs hrest (Course.mem_leave_iff he.marks_eq hscope)
    rw [Course.dice_enter] at hr
    cases his with
    | @formula _ n h =>
      cases his' with
      | lines hlines =>
        rw [hv] at h
        obtain rfl := Option.map_eq_none_iff.mp h.symm
        exact ⟨_, .line hr hr', .lines hlines⟩
  | @line id m ms r amount found c c' c'' he hv _ ihf ihs =>
    obtain ⟨hfirst, hrest⟩ := Task.divides_lines_cons.mp htask
    obtain ⟨_, hr, his⟩ := ihf hfirst (Course.mem_enter_iff hscope)
    obtain ⟨_, hr', his'⟩ := ihs hrest (Course.mem_leave_iff he.marks_eq hscope)
    rw [Course.dice_enter] at hr
    cases his with
    | @formula _ n h =>
      cases his' with
      | lines hlines =>
        rw [hv] at h
        obtain ⟨n, rfl, rfl⟩ := Option.map_eq_some_iff.mp h.symm
        exact ⟨_, .line hr hr', .lines (congrArg (Number.int n :: ·) hlines)⟩
  | level hl _ ih =>
    obtain ⟨-, hlines⟩ := Task.divides_statistic.mp htask
    obtain ⟨_, hr, his⟩ := ih hlines hscope
    cases his with
    | lines hamounts => exact ⟨_, .level hl hr, .statistic rfl hamounts⟩
  | @derived d x found c c' c'' he _ iht ihs =>
    obtain ⟨hown, hlines⟩ := Task.divides_statistic.mp htask
    have hterm : (Task.term d.term).divides sheet = false := by
      rw [Task.divides, d.divides_term]
      simpa [Statistic.formula?] using hown
    obtain ⟨_, hr, his⟩ := iht hterm (Course.mem_enter_iff hscope)
    obtain ⟨_, hr', his'⟩ := ihs hlines (Course.mem_leave_iff he.marks_eq hscope)
    rw [Course.dice_enter] at hr
    cases his with
    | term hx =>
      cases his' with
      | lines hamounts => exact ⟨_, .derived hr hr', .statistic hx hamounts⟩

/-- What was reckoned is all that can be. -/
theorem Reckons.iff_eq {task : Task} {found reckoned : Reckoned} {s s' after : σ}
    (h : Reckons sheet roller within task s found after) :
    Reckons sheet roller within task s reckoned s' ↔ reckoned = found ∧ s' = after := by
  constructor
  · intro k
    exact k.unique h
  · rintro ⟨rfl, rfl⟩
    exact h

namespace Sheet

theorem evaluateFormula_reckons (hsheet : sheet.divides = false) (roller : Roller σ)
    {source : String} {t : Term} (hp : (parse source).term = some t) (ht : t.divides = false)
    (c : Course σ) : ∃ x n, (sheet.evaluateFormula roller source c).1.root = some x ∧
      Reckons sheet roller c.marks (.term t) c.dice (.term x n)
        (sheet.evaluateFormula roller source c).2.dice := by
  have he := sheet.evaluates_evaluateFormula roller source c
  generalize sheet.evaluateFormula roller source c = outcome at he ⊢
  obtain ⟨r, after⟩ := outcome
  dsimp only at he ⊢
  cases he with
  | unparsed hnone => cases hnone.symm.trans hp
  | @parsed _ _ x _ _ hparsed he =>
    cases hparsed.symm.trans hp
    obtain ⟨_, hr, his⟩ := he.reckons hsheet ht fun _ => Iff.rfl
    cases his with
    | @term _ n _ => exact ⟨x, n, rfl, hr⟩

theorem evaluate_reckons (hsheet : sheet.divides = false) (roller : Roller σ) {name : String}
    {stat : Statistic} (hf : sheet.find? name = some stat) (c : Course σ) :
    ∃ base amounts, (sheet.evaluate roller name c).1.base = .int base ∧
      (sheet.evaluate roller name c).1.lines.map BreakdownLine.amount = amounts.map Number.int ∧
      Reckons sheet roller c.marks (.statistic stat) c.dice (.statistic base amounts)
        (sheet.evaluate roller name c).2.dice := by
  have he := sheet.evaluates_evaluate roller hf c
  obtain ⟨_, hr, his⟩ := he.reckons hsheet (Task.divides_of_find? hsheet hf) fun _ => Iff.rfl
  cases his with
  | @statistic _ base amounts hbase hlines => exact ⟨base, amounts, hbase, hlines, hr⟩

/-- On a sheet that does not divide, formulas that do not either and all statistics come to what
exact arithmetic reckons from literals, levels, what is rolled and what names stand for, and it
reckons nothing else. In the tree of a formula this holds of every node; the value of a statistic is
its base value with the sum of all amounts. What is no statistic comes to zero. -/
theorem evaluates_in_integers (hsheet : sheet.divides = false) (roller : Roller σ)
    (c : Course σ) :
    (∀ source t, (parse source).term = some t → t.divides = false → ∃ x n,
      (sheet.evaluateFormula roller source c).1.root = some x ∧ x.term = t ∧
      (sheet.evaluateFormula roller source c).1.value? = some (.int n) ∧
      (∀ reckoned s, Reckons sheet roller c.marks (.term t) c.dice reckoned s ↔
        reckoned = .term x n ∧ s = (sheet.evaluateFormula roller source c).2.dice) ∧
      ∀ node ∈ x.nodes, ∃ m s s', node.value = .int m ∧
        Reckons sheet roller c.marks (.term node.term) s (.term node m) s') ∧
    (∀ name stat, sheet.find? name = some stat → ∃ base amounts,
      (sheet.evaluate roller name c).1.base = .int base ∧
      (sheet.evaluate roller name c).1.lines.map BreakdownLine.amount = amounts.map Number.int ∧
      (sheet.evaluate roller name c).1.final = .int (base + amounts.sum) ∧
      ∀ reckoned s, Reckons sheet roller c.marks (.statistic stat) c.dice reckoned s ↔
        reckoned = .statistic base amounts ∧ s = (sheet.evaluate roller name c).2.dice) ∧
    ∀ name, sheet.find? name = none → (sheet.evaluate roller name c).1 = ⟨.int 0, []⟩ := by
  refine ⟨?_, ?_, ?_⟩
  · intro source t hp ht
    obtain ⟨x, n, hroot, hr⟩ := evaluateFormula_reckons hsheet roller hp ht c
    obtain ⟨hterm, hvalue, hnodes⟩ := hr.nodes
    refine ⟨x, n, hroot, hterm, ?_, fun _ _ => hr.iff_eq, hnodes⟩
    rw [FormulaResult.value?, hroot, Option.map_some, hvalue]
  · intro name stat hf
    obtain ⟨base, amounts, hbase, hlines, hr⟩ := evaluate_reckons hsheet roller hf c
    have hfinal := Breakdown.final_of_ints hbase hlines
    exact ⟨base, amounts, hbase, hlines, hfinal, fun _ _ => hr.iff_eq⟩
  · intro name hf
    rw [evaluate, hf]
    rfl

/-- The fighter in a rage, which is the stronger the harder the fighter hits. -/
def berserk : Sheet := { fighter with
  modifiers := [⟨"STR", "Belt", "1d4"⟩, ⟨"STR", "Rage", "HIT - 7"⟩] }

/-- Within the rage itself strength counts as zero: it gives -6 to the levels of strength, and the
belt gives 3 to them. Asked for the hit first, it is the hit that counts as zero in the rage. -/
theorem reckons_berserk :
    berserk.divides = false ∧ berserk.find? "str" = some (.ofAttribute strength) ∧
      (berserk.evaluate (.fixed 3) "str" (.fresh () .empty)).1.final = .int (2 + [3, -6].sum) ∧
      Reckons berserk (.fixed 3) [] (.statistic (.ofAttribute strength)) ()
        (.statistic 2 [3, -6]) () ∧
      ∃ t x, (parse "HIT").term = some t ∧ t.divides = false ∧
        Reckons berserk (.fixed 3) [] (.term t) () (.term x (-3)) () := by
  have hsheet : berserk.divides = false := by decide +kernel
  have hall := evaluates_in_integers hsheet (.fixed 3) (.fresh () .empty)
  have hfind : berserk.find? "str" = some (.ofAttribute strength) := by decide +kernel
  obtain ⟨base, amounts, hbase, hlines, hfinal, hstrength⟩ := hall.2.1 _ _ hfind
  have hfound : (berserk.evaluate (.fixed 3) "str" (.fresh () .empty)).1 =
      ⟨.int 2, [⟨"Belt", "1d4", .int 3⟩, ⟨"Rage", "HIT - 7", .int (-6)⟩]⟩ := by
    decide +kernel
  rw [hfound] at hbase hlines
  obtain rfl : 2 = base := Number.int.inj hbase
  obtain rfl : [3, -6] = amounts := List.map_injective_iff.mpr (fun _ _ => Number.int.inj) hlines
  have hparses : (parse "HIT").term.isSome := by decide +kernel
  obtain ⟨t, ht⟩ := Option.isSome_iff_exists.mp hparses
  have hdivides : t.divides = false := by
    rw [← dividesIn_of_parse ht]
    decide +kernel
  obtain ⟨x, n, -, -, hvalue, hhit, -⟩ := hall.1 _ _ ht hdivides
  have hworth : (berserk.evaluateFormula (.fixed 3) "HIT" (.fresh () .empty)).1.value? =
      some (.int (-3)) := by
    decide +kernel
  obtain rfl : n = -3 := Number.int.inj (Option.some.inj (hvalue.symm.trans hworth))
  exact ⟨hsheet, hfind, hfinal, (hstrength _ _).mpr ⟨rfl, Subsingleton.elim _ _⟩, t, x, ht,
    hdivides, (hhit _ _).mpr ⟨rfl, Subsingleton.elim _ _⟩⟩

end Sheet

end Tabletop
