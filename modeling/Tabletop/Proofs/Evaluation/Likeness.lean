import Mathlib.Data.List.Forall2
import Tabletop.Proofs.Evaluation.Circularity

/-!
# Evaluations that go alike

Numbers may be alike in any way that the operations keep: because they are the same, or because
nobody looks at them. Where dice give results that are alike, and the statistics of two sheets are
paired so that paired ones have levels that are alike, the same formulas and names that stand for
paired statistics again, an evaluation on one sheet is matched by one on the other, rule by rule:
the same is said, the same statistics are marked, and all values are alike.
-/
namespace Tabletop

/-! ### Numbers and dice -/

/-- A reflexive relation between numbers that all operations keep. -/
structure Number.Likeness where
  rel : Number → Number → Prop
  refl : ∀ x, rel x x
  neg : ∀ {x y}, rel x y → rel x.neg y.neg
  apply : ∀ (op : Operator) {x y x' y'}, rel x y → rel x' y' → rel (op.apply x x') (op.apply y y')

namespace Number.Likeness

/-- Numbers are alike if they are the same. -/
def same : Likeness where
  rel := Eq
  refl := Eq.refl
  neg h := congrArg Number.neg h
  apply op _ _ _ _ h h' := congrArg₂ op.apply h h'

/-- All numbers are alike. -/
def any : Likeness where
  rel _ _ := True
  refl _ := trivial
  neg _ := trivial
  apply _ _ _ _ _ _ _ := trivial

variable (like : Likeness)

/-- Integers are alike as numbers. -/
def Ints (m n : Int) : Prop := like.rel (.int m) (.int n)

variable {like}

theorem sum {values others : List Int} (h : List.Forall₂ like.Ints values others) :
    like.Ints (values.foldr (· + ·) 0) (others.foldr (· + ·) 0) := by
  induction h with
  | nil => exact like.refl _
  | cons hfirst _ ih => exact like.apply .plus hfirst ih

end Number.Likeness

variable {σ τ : Type} {like : Number.Likeness} {states : σ → τ → Prop}

/-- From states that belong together the rollers give results that are alike and go on to states
that belong together. -/
def Roller.Alike (like : Number.Likeness) (states : σ → τ → Prop) (roller : Roller σ)
    (other : Roller τ) : Prop :=
  ∀ sides s t, states s t →
    like.Ints (roller sides s).1 (other sides t).1 ∧ states (roller sides s).2 (other sides t).2

theorem Roller.Alike.rolls {roller : Roller σ} {other : Roller τ}
    (h : roller.Alike like states other) (sides count : Nat) {s : σ} {t : τ} (hst : states s t) :
    List.Forall₂ like.Ints (roller.rolls sides count s).1 (other.rolls sides count t).1 ∧
      states (roller.rolls sides count s).2 (other.rolls sides count t).2 := by
  induction count generalizing s t with
  | zero => exact ⟨.nil, hst⟩
  | succ count ih =>
    obtain ⟨hvalue, hnext⟩ := h sides s t hst
    obtain ⟨hvalues, hlast⟩ := ih hnext
    exact ⟨.cons hvalue hvalues, hlast⟩

/-! ### What is found -/

/-- The trees have the same nodes, with values and results of dice that are alike. -/
inductive Evaluated.Alike (like : Number.Likeness) : Evaluated → Evaluated → Prop
  | literal {x y : Number} {place : Place} {n : Nat} (h : like.rel x y) :
      Alike like (.literal x place n) (.literal y place n)
  | dice {x y : Number} {place : Place} {d : Dice} {rolls others : List Int} (h : like.rel x y)
      (hrolls : List.Forall₂ like.Ints rolls others) :
      Alike like (.dice x place d rolls) (.dice y place d others)
  | stat {x y : Number} {place : Place} {name : String} {resolved : Option String}
      (h : like.rel x y) : Alike like (.stat x place name resolved) (.stat y place name resolved)
  | negation {x y : Number} {place : Place} {sign : Span} {operand other : Evaluated}
      (h : like.rel x y) (ho : Alike like operand other) :
      Alike like (.negation x place sign operand) (.negation y place sign other)
  | binary {x y : Number} {place : Place} {op : Operator} {sign : Span}
      {left left' right right' : Evaluated} (h : like.rel x y) (hl : Alike like left left')
      (hr : Alike like right right') :
      Alike like (.binary x place op sign left right) (.binary y place op sign left' right')

theorem Evaluated.Alike.value {x y : Evaluated} (h : x.Alike like y) :
    like.rel x.value y.value := by
  cases h <;> assumption

/-- The lines have the same names and sources and amounts that are alike. -/
inductive BreakdownLine.Alike (like : Number.Likeness) : BreakdownLine → BreakdownLine → Prop
  | mk {label formula : String} {x y : Number} (h : like.rel x y) :
      Alike like ⟨label, formula, x⟩ ⟨label, formula, y⟩

/-- The base values and the lines are alike. -/
structure Breakdown.Alike (like : Number.Likeness) (b b' : Breakdown) : Prop where
  base : like.rel b.base b'.base
  lines : List.Forall₂ (BreakdownLine.Alike like) b.lines b'.lines

theorem Breakdown.Alike.final {b b' : Breakdown} (h : b.Alike like b') :
    like.rel b.final b'.final := by
  obtain ⟨base, lines⟩ := b
  obtain ⟨base', lines'⟩ := b'
  obtain ⟨hbase, hlines⟩ := h
  simp only at hbase hlines
  unfold Breakdown.final
  induction hlines generalizing base base' with
  | nil => exact hbase
  | cons hline _ ih =>
    cases hline with
    | mk hamount => exact ih _ _ (like.apply .plus hbase hamount)

/-- What is found on both sides is alike. -/
inductive Finding.Alike (like : Number.Likeness) : Finding → Finding → Prop
  | term {x y : Evaluated} (h : x.Alike like y) : Alike like (.term x) (.term y)
  | formula {source : String} {root other : Option Evaluated} {messages : List Diagnostic}
      (h : Option.Rel (Evaluated.Alike like) root other) :
      Alike like (.formula ⟨source, root, messages⟩) (.formula ⟨source, other, messages⟩)
  | lines {found others : List BreakdownLine}
      (h : List.Forall₂ (BreakdownLine.Alike like) found others) :
      Alike like (.lines found) (.lines others)
  | statistic {b b' : Breakdown} (h : b.Alike like b') : Alike like (.statistic b) (.statistic b')

/-! ### Courses -/

namespace Course

variable {c c' c'' : Course σ} {d d' d'' : Course τ}

/-- The courses have the same marks and dice whose states belong together. -/
structure Alike (states : σ → τ → Prop) (c : Course σ) (d : Course τ) : Prop where
  dice : states c.dice d.dice
  marks : c.marks = d.marks

/-- The courses lead to such that are alike, and the same has been said on the way. -/
structure LeadAlike (states : σ → τ → Prop) (c c' : Course σ) (d d' : Course τ) : Prop where
  ends : c'.Alike states d'
  said : ∃ said, c'.messages = c.messages ++ said ∧ d'.messages = d.messages ++ said

theorem dice_enter (c : Course σ) (id : String) : (c.enter id).dice = c.dice := by
  by_cases h : c.isMarked id <;> simp [enter, mark, h]

theorem Alike.isMarked (h : c.Alike states d) (id : String) : c.isMarked id = d.isMarked id := by
  rw [Course.isMarked, Course.isMarked, h.marks]

theorem Alike.enter (h : c.Alike states d) (id : String) :
    (c.enter id).Alike states (d.enter id) := by
  refine ⟨?_, ?_⟩
  · rw [dice_enter, dice_enter]
    exact h.dice
  · have hsame := h.isMarked id
    cases hm : c.isMarked id with
    | true => simp [Course.enter, mark, hm, ← hsame, h.marks]
    | false =>
      rw [marks_enter_of_not_isMarked hm, marks_enter_of_not_isMarked (hsame ▸ hm), h.marks]

namespace LeadAlike

theorem refl (h : c.Alike states d) : LeadAlike states c c d d :=
  ⟨h, [], (List.append_nil _).symm, (List.append_nil _).symm⟩

theorem trans (h : LeadAlike states c c' d d') (k : LeadAlike states c' c'' d' d'') :
    LeadAlike states c c'' d d'' := by
  obtain ⟨said, hc, hd⟩ := h.said
  obtain ⟨more, hc', hd'⟩ := k.said
  refine ⟨k.ends, said ++ more, ?_, ?_⟩
  · rw [hc', hc, List.append_assoc]
  · rw [hd', hd, List.append_assoc]

/-- Whatever is recorded, courses stay alike. -/
theorem record (h : c.Alike states d) (r r' : Record) :
    LeadAlike states c (c.record r) d (d.record r') :=
  ⟨⟨h.dice, h.marks⟩, [], (List.append_nil _).symm, (List.append_nil _).symm⟩

theorem say (h : c.Alike states d) (message : Diagnostic) :
    LeadAlike states c (c.say message) d (d.say message) :=
  ⟨⟨h.dice, h.marks⟩, [message], rfl, rfl⟩

/-- What is said inside of a statistic is not said outside. -/
theorem leave {id : String} (h : LeadAlike states (c.enter id) c' (d.enter id) d') :
    LeadAlike states c (c.leave c' id) d (d.leave d' id) := by
  refine ⟨⟨h.ends.dice, ?_⟩, [], (List.append_nil _).symm, (List.append_nil _).symm⟩
  simp only [Course.leave, unmark, h.ends.marks]

end LeadAlike

end Course

/-! ### Statistics -/

/-- The names in a formula, if it parses. -/
def namesIn (source : String) : List String := ((parse source).term.map Term.names).getD []

theorem namesIn_of_parse {source : String} {t : Term} (h : (parse source).term = some t) :
    namesIn source = t.names := by
  simp only [namesIn, h, Option.map_some, Option.getD_some]

/-- What the term of a derived statistic has of some kind is what its formula has, if the term that
stands in for one that does not parse has nothing of it. -/
theorem Derived.apply_term {α : Type} (f : Term → List α) (h : f .zero = []) (d : Derived) :
    f d.term = ((parse d.formula).term.map f).getD [] := by
  unfold Derived.term Derived.parsed
  cases (parse d.formula).term with
  | none => exact h
  | some t => rfl

/-- Every name stands for nothing on both sheets or for paired statistics. -/
def Sheet.PairNames (a b : Sheet) (rel : Statistic → Statistic → Prop) (names : List String) :
    Prop :=
  ∀ name ∈ names, Option.Rel rel (a.find? name) (b.find? name)

section

variable {a b : Sheet} {rel : Statistic → Statistic → Prop} {names : List String} {name : String}

theorem Sheet.PairNames.find?_eq_none (h : a.PairNames b rel names) (hname : name ∈ names)
    (hf : a.find? name = none) : b.find? name = none := by
  have hpair := h name hname
  rw [hf] at hpair
  generalize b.find? name = target at hpair
  cases hpair
  rfl

theorem Sheet.PairNames.exists_find? {stat : Statistic} (h : a.PairNames b rel names)
    (hname : name ∈ names) (hf : a.find? name = some stat) :
    ∃ stat', b.find? name = some stat' ∧ rel stat stat' := by
  have hpair := h name hname
  rw [hf] at hpair
  generalize b.find? name = target at hpair
  cases hpair with
  | some hrel => exact ⟨_, rfl, hrel⟩

end

/-- A pairing of statistics of two sheets. Paired statistics have the same id, levels that are
alike, the same formula and the same modifiers, and their formulas lead to paired statistics again.
-/
structure Sheet.Pairing (like : Number.Likeness) (a b : Sheet) where
  rel : Statistic → Statistic → Prop
  id_eq : ∀ {x y}, rel x y → x.id = y.id
  level : ∀ {x y}, rel x y →
    Option.Rel (fun m n : Nat => like.Ints m n) x.level? y.level?
  formula_eq : ∀ {x y}, rel x y → x.formula? = y.formula?
  modifiers_eq : ∀ {x y}, rel x y → a.modifiersOn x.id = b.modifiersOn y.id
  names : ∀ {x y}, rel x y → ∀ source ∈ a.formulasOf x, a.PairNames b rel (namesIn source)

/-- The tasks are the same up to paired statistics, and all their names lead to such. -/
inductive Task.Alike (a b : Sheet) (rel : Statistic → Statistic → Prop) : Task → Task → Prop
  | term {t : Term} (h : a.PairNames b rel t.names) : Alike a b rel (.term t) (.term t)
  | formula {source : String} (h : a.PairNames b rel (namesIn source)) :
      Alike a b rel (.formula source) (.formula source)
  | lines {id : String} {ms : List Modifier}
      (h : ∀ m ∈ ms, a.PairNames b rel (namesIn m.formula)) :
      Alike a b rel (.lines id ms) (.lines id ms)
  | statistic {x y : Statistic} (h : rel x y) : Alike a b rel (.statistic x) (.statistic y)

variable {a b : Sheet} {roller : Roller σ} {other : Roller τ}

/-- The modifiers on paired statistics are tasks that are alike. -/
theorem Sheet.Pairing.lines (pairs : a.Pairing like b) {x y : Statistic} (h : pairs.rel x y) :
    Task.Alike a b pairs.rel (.lines x.id (a.modifiersOn x.id))
      (.lines y.id (b.modifiersOn y.id)) := by
  have hsame : b.modifiersOn y.id = a.modifiersOn x.id := (pairs.modifiers_eq h).symm
  rw [hsame, ← pairs.id_eq h]
  refine .lines fun m hm => pairs.names h m.formula ?_
  exact List.mem_append_right _ (List.mem_map_of_mem hm)

theorem Sheet.Pairing.exists_level (pairs : a.Pairing like b) {x y : Statistic} {n : Nat}
    (h : pairs.rel x y) (hl : x.level? = some n) : ∃ n', y.level? = some n' ∧ like.Ints n n' := by
  have hlevel := pairs.level h
  rw [hl] at hlevel
  generalize y.level? = level at hlevel
  cases hlevel with
  | some hn => exact ⟨_, rfl, hn⟩

/-- What is paired with a derived statistic is one with the same formula. -/
theorem Sheet.Pairing.exists_derived (pairs : a.Pairing like b) {d : Derived} {y : Statistic}
    (h : pairs.rel (.ofDerived d) y) :
    ∃ d', y = .ofDerived d' ∧ d'.id = d.id ∧ d'.term = d.term := by
  have hformula := pairs.formula_eq h
  have hid := pairs.id_eq h
  cases y with
  | ofAttribute _ => cases hformula
  | ofSkill _ _ => cases hformula
  | ofDerived d' =>
    refine ⟨d', rfl, hid.symm, ?_⟩
    have hsource : d.formula = d'.formula := Option.some.inj hformula
    rw [Derived.term, Derived.term, Derived.parsed, Derived.parsed, hsource]

/-- The task of the other sheet is evaluated too, to something alike, and the courses go alike. -/
def Task.HasAlike (like : Number.Likeness) (states : σ → τ → Prop) (b : Sheet) (other : Roller τ)
    (task : Task) (found : Finding) (c c' : Course σ) (d : Course τ) : Prop :=
  ∃ found' d', Evaluates b other task d found' d' ∧ found.Alike like found' ∧
    c.LeadAlike states c' d d'

/-- The induction is on the rules of the first evaluation: the same rule leads the second one on. -/
theorem Evaluates.hasAlike (hroller : roller.Alike like states other) (pairs : a.Pairing like b)
    {task : Task} {found : Finding} {c c' : Course σ} (h : Evaluates a roller task c found c')
    {task' : Task} (htask : task.Alike a b pairs.rel task') {d : Course τ}
    (hc : c.Alike states d) : task'.HasAlike like states b other found c c' d := by
  induction h generalizing task' d with
  | literal =>
    cases htask
    exact ⟨_, _, .literal, .term (.literal (like.refl _)), .refl hc⟩
  | @dice place dice c =>
    cases htask
    obtain ⟨hvalues, hstates⟩ := hroller.rolls dice.sides dice.count hc.dice
    refine ⟨_, _, .dice, .term (.dice (Number.Likeness.sum hvalues) hvalues), ?_⟩
    exact ⟨⟨hstates, hc.marks⟩, [], (List.append_nil _).symm, (List.append_nil _).symm⟩
  | @unknown place name c hf =>
    cases htask with
    | term hnames =>
      have hf' := hnames.find?_eq_none (List.mem_singleton_self name) hf
      exact ⟨_, _, .unknown hf', .term (.stat (like.refl _)), .say hc _⟩
  | @circular place name stat c hf hm =>
    cases htask with
    | term hnames =>
      obtain ⟨stat', hf', hrel⟩ := hnames.exists_find? (List.mem_singleton_self name) hf
      have hid := pairs.id_eq hrel
      have hm' : d.isMarked stat'.id = true := by rw [← hid, ← hc.isMarked, hm]
      refine ⟨_, _, .circular hf' hm', .term (.stat (like.refl _)), ?_⟩
      rw [← hid]
      have hrecord : c.LeadAlike states (c.record (.circular stat.id)) d
          (d.record (.circular stat.id)) := .record hc _ _
      exact hrecord.trans (.say hrecord.ends _)
  | @known place name stat bd c c' hf hm _ ih =>
    cases htask with
    | term hnames =>
      obtain ⟨stat', hf', hrel⟩ := hnames.exists_find? (List.mem_singleton_self name) hf
      have hid := pairs.id_eq hrel
      have hm' : d.isMarked stat'.id = false := by rw [← hid, ← hc.isMarked, hm]
      obtain ⟨found', d', he, halike, hlead⟩ := ih (.statistic hrel) hc
      cases halike with
      | statistic hb =>
        refine ⟨_, _, .known hf' hm' he, ?_, hlead⟩
        rw [← hid]
        exact .term (.stat hb.final)
  | negation _ ih =>
    cases htask with
    | term hnames =>
      obtain ⟨found', d', he, halike, hlead⟩ := ih (.term hnames) hc
      cases halike with
      | term hx => exact ⟨_, _, .negation he, .term (.negation (like.neg hx.value) hx), hlead⟩
  | @binary place op sign t u x y c c' c'' _ _ ihl ihr =>
    cases htask with
    | term hnames =>
      obtain ⟨_, d', he, halike, hlead⟩ :=
        ihl (.term fun name hn => hnames name (List.mem_append_left _ hn)) hc
      obtain ⟨_, d'', he', halike', hlead'⟩ :=
        ihr (.term fun name hn => hnames name (List.mem_append_right _ hn)) hlead.ends
      cases halike with
      | term hx =>
        cases halike' with
        | term hy =>
          have happly := like.apply op hx.value hy.value
          exact ⟨_, _, .binary he he', .term (.binary happly hx hy), hlead.trans hlead'⟩
  | unparsed hp =>
    cases htask
    exact ⟨_, _, .unparsed hp, .formula .none, .record hc _ _⟩
  | @parsed source t x c c' hp _ ih =>
    cases htask with
    | formula hnames =>
      rw [namesIn_of_parse hp] at hnames
      have hrecord : c.LeadAlike states (c.record (.parsing source)) d
          (d.record (.parsing source)) := .record hc _ _
      obtain ⟨_, d', he, halike, hlead⟩ := ih (.term hnames) hrecord.ends
      cases halike with
      | term hx =>
        refine ⟨_, _, .parsed hp he, ?_, hrecord.trans hlead⟩
        -- what is new is the same on both courses, whatever had been said before
        obtain ⟨said, hs, hs'⟩ := (hrecord.trans hlead).said
        rw [hs, hs', List.drop_left, List.drop_left]
        exact .formula (.some hx)
  | noLines =>
    cases htask
    exact ⟨_, _, .noLines, .lines .nil, .refl hc⟩
  | @skip id m ms r found c c' c'' _ hv _ ihf ihs =>
    cases htask with
    | lines hnames =>
      obtain ⟨_, d', he, halike, hlead⟩ :=
        ihf (.formula (hnames m List.mem_cons_self)) (hc.enter id)
      have hout := hlead.leave
      have hrecord := hout.trans (.record hout.ends (.modifierUnparsed m.label id m.formula)
        (.modifierUnparsed m.label id m.formula))
      obtain ⟨_, d'', hs, halike', hlead'⟩ :=
        ihs (.lines fun m hm => hnames m (List.mem_cons_of_mem _ hm)) hrecord.ends
      cases halike with
      | formula hroot =>
        cases hroot with
        | some _ => cases hv
        | none =>
          cases halike' with
          | lines hrest => exact ⟨_, _, .skip he rfl hs, .lines hrest, hrecord.trans hlead'⟩
  | @line id m ms r amount found c c' c'' _ hv _ ihf ihs =>
    cases htask with
    | lines hnames =>
      obtain ⟨_, d', he, halike, hlead⟩ :=
        ihf (.formula (hnames m List.mem_cons_self)) (hc.enter id)
      have hout := hlead.leave
      obtain ⟨_, d'', hs, halike', hlead'⟩ :=
        ihs (.lines fun m hm => hnames m (List.mem_cons_of_mem _ hm)) hout.ends
      cases halike with
      | formula hroot =>
        cases hroot with
        | none => cases hv
        | some hx =>
          cases hv
          cases halike' with
          | lines hrest =>
            exact ⟨_, _, .line he rfl hs, .lines (.cons (.mk hx.value) hrest),
              hout.trans hlead'⟩
  | @level stat n found c c' hl _ ih =>
    cases htask with
    | statistic hrel =>
      obtain ⟨n', hl', hn⟩ := pairs.exists_level hrel hl
      obtain ⟨_, d', hs, halike, hlead⟩ := ih (pairs.lines hrel) hc
      cases halike with
      | lines hlines => exact ⟨_, _, .level hl' hs, .statistic ⟨hn, hlines⟩, hlead⟩
  | @derived dv x found c c' c'' _ _ iht ihs =>
    cases htask with
    | statistic hrel =>
      obtain ⟨dv', rfl, hid, hterm⟩ := pairs.exists_derived hrel
      have hnames := pairs.names hrel dv.formula List.mem_cons_self
      rw [namesIn, ← dv.apply_term Term.names rfl] at hnames
      obtain ⟨_, d', he, halike, hlead⟩ := iht (.term hnames) (hc.enter dv.id)
      have hout := hlead.leave
      obtain ⟨_, d'', hs, halike', hlead'⟩ := ihs (pairs.lines hrel) hout.ends
      cases halike with
      | term hx =>
        cases halike' with
        | lines hlines =>
          have hwhole := hout.trans hlead'
          rw [← hid, ← hterm] at he
          rw [← hid] at hs
          exact ⟨_, _, .derived he hs, .statistic ⟨hx.value, hlines⟩, hwhole⟩

end Tabletop
