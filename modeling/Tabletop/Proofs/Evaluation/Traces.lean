import Mathlib.Algebra.BigOperators.Group.List.Basic
import Mathlib.Data.Int.Cast.Lemmas
import Tabletop.Proofs.Evaluation.Likeness
import Tabletop.Proofs.Evaluation.Valuation
import Tabletop.Proofs.Formula.Places

/-!
# What evaluated terms show

An evaluated term shows how its value came about: the value of every node is that of its operation
on the values below it, and dice show each result. No die is rolled that the tree does not show,
except for the statistics that its names stand for: what the roller was asked for is what the dice
show from left to right, with the dice of statistics in the places of their names.
-/
namespace Tabletop

/-! ### Runs of a roller -/

namespace Roller

variable {σ : Type} {roller : Roller σ} {s s' s'' : σ} {thrown others : List Throw}

/-- Asked for dice of these sides in order, the roller answers with these values and gets from the
first state to the second. -/
inductive Runs (roller : Roller σ) : σ → List Throw → σ → Prop
  | none {s : σ} : Runs roller s [] s
  | throw {sides : Nat} {s s' : σ} {thrown : List Throw}
      (h : Runs roller (roller sides s).2 thrown s') :
      Runs roller s (⟨sides, (roller sides s).1⟩ :: thrown) s'

theorem Runs.append (h : roller.Runs s thrown s') (k : roller.Runs s' others s'') :
    roller.Runs s (thrown ++ others) s'' := by
  induction h with
  | none => exact k
  | throw _ ih => exact .throw (ih k)

theorem runs_rolls (sides count : Nat) (s : σ) :
    roller.Runs s ((roller.rolls sides count s).1.map (Throw.mk sides))
      (roller.rolls sides count s).2 := by
  induction count generalizing s with
  | zero => exact .none
  | succ count ih => exact .throw (ih (roller sides s).2)

/-- A tally grows by what is thrown in a run. -/
theorem Runs.throws_eq {t t' : Tally σ} (h : roller.tallied.Runs t thrown t') :
    t'.throws = t.throws ++ thrown := by
  induction h with
  | none => exact (List.append_nil _).symm
  | throw _ ih => rw [ih, throws_tallied, List.append_assoc, List.singleton_append]; rfl

theorem Runs.value_eq {face : Nat → Int} (h : roller.Runs s thrown s') (hface : roller.Shows face) :
    ∀ t ∈ thrown, t.value = face t.sides := by
  induction h with
  | none => exact fun t ht => absurd ht List.not_mem_nil
  | @throw sides s s' thrown _ ih =>
    intro t ht
    rcases List.mem_cons.mp ht with rfl | ht
    · exact hface sides s
    · exact ih t ht

/-- A fixed roller always shows the value that it was given, or the nearest face. -/
theorem shows_fixed (value : Int) :
    (fixed value).Shows fun sides => max 1 (min value sides) := fun _ _ => rfl

end Roller

/-! ### Trees -/

namespace Evaluated

/-- All nodes of the tree, each before what it joins. -/
def nodes : Evaluated → List Evaluated
  | literal value place n => [literal value place n]
  | dice value place d rolls => [dice value place d rolls]
  | stat value place name resolved => [stat value place name resolved]
  | negation value place sign operand => negation value place sign operand :: operand.nodes
  | binary value place op sign left right =>
      binary value place op sign left right :: (left.nodes ++ right.nodes)

/-- The nodes of the evaluated term are those of the term. -/
theorem nodes_term (x : Evaluated) : x.term.nodes = x.nodes.map term := by
  induction x with
  | literal value place n => rfl
  | dice value place d rolls => rfl
  | stat value place name resolved => rfl
  | negation value place sign operand ih => simp only [term, Term.nodes, nodes, ih, List.map_cons]
  | binary value place op sign left right ihl ihr =>
    simp only [term, Term.nodes, nodes, ihl, ihr, List.map_cons, List.map_append]

/-- The value of the node is the one that its operation has on the values below. Dice show one
result for each die and have the sum; a name without a statistic counts as zero. -/
def IsFaithful : Evaluated → Prop
  | literal value _ n => value = .int n
  | dice value _ d rolls => rolls.length = d.count ∧ value = .int rolls.sum
  | stat value _ _ resolved => resolved = none → value = .int 0
  | negation value _ _ operand => value = operand.value.neg
  | binary value _ op _ left right => value = op.apply left.value right.value

/-- The dice that the tree shows, from left to right. -/
def throws : Evaluated → List Throw
  | literal .. => []
  | dice _ _ d rolls => rolls.map (Throw.mk d.sides)
  | stat .. => []
  | negation _ _ _ operand => operand.throws
  | binary _ _ _ _ left right => left.throws ++ right.throws

/-- These dice were thrown for the tree, from left to right: the ones that it shows, and in the
place of a name those of its statistic, which it does not show. -/
inductive Accounts : Evaluated → List Throw → Prop
  | literal {value : Number} {place : Place} {n : Nat} : Accounts (.literal value place n) []
  | dice {value : Number} {place : Place} {d : Dice} {rolls : List Int} :
      Accounts (.dice value place d rolls) (rolls.map (Throw.mk d.sides))
  | unresolved {value : Number} {place : Place} {name : String} :
      Accounts (.stat value place name none) []
  | resolved {value : Number} {place : Place} {name id : String} {thrown : List Throw} :
      Accounts (.stat value place name (some id)) thrown
  | negation {value : Number} {place : Place} {sign : Span} {x : Evaluated} {thrown : List Throw}
      (h : Accounts x thrown) : Accounts (.negation value place sign x) thrown
  | binary {value : Number} {place : Place} {op : Operator} {sign : Span} {x y : Evaluated}
      {thrown others : List Throw} (hl : Accounts x thrown) (hr : Accounts y others) :
      Accounts (.binary value place op sign x y) (thrown ++ others)

variable {x : Evaluated} {thrown : List Throw}

/-- Without names nothing is thrown that the tree does not show. -/
theorem Accounts.eq_throws (h : x.Accounts thrown) (hnames : x.term.names = []) :
    thrown = x.throws := by
  induction h with
  | literal => rfl
  | dice => rfl
  | unresolved => rfl
  | resolved => cases hnames
  | negation _ ih => exact ih hnames
  | binary _ _ ihl ihr =>
    obtain ⟨hleft, hright⟩ := List.append_eq_nil_iff.mp hnames
    rw [ihl hleft, ihr hright, throws]

theorem Accounts.mem (h : x.Accounts thrown) {value : Number} {place : Place} {d : Dice}
    {rolls : List Int} (hx : Evaluated.dice value place d rolls ∈ x.nodes) :
    ∀ roll ∈ rolls, ⟨d.sides, roll⟩ ∈ thrown := by
  induction h with
  | literal => cases List.mem_singleton.mp hx
  | dice =>
    cases List.mem_singleton.mp hx
    exact fun roll => List.mem_map_of_mem
  | unresolved => cases List.mem_singleton.mp hx
  | resolved => cases List.mem_singleton.mp hx
  | negation _ ih =>
    rcases List.mem_cons.mp hx with hx | hx
    · cases hx
    · exact ih hx
  | binary _ _ ihl ihr =>
    intro roll hroll
    rcases List.mem_cons.mp hx with hx | hx
    · cases hx
    · rcases List.mem_append.mp hx with hx | hx
      · exact List.mem_append_left _ (ihl hx roll hroll)
      · exact List.mem_append_right _ (ihr hx roll hroll)

end Evaluated

/-! ### Evaluation -/

variable {σ : Type} {sheet : Sheet} {roller : Roller σ}

/-- What is found of a term is a faithful tree of this term. -/
def Finding.Shows : Task → Finding → Prop
  | .term t, .term x => x.term = t ∧ ∀ node ∈ x.nodes, node.IsFaithful
  | _, _ => True

/-- The dice that were thrown for a term are accounted for by its tree. -/
def Finding.Accounts : Finding → List Throw → Prop
  | .term x, thrown => x.Accounts thrown
  | _, _ => True

/-- Each rule makes a faithful node of faithful ones. -/
theorem Evaluates.shows {task : Task} {found : Finding} {c c' : Course σ}
    (h : Evaluates sheet roller task c found c') : found.Shows task := by
  induction h with
  | literal => exact ⟨rfl, List.forall_mem_singleton.mpr rfl⟩
  | @dice place d c =>
    have hlength := roller.length_rolls d.sides d.count c.dice
    exact ⟨rfl, List.forall_mem_singleton.mpr ⟨hlength, rfl⟩⟩
  | unknown _ => exact ⟨rfl, List.forall_mem_singleton.mpr fun _ => rfl⟩
  | circular _ _ => exact ⟨rfl, List.forall_mem_singleton.mpr fun _ => rfl⟩
  | known _ _ _ _ => exact ⟨rfl, List.forall_mem_singleton.mpr fun hnone => nomatch hnone⟩
  | negation _ ih =>
    obtain ⟨rfl, hnodes⟩ := ih
    exact ⟨rfl, List.forall_mem_cons.mpr ⟨rfl, hnodes⟩⟩
  | binary _ _ ihl ihr =>
    obtain ⟨rfl, hleft⟩ := ihl
    obtain ⟨rfl, hright⟩ := ihr
    exact ⟨rfl, List.forall_mem_cons.mpr ⟨rfl, List.forall_mem_append.mpr ⟨hleft, hright⟩⟩⟩
  | _ => trivial

/-- A run within a statistic goes on outside of it. -/
theorem Roller.Runs.leave {c c' c'' : Course σ} {id : String} {thrown others : List Throw}
    (h : roller.Runs (c.enter id).dice thrown c'.dice)
    (k : roller.Runs (c.leave c' id).dice others c''.dice) :
    roller.Runs c.dice (thrown ++ others) c''.dice := by
  rw [Course.dice_enter] at h
  exact h.append k

/-- The dice of an evaluation are thrown in one run of the roller, that of each rule being the runs
of its parts one after the other. -/
theorem Evaluates.exists_runs {task : Task} {found : Finding} {c c' : Course σ}
    (h : Evaluates sheet roller task c found c') :
    ∃ thrown, roller.Runs c.dice thrown c'.dice ∧ found.Accounts thrown := by
  induction h with
  | literal => exact ⟨[], .none, .literal⟩
  | @dice place d c => exact ⟨_, Roller.runs_rolls d.sides d.count c.dice, .dice⟩
  | unknown _ => exact ⟨[], .none, .unresolved⟩
  | circular _ _ => exact ⟨[], .none, .unresolved⟩
  | known _ _ _ ih =>
    obtain ⟨thrown, hruns, -⟩ := ih
    exact ⟨thrown, hruns, .resolved⟩
  | negation _ ih =>
    obtain ⟨thrown, hruns, hx⟩ := ih
    exact ⟨thrown, hruns, .negation hx⟩
  | binary _ _ ihl ihr =>
    obtain ⟨thrown, hleft, hx⟩ := ihl
    obtain ⟨others, hright, hy⟩ := ihr
    exact ⟨thrown ++ others, hleft.append hright, .binary hx hy⟩
  | unparsed _ => exact ⟨[], .none, trivial⟩
  | parsed _ _ ih =>
    obtain ⟨thrown, hruns, -⟩ := ih
    exact ⟨thrown, hruns, trivial⟩
  | noLines => exact ⟨[], .none, trivial⟩
  | @skip id m ms r found c c' c'' _ _ _ ihf ihs =>
    obtain ⟨thrown, hruns, -⟩ := ihf
    obtain ⟨others, hrest, -⟩ := ihs
    exact ⟨thrown ++ others, hruns.leave hrest, trivial⟩
  | @line id m ms r amount found c c' c'' _ _ _ ihf ihs =>
    obtain ⟨thrown, hruns, -⟩ := ihf
    obtain ⟨others, hrest, -⟩ := ihs
    exact ⟨thrown ++ others, hruns.leave hrest, trivial⟩
  | level _ _ ih =>
    obtain ⟨thrown, hruns, -⟩ := ih
    exact ⟨thrown, hruns, trivial⟩
  | derived _ _ iht ihs =>
    obtain ⟨thrown, hruns, -⟩ := iht
    obtain ⟨others, hrest, -⟩ := ihs
    exact ⟨thrown ++ others, hruns.leave hrest, trivial⟩

/-- Dice that all show the same face have that many times it as their value. -/
theorem Roller.Runs.value_dice {face : Nat → Int} {x : Evaluated} {s s' : σ} {thrown : List Throw}
    (hruns : roller.Runs s thrown s') (hface : roller.Shows face) (hx : x.Accounts thrown)
    {value : Number} {place : Place} {d : Dice} {rolls : List Int}
    (hnode : Evaluated.dice value place d rolls ∈ x.nodes)
    (hfaithful : (Evaluated.dice value place d rolls).IsFaithful) :
    value = .int (d.count * face d.sides) := by
  obtain ⟨hlength, rfl⟩ := hfaithful
  have hrolls : rolls = List.replicate d.count (face d.sides) := by
    refine List.eq_replicate_iff.mpr ⟨hlength, fun roll hroll => ?_⟩
    exact hruns.value_eq hface _ (hx.mem hnode roll hroll)
  rw [hrolls, List.sum_replicate, nsmul_eq_mul]

namespace Sheet

open Evaluation

/-- A term is evaluated on the whole sheet, and this follows from the rules. -/
theorem exists_evaluates_term (sheet : Sheet) (roller : Roller σ) (t : Term) (c : Course σ) :
    ∃ x c', term sheet roller (sheet.refer roller) t c = some (x, c') ∧
      Evaluates sheet roller (.term t) c (.term x) c' := by
  have hends := statistic_ends sheet roller sheet.depth
  obtain ⟨x, c', hx⟩ := term_ends hends t c (Nat.le_succ_of_le (sheet.unmarked_le_length c.marks))
  exact ⟨x, c', hx, evaluates_term (evaluates_statistic sheet.depth) hx⟩

/-- Evaluating a term gives a tree of it in which every node is faithful. What the roller was asked
for is accounted for by the tree: without names it is what the dice show from left to right and
nothing else, also in the words of a tally. With a roller that is fixed to a value, dice have their
count times the nearest face to it. -/
theorem term_isFaithful (sheet : Sheet) (t : Term) :
    (∀ (roller : Roller σ) (c : Course σ), ∃ x c' thrown,
      term sheet roller (sheet.refer roller) t c = some (x, c') ∧
      x.term = t ∧ x.nodes.map Evaluated.term = t.nodes ∧ (∀ node ∈ x.nodes, node.IsFaithful) ∧
      roller.Runs c.dice thrown c'.dice ∧ x.Accounts thrown ∧
      (t.names = [] → thrown = x.throws)) ∧
    (∀ (roller : Roller σ) (c : Course (Tally σ)), t.names = [] →
      ∃ x c', term sheet roller.tallied (sheet.refer roller.tallied) t c = some (x, c') ∧
        c'.dice.throws = c.dice.throws ++ x.throws) ∧
    ∀ (v : Int) (c : Course Unit),
      ∃ x c', term sheet (.fixed v) (sheet.refer (.fixed v)) t c = some (x, c') ∧
        ∀ value place d rolls, Evaluated.dice value place d rolls ∈ x.nodes →
          value = .int (d.count * max 1 (min v d.sides)) := by
  refine ⟨?_, ?_, ?_⟩
  · intro roller c
    obtain ⟨x, c', hx, he⟩ := sheet.exists_evaluates_term roller t c
    obtain ⟨hterm, hfaithful⟩ : x.term = t ∧ _ := he.shows
    obtain ⟨thrown, hruns, hthrown⟩ := he.exists_runs
    refine ⟨x, c', thrown, hx, hterm, hterm ▸ x.nodes_term.symm, hfaithful, hruns, hthrown, ?_⟩
    exact fun hnames => Evaluated.Accounts.eq_throws hthrown (hterm ▸ hnames)
  · intro roller c hnames
    obtain ⟨x, c', hx, he⟩ := sheet.exists_evaluates_term roller.tallied t c
    obtain ⟨hterm, -⟩ : x.term = t ∧ _ := he.shows
    obtain ⟨thrown, hruns, hthrown⟩ := he.exists_runs
    refine ⟨x, c', hx, ?_⟩
    rw [hruns.throws_eq, Evaluated.Accounts.eq_throws hthrown (hterm ▸ hnames)]
  · intro v c
    obtain ⟨x, c', hx, he⟩ := sheet.exists_evaluates_term (.fixed v) t c
    obtain ⟨-, hfaithful⟩ : x.term = t ∧ _ := he.shows
    obtain ⟨thrown, hruns, hthrown⟩ := he.exists_runs
    refine ⟨x, c', hx, fun value place d rolls hnode => ?_⟩
    exact hruns.value_dice (Roller.shows_fixed v) hthrown hnode (hfaithful _ hnode)

end Sheet

end Tabletop
