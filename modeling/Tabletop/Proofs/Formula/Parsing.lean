import Mathlib.Tactic.Common
import Tabletop.Formula.Parse
import Tabletop.Proofs.Formula.Grammar
import Tabletop.Proofs.Formula.Scanning

/-!
# Parsing follows the grammar

Reading the tokens of a part of a formula, from a state in which the part may begin, ends in the
state that holds its term; what waited before still waits. In the other direction every state says
what the tokens so far are: complete left operands with their operations, minus signs and open
parentheses, and the value that has just ended. Both directions together say that tokens have a term
exactly if they form a formula, and as reading is a function no formula has two trees.
-/
namespace Tabletop

namespace Reading

variable {chars : List Char}

/-! ### Steps -/

@[simp] theorem finish_some (w : Waiting) (x : Term) :
    finish chars (some w) x = Term.join chars w.op w.sign w.left x := rfl

/-- A token that can be an atom by itself settles as its term. -/
theorem run_leaf {tok : Token} {x : Term} {level : Level} {outer : List Level}
    (h : operand chars level outer tok = .ok (settle chars level outer x)) :
    run chars (.wants level outer) [tok] = .ok (settle chars level outer x) := by
  simp only [run, step, h, Except.bind]

theorem step_productOperator {tok : Token} {op : Operator}
    (h : tok.lexeme.productOperator? = some op) (value : Term) (sum : Option Waiting)
    (outer : List Level) :
    step chars (.holds value sum outer) tok =
      .ok (.wants ⟨sum, some ⟨value, op, tok.span⟩, none⟩ outer) := by
  simp only [step, operator, h]

theorem step_sumOperator {tok : Token} {op : Operator} (h : tok.lexeme.sumOperator? = some op)
    (value : Term) (sum : Option Waiting) (outer : List Level) :
    step chars (.holds value sum outer) tok =
      .ok (.wants ⟨some ⟨finish chars sum value, op, tok.span⟩, none, none⟩ outer) := by
  have hp : tok.lexeme.productOperator? = none := by
    cases hl : tok.lexeme <;> simp_all [Lexeme.sumOperator?, Lexeme.productOperator?]
  simp only [step, operator, hp, h]

theorem step_openParen {tok : Token} (h : tok.lexeme = .openParen) (level : Level)
    (outer : List Level) :
    step chars (.wants level outer) tok = .ok (.wants .empty (level :: outer)) := by
  simp only [step, operand, h]

theorem step_closeParen {tok : Token} (h : tok.lexeme = .closeParen) (value : Term)
    (sum : Option Waiting) (level : Level) (outer : List Level) :
    step chars (.holds value sum (level :: outer)) tok =
      .ok (settle chars level outer (finish chars sum value)) := by
  simp only [step, operator, h, Lexeme.productOperator?, Lexeme.sumOperator?, if_true]

theorem step_minus {tok : Token} (h : tok.lexeme = .minus) (sum product : Option Waiting)
    (outer : List Level) :
    step chars (.wants ⟨sum, product, none⟩ outer) tok =
      .ok (.wants ⟨sum, product, some tok.span⟩ outer) := by
  simp only [step, operand, h, Option.isNone_none, if_true]

/-! ### From the grammar to the states -/

/-- Where the tokens of a part lead, from every state in which a part of the grade may begin. -/
def Reads (chars : List Char) (ts : List Token) (t : FormulaTree) : Grade → Prop
  | .atom => ∀ level outer, ∃ x : Term, x.tree = t ∧
      run chars (.wants level outer) ts = .ok (settle chars level outer x)
  | .signed => ∀ sum product outer, ∃ x : Term, x.tree = t ∧
      run chars (.wants ⟨sum, product, none⟩ outer) ts =
        .ok (.holds (finish chars product x) sum outer)
  | .product => ∀ sum outer, ∃ x : Term, x.tree = t ∧
      run chars (.wants ⟨sum, none, none⟩ outer) ts = .ok (.holds x sum outer)
  | .sum => ∀ outer, ∃ (x : Term) (sum : Option Waiting), (finish chars sum x).tree = t ∧
      run chars (.wants .empty outer) ts = .ok (.holds x sum outer)

theorem Reads.parens {first last : Token} {ts : List Token} {t : FormulaTree}
    (h : Reads chars ts t .sum) (hf : first.lexeme = .openParen) (hl : last.lexeme = .closeParen) :
    Reads chars (first :: (ts ++ [last])) t .atom := by
  intro level outer
  obtain ⟨x, sum, hx, hr⟩ := h (level :: outer)
  refine ⟨finish chars sum x, hx, ?_⟩
  simp only [run, step_openParen hf, run_append, hr, step_closeParen hl, Except.bind]

theorem Reads.negation {sign : Token} {ts : List Token} {t : FormulaTree}
    (h : Reads chars ts t .atom) (hs : sign.lexeme = .minus) :
    Reads chars (sign :: ts) (.negation t) .signed := by
  intro sum product outer
  obtain ⟨x, hx, hr⟩ := h ⟨sum, product, some sign.span⟩ outer
  refine ⟨Term.negate chars sign.span x, by rw [Term.tree_negate, hx], ?_⟩
  simp only [run, step_minus hs, hr, Except.bind, settle]

theorem Reads.joinProduct {tok : Token} {ts us : List Token} {t u : FormulaTree} {op : Operator}
    (h : Reads chars ts t .product) (ho : tok.lexeme.productOperator? = some op)
    (k : Reads chars us u .signed) : Reads chars (ts ++ tok :: us) (.binary op t u) .product := by
  intro sum outer
  obtain ⟨x, hx, hr⟩ := h sum outer
  obtain ⟨y, hy, hs⟩ := k sum (some ⟨x, op, tok.span⟩) outer
  refine ⟨Term.join chars op tok.span x y, by rw [Term.tree_join, hx, hy], ?_⟩
  simp only [run_append, hr, run, step_productOperator ho, hs, Except.bind, finish_some]

theorem Reads.joinSum {tok : Token} {ts us : List Token} {t u : FormulaTree} {op : Operator}
    (h : Reads chars ts t .sum) (ho : tok.lexeme.sumOperator? = some op)
    (k : Reads chars us u .product) : Reads chars (ts ++ tok :: us) (.binary op t u) .sum := by
  intro outer
  obtain ⟨x, sum, hx, hr⟩ := h outer
  obtain ⟨y, hy, hs⟩ := k (some ⟨finish chars sum x, op, tok.span⟩) outer
  refine ⟨y, some ⟨finish chars sum x, op, tok.span⟩, ?_, ?_⟩
  · rw [finish_some, Term.tree_join, hx, hy]
  · simp only [run_append, hr, run, step_sumOperator ho, hs, Except.bind]

/-- The tokens of two parts with an operation between them are those of each. -/
theorem exists_of_map_lexeme_eq {ts : List Token} {ls ms : List Lexeme} {l : Lexeme}
    (h : ts.map Token.lexeme = ls ++ l :: ms) : ∃ front tok back, ts = front ++ tok :: back ∧
      front.map Token.lexeme = ls ∧ tok.lexeme = l ∧ back.map Token.lexeme = ms := by
  obtain ⟨front, rest, rfl, hfront, hrest⟩ := List.map_eq_append_iff.mp h
  obtain ⟨tok, back, rfl, ho, hback⟩ := List.map_eq_cons_iff.mp hrest
  exact ⟨front, tok, back, rfl, hfront, ho, hback⟩

/-- The tokens of every part that the grammar derives are read as that part. The induction follows
the derivation; each case hands the states of its parts on to each other. -/
theorem reads_of_derives (chars : List Char) {g : Grade} {ls : List Lexeme} {t : FormulaTree}
    (h : Derives g ls t) :
    ∀ ts : List Token, ts.map Token.lexeme = ls → Reads chars ts t g := by
  induction h with
  | integer value =>
    intro ts hts level outer
    obtain ⟨tok, rfl, hl⟩ := List.map_eq_singleton_iff.mp hts
    exact ⟨.literal (.ofSpan chars tok.span) value, rfl, run_leaf (by simp only [operand, hl])⟩
  | name id =>
    intro ts hts level outer
    obtain ⟨tok, rfl, hl⟩ := List.map_eq_singleton_iff.mp hts
    exact ⟨.stat (.ofSpan chars tok.span) id, rfl, run_leaf (by simp only [operand, hl])⟩
  | dice hc hs =>
    intro ts hts level outer
    obtain ⟨tok, rfl, hl⟩ := List.map_eq_singleton_iff.mp hts
    refine ⟨.dice (.ofSpan chars tok.span) ⟨_, _, hc, hs⟩, rfl, run_leaf ?_⟩
    simp only [operand, hl, hc, hs, and_self, dite_true]
  | parens _ ih =>
    intro ts hts
    obtain ⟨first, rest, rfl, hf, hrest⟩ := List.map_eq_cons_iff.mp hts
    obtain ⟨inner, tail, rfl, hinner, htail⟩ := List.map_eq_append_iff.mp hrest
    obtain ⟨last, rfl, hl⟩ := List.map_eq_singleton_iff.mp htail
    exact (ih inner hinner).parens hf hl
  | atom _ ih =>
    intro ts hts sum product outer
    obtain ⟨x, hx, hr⟩ := ih ts hts ⟨sum, product, none⟩ outer
    exact ⟨x, hx, hr⟩
  | negation _ ih =>
    intro ts hts
    obtain ⟨sign, rest, rfl, hs, hrest⟩ := List.map_eq_cons_iff.mp hts
    exact (ih rest hrest).negation hs
  | signed _ ih =>
    intro ts hts sum outer
    exact ih ts hts sum none outer
  | times _ _ ih ihr =>
    intro ts hts
    obtain ⟨front, tok, back, rfl, hfront, ho, hback⟩ := exists_of_map_lexeme_eq hts
    exact (ih front hfront).joinProduct (by rw [ho]; rfl) (ihr back hback)
  | divide _ _ ih ihr =>
    intro ts hts
    obtain ⟨front, tok, back, rfl, hfront, ho, hback⟩ := exists_of_map_lexeme_eq hts
    exact (ih front hfront).joinProduct (by rw [ho]; rfl) (ihr back hback)
  | product _ ih =>
    intro ts hts outer
    obtain ⟨x, hx, hr⟩ := ih ts hts none outer
    exact ⟨x, none, hx, hr⟩
  | plus _ _ ih ihr =>
    intro ts hts
    obtain ⟨front, tok, back, rfl, hfront, ho, hback⟩ := exists_of_map_lexeme_eq hts
    exact (ih front hfront).joinSum (by rw [ho]; rfl) (ihr back hback)
  | minus _ _ ih ihr =>
    intro ts hts
    obtain ⟨front, tok, back, rfl, hfront, ho, hback⟩ := exists_of_map_lexeme_eq hts
    exact (ih front hfront).joinSum (by rw [ho]; rfl) (ihr back hback)

/-! ### From the states to the grammar -/

end Reading

/-- The lexemes of a left operand of the given grade, and of the operation that waits behind it. -/
def Waiting.Holds (g : Grade) (operator? : Lexeme → Option Operator) :
    Option Waiting → List Lexeme → Prop
  | none, ls => ls = []
  | some w, ls => ∃ ms l, Derives g ms w.left.tree ∧ operator? l = some w.op ∧ ls = ms ++ [l]

/-- The lexemes of all that waits inside one parenthesis. -/
def Level.Holds (level : Level) (ls : List Lexeme) : Prop :=
  ∃ sums products, Waiting.Holds .sum Lexeme.sumOperator? level.sum sums ∧
    Waiting.Holds .product Lexeme.productOperator? level.product products ∧
    ls = sums ++ products ++ (level.minus.map fun _ => Lexeme.minus).toList

/-- The lexemes before and of the open parentheses. -/
def Level.AllHold : List Level → List Lexeme → Prop
  | [], ls => ls = []
  | level :: outer, ls => ∃ before own, AllHold outer before ∧ level.Holds own ∧
      ls = before ++ own ++ [.openParen]

namespace Reading

/-- The lexemes that have been read when a state is reached. -/
def Holds : Reading → List Lexeme → Prop
  | .wants level outer, ls => ∃ before own, Level.AllHold outer before ∧ level.Holds own ∧
      ls = before ++ own
  | .holds value sum outer, ls => ∃ before sums own, Level.AllHold outer before ∧
      Waiting.Holds .sum Lexeme.sumOperator? sum sums ∧ Derives .product own value.tree ∧
      ls = before ++ sums ++ own

end Reading

namespace Derives

theorem joinProduct {l : Lexeme} {op : Operator} {ls ms : List Lexeme} {t u : FormulaTree}
    (h : Derives .product ls t) (ho : l.productOperator? = some op) (k : Derives .signed ms u) :
    Derives .product (ls ++ l :: ms) (.binary op t u) := by
  cases l <;> simp only [Lexeme.productOperator?, Option.some.injEq, reduceCtorEq] at ho
  · subst ho; exact h.times k
  · subst ho; exact h.divide k

theorem joinSum {l : Lexeme} {op : Operator} {ls ms : List Lexeme} {t u : FormulaTree}
    (h : Derives .sum ls t) (ho : l.sumOperator? = some op) (k : Derives .product ms u) :
    Derives .sum (ls ++ l :: ms) (.binary op t u) := by
  cases l <;> simp only [Lexeme.sumOperator?, Option.some.injEq, reduceCtorEq] at ho
  · subst ho; exact h.plus k
  · subst ho; exact h.minus k

end Derives

namespace Reading

variable {chars : List Char}

theorem derives_finish_product (chars : List Char) {product : Option Waiting}
    {front own : List Lexeme} {x : Term}
    (hp : Waiting.Holds .product Lexeme.productOperator? product front)
    (hx : Derives .signed own x.tree) :
    Derives .product (front ++ own) (finish chars product x).tree := by
  cases product with
  | none =>
    obtain rfl : front = [] := hp
    exact .signed hx
  | some w =>
    obtain ⟨ms, l, hw, ho, rfl⟩ := hp
    simpa using hw.joinProduct ho hx

theorem derives_finish_sum (chars : List Char) {sum : Option Waiting} {front own : List Lexeme}
    {x : Term} (hs : Waiting.Holds .sum Lexeme.sumOperator? sum front)
    (hx : Derives .product own x.tree) :
    Derives .sum (front ++ own) (finish chars sum x).tree := by
  cases sum with
  | none =>
    obtain rfl : front = [] := hs
    exact .product hx
  | some w =>
    obtain ⟨ms, l, hw, ho, rfl⟩ := hs
    simpa using hw.joinSum ho hx

/-- An atom takes the minus sign and the product that wait for it. -/
theorem holds_settle (chars : List Char) {level : Level} {outer : List Level}
    {before own ls : List Lexeme} {x : Term}
    (ho : Level.AllHold outer before) (hl : level.Holds own) (hx : Derives .atom ls x.tree) :
    (settle chars level outer x).Holds (before ++ own ++ ls) := by
  obtain ⟨sum, product, minus⟩ := level
  obtain ⟨sums, products, hs, hp, rfl⟩ := hl
  cases minus with
  | none =>
    have hd := derives_finish_product chars hp (.atom hx)
    exact ⟨before, sums, products ++ ls, ho, hs, hd, by simp⟩
  | some sign =>
    have hn : Derives .signed (.minus :: ls) (Term.negate chars sign x).tree := .negation hx
    have hd := derives_finish_product chars hp hn
    exact ⟨before, sums, products ++ .minus :: ls, ho, hs, hd, by simp⟩

theorem holds_operand {level : Level} {outer : List Level} {tok : Token} {r : Reading}
    {before own : List Lexeme} (ho : Level.AllHold outer before) (hl : level.Holds own)
    (h : operand chars level outer tok = .ok r) : r.Holds (before ++ own ++ [tok.lexeme]) := by
  unfold operand at h
  cases hk : tok.lexeme with
  | integer value =>
    simp only [hk, Except.ok.injEq] at h
    exact h ▸ holds_settle chars ho hl (.integer value)
  | name id =>
    simp only [hk, Except.ok.injEq] at h
    exact h ▸ holds_settle chars ho hl (.name id)
  | dice count sides =>
    simp only [hk] at h
    split at h
    · rename_i hpos
      simp only [Except.ok.injEq] at h
      exact h ▸ holds_settle chars ho hl (.dice hpos.1 hpos.2)
    · cases h
  | openParen =>
    simp only [hk, Except.ok.injEq] at h
    have he : Level.empty.Holds [] := ⟨[], [], rfl, rfl, rfl⟩
    exact h ▸ ⟨_, [], ⟨before, own, ho, hl, rfl⟩, he, by simp⟩
  | minus =>
    simp only [hk] at h
    split at h
    · rename_i hnone
      obtain ⟨sum, product, minus⟩ := level
      obtain rfl : minus = none := by simpa using hnone
      obtain ⟨sums, products, hs, hp, rfl⟩ := hl
      simp only [Except.ok.injEq] at h
      exact h ▸ ⟨before, _, ho, ⟨sums, products, hs, hp, rfl⟩, by simp⟩
    · cases h
  | closeParen => simp [hk] at h
  | plus => simp [hk] at h
  | star => simp [hk] at h
  | slash => simp [hk] at h

theorem holds_operator {value : Term} {sum : Option Waiting} {outer : List Level} {tok : Token}
    {r : Reading} {ls : List Lexeme} (hr : (Reading.holds value sum outer).Holds ls)
    (h : operator chars value sum outer tok = .ok r) : r.Holds (ls ++ [tok.lexeme]) := by
  obtain ⟨before, sums, own, ho, hs, hv, rfl⟩ := hr
  have hsum := derives_finish_sum chars hs hv
  unfold operator at h
  split at h
  · rename_i op hop
    simp only [Except.ok.injEq] at h
    have hp : Waiting.Holds .product Lexeme.productOperator? (some ⟨value, op, tok.span⟩)
        (own ++ [tok.lexeme]) := ⟨own, tok.lexeme, hv, hop, rfl⟩
    exact h ▸ ⟨before, _, ho, ⟨sums, _, hs, hp, rfl⟩, by simp⟩
  · rename_i op _ hop
    simp only [Except.ok.injEq] at h
    have hw : Waiting.Holds .sum Lexeme.sumOperator?
        (some ⟨finish chars sum value, op, tok.span⟩) (sums ++ own ++ [tok.lexeme]) :=
      ⟨sums ++ own, tok.lexeme, hsum, hop, rfl⟩
    exact h ▸ ⟨before, _, ho, ⟨_, [], hw, rfl, rfl⟩, by simp⟩
  · split at h
    · cases h
    · split at h
      · rename_i hclose
        obtain ⟨outside, waiting, hout, hlevel, rfl⟩ := ho
        simp only [Except.ok.injEq] at h
        have hset := holds_settle chars hout hlevel (.parens hsum)
        subst h
        simpa [hclose] using hset
      · cases h

/-- One token more has been read after a step. -/
theorem holds_step {r next : Reading} {tok : Token} {ls : List Lexeme} (hr : r.Holds ls)
    (h : step chars r tok = .ok next) : next.Holds (ls ++ [tok.lexeme]) := by
  cases r with
  | wants level outer =>
    obtain ⟨before, own, ho, hl, rfl⟩ := hr
    exact holds_operand ho hl h
  | holds value sum outer => exact holds_operator hr h

theorem holds_run {r last : Reading} {ts : List Token} {ls : List Lexeme} (hr : r.Holds ls)
    (h : run chars r ts = .ok last) : last.Holds (ls ++ ts.map Token.lexeme) := by
  induction ts generalizing r ls with
  | nil =>
    simp only [run, Except.ok.injEq] at h
    simpa [h] using hr
  | cons tok ts ih =>
    simp only [run] at h
    cases hstep : step chars r tok with
    | error m => simp [hstep, Except.bind] at h
    | ok next =>
      simp only [hstep, Except.bind] at h
      simpa using ih (holds_step hr hstep) h

/-- A state in which a formula may end has read one. -/
theorem derives_close {r : Reading} {ls : List Lexeme} {x : Term} (hr : r.Holds ls)
    (h : close chars r = .ok x) : Derives .sum ls x.tree := by
  cases r with
  | wants level outer => cases h
  | holds value sum outer =>
    cases outer with
    | nil =>
      simp only [close, Except.ok.injEq] at h
      obtain ⟨before, sums, own, rfl, hs, hv, rfl⟩ := hr
      subst h
      exact derives_finish_sum chars hs hv
    | cons level outer => cases h

end Reading

/-! ### Formulas -/

/-- Tokens have a term exactly if the grammar derives them, and it is the term of the derivation. -/
theorem parseTokens_iff_derives (chars : List Char) (tokens : List Token) (tree : FormulaTree) :
    (∃ x, parseTokens chars tokens = .ok x ∧ x.tree = tree) ↔
      Derives .sum (tokens.map Token.lexeme) tree := by
  constructor
  · rintro ⟨x, hx, rfl⟩
    unfold parseTokens at hx
    split at hx
    · cases hx
    · cases hr : Reading.run chars .start tokens with
      | error m => simp [hr, Except.bind] at hx
      | ok r =>
        simp only [hr, Except.bind] at hx
        have hstart : Reading.start.Holds [] := ⟨[], [], rfl, ⟨[], [], rfl, rfl, rfl⟩, rfl⟩
        exact Reading.derives_close (by simpa using Reading.holds_run hstart hr) hx
  · intro h
    obtain ⟨x, sum, hx, hr⟩ := Reading.reads_of_derives chars h tokens rfl []
    have hne : tokens.isEmpty = false := by
      cases tokens with
      | nil => exact absurd rfl h.ne_nil
      | cons tok tokens => rfl
    refine ⟨Reading.finish chars sum x, ?_, hx⟩
    simp only [parseTokens, hne, Reading.start, hr, Except.bind, Reading.close, Bool.false_eq_true,
      if_false]

/-- A list of lexemes has at most one tree. -/
theorem Derives.unique {ls : List Lexeme} {t u : FormulaTree} (h : Derives .sum ls t)
    (k : Derives .sum ls u) : t = u := by
  let tokens : List Token := ls.map fun l => ⟨l, ⟨0, 0⟩, ""⟩
  have hl : tokens.map Token.lexeme = ls := by simp [tokens, Function.comp_def]
  obtain ⟨x, hx, rfl⟩ := (parseTokens_iff_derives [] tokens t).mpr (hl ▸ h)
  obtain ⟨y, hy, rfl⟩ := (parseTokens_iff_derives [] tokens u).mpr (hl ▸ k)
  rw [hx] at hy
  cases hy
  rfl

namespace Parse

theorem term_ofTokens_eq_some_iff {source : String} {tokens : List Token} {x : Term} :
    (ofTokens source tokens).term = some x ↔ parseTokens source.toList tokens = .ok x := by
  unfold ofTokens
  cases parseTokens source.toList tokens <;> simp

theorem messages_ofTokens {source : String} {tokens : List Token} {x : Term}
    (h : (ofTokens source tokens).term = some x) : (ofTokens source tokens).messages = [] := by
  simp only [ofTokens, term_ofTokens_eq_some_iff.mp h]

/-- The tokens of a formula have a term exactly if they are a sentence of the grammar. The term is
the one tree that the grammar gives to the sentence, and then nothing is said. Either sign of
division is the token of divisions, and no other text is. -/
theorem ofTokens_scan (source : String) :
    let tokens := (scan source).tokens
    let parsed := ofTokens source tokens
    (parsed.term.isSome ↔ ∃ tree, Derives .sum (tokens.map Token.lexeme) tree) ∧
    (∀ x, parsed.term = some x →
      Derives .sum (tokens.map Token.lexeme) x.tree ∧ parsed.messages = []) ∧
    (∀ ls t u, Derives .sum ls t → Derives .sum ls u → t = u) ∧
    ∀ tok ∈ tokens, tok.lexeme = .slash ↔ tok.text = "/" ∨ tok.text = "\\" := by
  intro tokens parsed
  have hterm : ∀ tree, (∃ x, parsed.term = some x ∧ x.tree = tree) ↔
      Derives .sum (tokens.map Token.lexeme) tree := by
    intro tree
    simp only [parsed, term_ofTokens_eq_some_iff]
    exact parseTokens_iff_derives source.toList tokens tree
  refine ⟨?_, ?_, fun ls t u => Derives.unique, ?_⟩
  · constructor
    · intro h
      obtain ⟨x, hx⟩ := Option.isSome_iff_exists.mp h
      exact ⟨x.tree, (hterm x.tree).mp ⟨x, hx, rfl⟩⟩
    · rintro ⟨tree, h⟩
      obtain ⟨x, hx, _⟩ := (hterm tree).mpr h
      rw [hx]
      rfl
  · intro x hx
    exact ⟨(hterm x.tree).mp ⟨x, hx, rfl⟩, messages_ofTokens hx⟩
  · intro tok htok
    obtain ⟨c, rest, hfront⟩ := isFrontOf_of_mem_scan htok
    exact hfront.slash_iff

end Parse

end Tabletop
