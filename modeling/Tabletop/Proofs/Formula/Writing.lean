import Tabletop.Proofs.Formula.Misfits
import Tabletop.Proofs.Formula.Places
import Tabletop.Proofs.Formula.Spelling

/-!
# Terms that are written out

A term is written in full parentheses, with a minus sign directly in front of what it negates. Its
numbers and names are scanned as the lexemes that they came from, since nothing that could go on
with them follows, and blanks stand around the signs of operations. What is written is a formula for
the same tree, unless a negation is negated directly: two minus signs where an operand is wanted fit
into no formula.
-/
namespace Tabletop

/-! ### Lexemes of a tree -/

/-- The lexeme of an operation. -/
def Operator.lexeme : Operator → Lexeme
  | plus => .plus
  | minus => .minus
  | times => .star
  | divide => .slash

namespace FormulaTree

/-- The lexemes of a tree in full parentheses. -/
def lexemes : FormulaTree → List Lexeme
  | literal value => [.integer value]
  | dice count sides => [.dice count sides]
  | stat name => [.name name]
  | negation operand => .minus :: operand.lexemes
  | binary op left right =>
      .openParen :: (left.lexemes ++ op.lexeme :: right.lexemes ++ [.closeParen])

/-- A negation in the tree is negated directly. -/
def NegatesTwice : FormulaTree → Prop
  | literal _ => False
  | dice _ _ => False
  | stat _ => False
  | negation operand => (∃ inner, operand = negation inner) ∨ operand.NegatesTwice
  | binary _ left right => left.NegatesTwice ∨ right.NegatesTwice

end FormulaTree

/-! ### What can be read again -/

/-- Two signed parts in parentheses with an operation between them are an atom. -/
theorem Derives.join {ls ms : List Lexeme} {t u : FormulaTree} (op : Operator)
    (h : Derives .signed ls t) (k : Derives .signed ms u) :
    Derives .atom (.openParen :: (ls ++ op.lexeme :: ms ++ [.closeParen])) (.binary op t u) := by
  cases op with
  | plus => exact .parens (.plus (.product (.signed h)) (.signed k))
  | minus => exact .parens (.minus (.product (.signed h)) (.signed k))
  | times => exact .parens (.product (.times (.signed h) k))
  | divide => exact .parens (.product (.divide (.signed h) k))

namespace Term

/-- Where no negation is negated directly, the lexemes of a term are a signed part with its tree,
and an atom if the term is no negation itself. -/
theorem derives_lexemes (x : Term) (h : ¬ x.tree.NegatesTwice) :
    Derives .signed x.tree.lexemes x.tree ∧
      ((∀ t, x.tree ≠ .negation t) → Derives .atom x.tree.lexemes x.tree) := by
  have hatom {ls : List Lexeme} {t : FormulaTree} (hd : Derives .atom ls t) :
      Derives .signed ls t ∧ ((∀ u, t ≠ .negation u) → Derives .atom ls t) :=
    ⟨.atom hd, fun _ => hd⟩
  induction x with
  | literal place value => exact hatom (.integer value)
  | dice place d => exact hatom (.dice d.count_pos d.sides_pos)
  | stat place name => exact hatom (.name name)
  | negation place sign operand ih =>
    obtain ⟨hinner, hoperand⟩ := not_or.mp h
    have hd := (ih hoperand).2 fun t ht => hinner ⟨t, ht⟩
    exact ⟨.negation hd, fun hno => absurd rfl (hno operand.tree)⟩
  | binary place op sign left right ihl ihr =>
    obtain ⟨hleft, hright⟩ := not_or.mp h
    exact hatom (.join op (ihl hleft).1 (ihr hright).1)

end Term

namespace Reading

variable {chars : List Char} {r next : Reading} {tok : Token} {ts us : List Token}

/-- One of the tokens does not fit. -/
def Refuses (chars : List Char) (r : Reading) (ts : List Token) : Prop :=
  ∃ m, run chars r ts = .error m

theorem Refuses.append (h : Refuses chars r ts) : Refuses chars r (ts ++ us) := by
  obtain ⟨m, h⟩ := h
  exact ⟨m, by rw [run_append, h]; rfl⟩

theorem Refuses.after (h : Refuses chars next us) (hrun : run chars r ts = .ok next) :
    Refuses chars r (ts ++ us) := by
  obtain ⟨m, h⟩ := h
  exact ⟨m, by rw [run_append, hrun]; exact h⟩

theorem Refuses.cons (h : Refuses chars next us) (hstep : step chars r tok = .ok next) :
    Refuses chars r (tok :: us) := by
  obtain ⟨m, h⟩ := h
  exact ⟨m, by rw [run, hstep]; exact h⟩

/-- Behind a minus sign no other one fits. -/
theorem refuses_minus {level : Level} {outer : List Level} (hminus : level.minus ≠ none)
    (htok : tok.lexeme = .minus) : Refuses chars (.wants level outer) (tok :: us) := by
  have hstep : step chars (.wants level outer) tok = .error (.unexpected tok) := by
    cases hsign : level.minus with
    | none => exact absurd hsign hminus
    | some sign => simp [step, operand, htok, hsign]
  exact ⟨_, by rw [run, hstep]; rfl⟩

/-- The lexemes of a term in which a negation is negated directly do not fit where an operand is
wanted, whatever waits for it. -/
theorem refuses_lexemes (x : Term) (h : x.tree.NegatesTwice) (level : Level) (outer : List Level)
    (hts : ts.map Token.lexeme = x.tree.lexemes) : Refuses chars (.wants level outer) ts := by
  induction x generalizing level outer ts with
  | literal place value => exact h.elim
  | dice place d => exact h.elim
  | stat place name => exact h.elim
  | negation place sign operand ih =>
    obtain ⟨tok, rest, rfl, htok, hrest⟩ := List.map_eq_cons_iff.mp hts
    obtain ⟨sum, product, minus⟩ := level
    cases minus with
    | some sign => exact refuses_minus nofun htok
    | none =>
      refine Refuses.cons ?_ (step_minus htok sum product outer)
      rcases h with ⟨inner, hinner⟩ | hoperand
      · rw [hinner] at hrest
        obtain ⟨second, rest, rfl, hsecond, -⟩ := List.map_eq_cons_iff.mp hrest
        exact refuses_minus nofun hsecond
      · exact ih hoperand _ outer hrest
  | binary place op sign left right ihl ihr =>
    obtain ⟨first, rest, rfl, hfirst, hrest⟩ := List.map_eq_cons_iff.mp hts
    obtain ⟨inner, last, rfl, hinner, -⟩ := List.map_eq_append_iff.mp hrest
    obtain ⟨front, tok, back, rfl, hfront, htok, hback⟩ := exists_of_map_lexeme_eq hinner
    refine Refuses.cons (Refuses.append ?_) (step_openParen hfirst level outer)
    by_cases hleft : left.tree.NegatesTwice
    · exact (ihl hleft _ _ hfront).append
    · -- the left operand is read in full, so that the right one comes to be read
      have hright : right.tree.NegatesTwice := h.resolve_left hleft
      have hderives := Derives.product (.signed (left.derives_lexemes hleft).1)
      obtain ⟨y, sum, -, hrun⟩ := reads_of_derives chars hderives front hfront (level :: outer)
      refine Refuses.after ?_ hrun
      cases op with
      | plus | minus =>
        exact (ihr hright _ _ hback).cons (step_sumOperator (by rw [htok]; rfl) y sum _)
      | times | divide =>
        exact (ihr hright _ _ hback).cons (step_productOperator (by rw [htok]; rfl) y sum _)

end Reading

/-- The lexemes of a term are a formula exactly if no negation in it is negated directly. -/
theorem Term.exists_derives_lexemes_iff (x : Term) :
    (∃ t, Derives .sum x.tree.lexemes t) ↔ ¬ x.tree.NegatesTwice := by
  constructor
  · rintro ⟨t, hderives⟩ htwice
    have hbare := Token.map_lexeme_map_bare x.tree.lexemes
    obtain ⟨y, sum, -, hrun⟩ := Reading.reads_of_derives [] hderives _ hbare []
    obtain ⟨m, hrefused⟩ : Reading.Refuses [] (.wants .empty []) _ :=
      Reading.refuses_lexemes x htwice .empty [] hbare
    rw [hrun] at hrefused
    cases hrefused
  · exact fun h => ⟨x.tree, .product (.signed (x.derives_lexemes h).1)⟩

/-- The leaves of a tree are lexemes that it is derived from, so they can be written if those can. -/
theorem Derives.isWritable {g : Grade} {ls : List Lexeme} {t : FormulaTree} (h : Derives g ls t)
    (hls : ∀ l ∈ ls, l.IsWritable) : ∀ l ∈ t.lexemes, l.IsWritable := by
  have hsign (op : Operator) : op.lexeme.IsWritable := by cases op <;> trivial
  have hjoin {op : Operator} {t u : FormulaTree} (ht : ∀ l ∈ t.lexemes, l.IsWritable)
      (hu : ∀ l ∈ u.lexemes, l.IsWritable) :
      ∀ l ∈ (FormulaTree.binary op t u).lexemes, l.IsWritable := by
    simp only [FormulaTree.lexemes, List.forall_mem_cons, List.forall_mem_append]
    exact ⟨trivial, ⟨ht, hsign op, hu⟩, trivial, nofun⟩
  induction h with
  | integer value | name id | dice _ _ => exact hls
  | parens _ ih =>
    simp only [List.forall_mem_cons, List.forall_mem_append] at hls
    exact ih hls.2.1
  | negation _ ih =>
    rw [List.forall_mem_cons] at hls
    exact List.forall_mem_cons.mpr ⟨trivial, ih hls.2⟩
  | atom _ ih | signed _ ih | product _ ih => exact ih hls
  | times _ _ iht ihu | divide _ _ iht ihu | plus _ _ iht ihu | minus _ _ iht ihu =>
    simp only [List.forall_mem_append, List.forall_mem_cons] at hls
    exact hjoin (iht hls.1) (ihu hls.2.2)

/-! ### Scanning what is written -/

namespace Scanned

variable {rest : List Char}

/-- An operation between blanks. -/
theorem yields_sign (op : Operator) (rest : List Char) :
    Yields (' ' :: (op.sign.toList ++ [' '])) rest [op.lexeme] := by
  have hsymbol : Yields op.sign.toList (' ' :: rest) [op.lexeme] := by
    cases op <;> exact yields_symbol rfl _
  exact (yields_blank _).append (hsymbol.append (yields_blank rest))

/-- What is written of a term that can be written is cut into its lexemes, if nothing that could go
on with a word follows. -/
theorem yields_text (x : Term) (h : ∀ l ∈ x.tree.lexemes, l.IsWritable) (hrest : EndsWord rest) :
    Yields x.text.toList rest x.tree.lexemes := by
  induction x generalizing rest with
  | literal place value => exact yields_integer (h _ List.mem_cons_self) hrest
  | dice place d =>
    have hdice := h _ List.mem_cons_self
    exact yields_dice hdice.1 hdice.2 hrest
  | stat place name =>
    have hname := h _ List.mem_cons_self
    exact yields_name hname.1 hname.2 hrest
  | negation place sign operand ih =>
    have hoperand := ih (fun l hl => h l (List.mem_cons_of_mem _ hl)) hrest
    have htext : (Term.negation place sign operand).text.toList =
        ['-'] ++ operand.text.toList := by
      rw [Term.text, String.toList_append]
      rfl
    rw [htext]
    exact (yields_symbol rfl _).append hoperand
  | binary place op sign left right ihl ihr =>
    simp only [Term.tree, FormulaTree.lexemes, List.forall_mem_cons, List.forall_mem_append] at h
    have hblank : EndsWord
        (' ' :: (op.sign.toList ++ [' ']) ++ (right.text.toList ++ [')']) ++ rest) :=
      endsWord_cons (by decide) _
    have hclose : EndsWord ([')'] ++ rest) := endsWord_cons (by decide) rest
    have hleft := ihl h.2.1.1 hblank
    have hright := ihr h.2.1.2.2 hclose
    have htext : (Term.binary place op sign left right).text.toList =
        ['('] ++ (left.text.toList ++ (' ' :: (op.sign.toList ++ [' ']) ++
          (right.text.toList ++ [')']))) := by
      have hopen : "(".toList = ['('] := rfl
      have hspace : " ".toList = [' '] := rfl
      have hshut : ")".toList = [')'] := rfl
      simp only [Term.text, String.toList_append, hopen, hspace, hshut, List.append_assoc,
        List.cons_append, List.nil_append]
    have hlexemes : (Term.binary place op sign left right).tree.lexemes =
        [Lexeme.openParen] ++ (left.tree.lexemes ++ ([op.lexeme] ++
          (right.tree.lexemes ++ [Lexeme.closeParen]))) := by
      simp [Term.tree, FormulaTree.lexemes]
    rw [htext, hlexemes]
    exact (yields_symbol rfl _).append
      (hleft.append ((yields_sign op _).append (hright.append (yields_symbol rfl rest))))

end Scanned

/-- What is written of a term that can be written is scanned as its lexemes, and there is nothing to
remark. -/
theorem scan_text {x : Term} (h : ∀ l ∈ x.tree.lexemes, l.IsWritable) :
    (scan x.text).tokens.map Token.lexeme = x.tree.lexemes ∧ (scan x.text).remarks = [] := by
  have hends : EndsWord [] := nofun
  obtain ⟨ts, hts, hscan⟩ := Scanned.yields_text x h hends 0
  rw [List.append_nil] at hscan
  have htokens : (ts.map Scanned.token).filterMap Scanned.token? = ts := by
    rw [List.filterMap_map]
    exact List.filterMap_some
  have hremarks : (ts.map Scanned.token).filterMap Scanned.remark? = [] := by
    simp [Scanned.remark?]
  simp only [scan, hscan, Scanned.scanFrom, List.append_nil, htokens, hremarks, hts, and_self]

/-! ### Formulas -/

namespace Parse

/-- The term of a formula can be written. -/
theorem isWritable_of_term {source : String} {x : Term}
    (h : (ofTokens source (scan source).tokens).term = some x) :
    ∀ l ∈ x.tree.lexemes, l.IsWritable := by
  have hderives := (parseTokens_iff_derives source.toList (scan source).tokens x.tree).mp
    ⟨x, term_ofTokens_eq_some_iff.mp h, rfl⟩
  refine hderives.isWritable fun l hl => ?_
  obtain ⟨tok, htok, rfl⟩ := List.mem_map.mp hl
  exact isWritable_of_mem_scan htok

/-- A formula without remarks is parsed as its tokens are. -/
theorem parse_of_remarks_eq_nil {source : String} (h : (scan source).remarks = []) :
    parse source = ofTokens source (scan source).tokens := by
  have hformula : (ofTokens source (scan source).tokens).formula = source := by
    unfold ofTokens
    split <;> rfl
  simp only [parse, h, List.any_nil, Bool.false_eq_true, if_false, List.nil_append]
  generalize ofTokens source (scan source).tokens = parsed at hformula ⊢
  rw [← hformula]

/-- A term that can be written and negates no negation is written as a formula for its tree, of
which nothing is said. -/
theorem exists_parse_text {x : Term} (h : ∀ l ∈ x.tree.lexemes, l.IsWritable)
    (hnever : ¬ x.tree.NegatesTwice) :
    ∃ y, parse x.text = ⟨x.text, some y, []⟩ ∧ y.tree = x.tree := by
  obtain ⟨hlexemes, hremarks⟩ := scan_text h
  have hparse := parse_of_remarks_eq_nil hremarks
  have hderives := Derives.product (.signed (x.derives_lexemes hnever).1)
  rw [← hlexemes] at hderives
  obtain ⟨y, hy, htree⟩ :=
    (parseTokens_iff_derives x.text.toList (scan x.text).tokens x.tree).mpr hderives
  have hterm : (ofTokens x.text (scan x.text).tokens).term = some y :=
    term_ofTokens_eq_some_iff.mpr hy
  have hmessages := messages_ofTokens hterm
  rw [← hparse] at hterm hmessages
  refine ⟨y, ?_, htree⟩
  rw [← hterm, ← hmessages]
  rfl

/-- The term of a formula is written as a formula again exactly if no negation in it is negated
directly. Nothing is said of that formula then, and its term has the same tree. -/
theorem parse_text {source : String} {x : Term}
    (h : (parse source).term = some x ∨ (ofTokens source (scan source).tokens).term = some x) :
    ((parse x.text).term.isSome ↔ ¬ x.tree.NegatesTwice) ∧
    (¬ x.tree.NegatesTwice → ∃ y, parse x.text = ⟨x.text, some y, []⟩ ∧ y.tree = x.tree) := by
  have hterm : (ofTokens source (scan source).tokens).term = some x :=
    h.elim term_ofTokens_of_parse id
  obtain ⟨hlexemes, hremarks⟩ := scan_text (isWritable_of_term hterm)
  have hparse := parse_of_remarks_eq_nil hremarks
  have hderives (t : FormulaTree) : (∃ y, (parse x.text).term = some y ∧ y.tree = t) ↔
      Derives .sum x.tree.lexemes t := by
    simp only [hparse, term_ofTokens_eq_some_iff, ← hlexemes]
    exact parseTokens_iff_derives x.text.toList (scan x.text).tokens t
  constructor
  · rw [← x.exists_derives_lexemes_iff, Option.isSome_iff_exists]
    constructor
    · rintro ⟨y, hy⟩
      exact ⟨y.tree, (hderives y.tree).mp ⟨y, hy, rfl⟩⟩
    · rintro ⟨t, ht⟩
      obtain ⟨y, hy, -⟩ := (hderives t).mpr ht
      exact ⟨y, hy⟩
  · intro hnever
    obtain ⟨y, hy, htree⟩ :=
      (hderives x.tree).mpr (.product (.signed (x.derives_lexemes hnever).1))
    have hmessages : (parse x.text).messages = [] := by
      rw [hparse] at hy ⊢
      exact messages_ofTokens hy
    refine ⟨y, ?_, htree⟩
    rw [← hy, ← hmessages]
    rfl

/-- A quotient is written as a formula for itself, but the negation of a negation is not. -/
theorem parse_text_parens :
    (∃ x, (parse "-a \\ (02d6 - -1)").term = some x ∧ x.text = "(-a / (2d6 - -1))" ∧
      ∃ y, parse x.text = ⟨x.text, some y, []⟩ ∧ y.tree = x.tree) ∧
    ∃ x, (parse "-(-1)").term = some x ∧ x.text = "--1" ∧ (parse x.text).term.isSome = false := by
  have hquotient : ((parse "-a \\ (02d6 - -1)").term.map fun x => (x.text, x.tree)) =
      some ("(-a / (2d6 - -1))", .binary .divide (.negation (.stat "a"))
        (.binary .minus (.dice 2 6) (.negation (.literal 1)))) := by decide +kernel
  have htwice : ((parse "-(-1)").term.map fun x => (x.text, x.tree)) =
      some ("--1", .negation (.negation (.literal 1))) := by decide +kernel
  obtain ⟨x, hx, hxq⟩ := Option.map_eq_some_iff.mp hquotient
  obtain ⟨y, hy, hyt⟩ := Option.map_eq_some_iff.mp htwice
  obtain ⟨hxtext, hxtree⟩ := Prod.mk.inj hxq
  obtain ⟨hytext, hytree⟩ := Prod.mk.inj hyt
  have hnever : ¬ x.tree.NegatesTwice := by
    rw [hxtree]
    simp [FormulaTree.NegatesTwice]
  have hnegates : y.tree.NegatesTwice := by
    rw [hytree]
    exact .inl ⟨_, rfl⟩
  refine ⟨⟨x, hx, hxtext, (parse_text (.inl hx)).2 hnever⟩, y, hy, hytext, ?_⟩
  rw [Bool.eq_false_iff]
  exact fun h => (parse_text (.inl hy)).1.mp h hnegates

end Parse

end Tabletop
