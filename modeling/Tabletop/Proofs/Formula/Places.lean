import Tabletop.Proofs.Formula.Cutting
import Tabletop.Proofs.Formula.Parsing

/-!
# Places of terms

Every node of a term stands in the formula where its span says, with these characters as its
source. A negation reaches from its sign to the end of its operand, and an operation from its left
operand to its right one, with its sign between them.

The terms, signs and parentheses of a reading follow one another in the formula. This order is what
a step keeps: a token stands behind all of them, and a term is joined only to what stands before it.
-/
namespace Tabletop

/-! ### Spans within spans -/

namespace Span

/-- A span of one character, which is one of the given ones. -/
structure IsSign (chars : List Char) (signs : List Char) (s : Span) : Prop where
  length_eq : s.length = 1
  shows : ∃ c ∈ signs, chars[s.start]? = some c

theorem IsSign.stop_eq {chars signs : List Char} {s : Span} (h : s.IsSign chars signs) :
    s.stop = s.start + 1 := by
  rw [stop, h.length_eq]

/-- The span of one character slices to it. -/
theorem slice_of_getElem? {chars : List Char} {s : Span} {c : Char} (hlength : s.length = 1)
    (hc : chars[s.start]? = some c) : s.slice chars = [c] := by
  rw [slice, hlength, List.take_one, List.head?_drop, hc, Option.toList_some]

theorem isSign_of_slice {chars signs : List Char} {s : Span} {c : Char} (hc : c ∈ signs)
    (hstop : s.stop ≤ chars.length) (hslice : s.slice chars = [c]) : s.IsSign chars signs := by
  have hlength : s.length = 1 := by
    rw [← length_slice s chars hstop, hslice, List.length_singleton]
  refine ⟨hlength, c, hc, ?_⟩
  have hhead := congrArg List.head? hslice
  rwa [slice, hlength, List.take_one, List.head?_drop, Option.head?_toList] at hhead

/-- What a slice holds at a span inside is what the whole holds there. -/
theorem slice_slice {inner outer : Span} {chars : List Char} (hstart : outer.start ≤ inner.start)
    (hstop : inner.stop ≤ outer.stop) :
    ((outer.slice chars).drop (inner.start - outer.start)).take inner.length =
      inner.slice chars := by
  simp only [stop] at hstop
  have hle : inner.length ≤ outer.length - (inner.start - outer.start) := by omega
  have hplace : outer.start + (inner.start - outer.start) = inner.start := by omega
  rw [slice, slice, List.drop_take, List.drop_drop, List.take_take, Nat.min_eq_left hle, hplace]

/-- A span that begins first and one that ends last are covered from the one to the other. -/
theorem cover_of_le {a b : Span} (h : a.stop ≤ b.start) :
    (a.cover b).start = a.start ∧ (a.cover b).stop = b.stop := by
  rw [start_cover, stop_cover]
  simp only [stop] at h ⊢
  omega

end Span

/-- The characters that an operation is written with. -/
def Operator.signs : Operator → List Char
  | plus => ['+']
  | minus => ['-']
  | times => ['*']
  | divide => ['/', '\\']

namespace Place

/-- The place is a part of the formula that is not empty, and has its characters. -/
structure IsIn (chars : List Char) (p : Place) : Prop where
  length_pos : 0 < p.span.length
  stop_le : p.span.stop ≤ chars.length
  source_eq : p.source = String.ofList (p.span.slice chars)

/-- The place shows the sign of an operation as it is written in the formula. -/
def ShowsSign (chars signs : List Char) (sign : Span) (p : Place) : Prop :=
  ∃ c ∈ signs, chars[sign.start]? = some c ∧ p.signSource sign = String.singleton c

theorem isIn_ofSpan {chars : List Char} {s : Span} (hlength : 0 < s.length)
    (hstop : s.stop ≤ chars.length) : (ofSpan chars s).IsIn chars :=
  ⟨hlength, hstop, rfl⟩

theorem showsSign_ofSpan {chars signs : List Char} {s sign : Span} (hsign : sign.IsSign chars signs)
    (hstart : s.start ≤ sign.start) (hstop : sign.stop ≤ s.stop) :
    (ofSpan chars s).ShowsSign chars signs sign := by
  obtain ⟨c, hc, hshown⟩ := hsign.shows
  refine ⟨c, hc, hshown, ?_⟩
  rw [signSource, ofSpan, String.toList_ofList, Span.slice_slice hstart hstop,
    Span.slice_of_getElem? hsign.length_eq hshown]
  rfl

end Place

/-! ### Nodes -/

namespace Term

/-- A term with all the terms inside it. -/
def nodes : Term → List Term
  | literal place value => [literal place value]
  | dice place d => [dice place d]
  | stat place name => [stat place name]
  | negation place sign operand => negation place sign operand :: operand.nodes
  | binary place op sign left right =>
      binary place op sign left right :: (left.nodes ++ right.nodes)

/-- The node stands where it says, around what it joins and with its sign where that is written. -/
def IsExact (chars : List Char) (x : Term) : Prop :=
  x.place.IsIn chars ∧
  match x with
  | negation place sign operand =>
      place.span.start = sign.start ∧ place.span.stop = operand.span.stop ∧
        sign.length = 1 ∧ sign.stop ≤ operand.span.start ∧ place.ShowsSign chars ['-'] sign
  | binary place op sign left right =>
      place.span.start = left.span.start ∧ place.span.stop = right.span.stop ∧
        left.span.stop ≤ sign.start ∧ sign.length = 1 ∧ sign.stop ≤ right.span.start ∧
        place.ShowsSign chars op.signs sign
  | _ => True

theorem self_mem_nodes (x : Term) : x ∈ x.nodes := by
  cases x <;> simp [nodes]

/-- The term is exact in all its nodes and stands between two offsets. -/
structure IsBetween (chars : List Char) (a b : Nat) (x : Term) : Prop where
  exact : ∀ node ∈ x.nodes, node.IsExact chars
  start_le : a ≤ x.span.start
  stop_le : x.span.stop ≤ b

section

variable {chars : List Char} {a b m n : Nat} {x left right operand : Term} {op : Operator}
  {sign : Span}

theorem IsBetween.isIn (h : x.IsBetween chars a b) : x.place.IsIn chars :=
  (h.exact x x.self_mem_nodes).1

theorem IsBetween.start_lt_stop (h : x.IsBetween chars a b) : x.span.start < x.span.stop :=
  Nat.lt_add_of_pos_right h.isIn.length_pos

theorem IsBetween.mono_left (h : x.IsBetween chars a b) (hle : m ≤ a) : x.IsBetween chars m b :=
  ⟨h.exact, hle.trans h.start_le, h.stop_le⟩

/-- A span over terms in the formula is itself in the formula. -/
theorem isIn_cover {s t : Span} (horder : s.stop ≤ t.start) (hlt : t.start < t.stop)
    (hle : t.stop ≤ chars.length) : (Place.ofSpan chars (s.cover t)).IsIn chars := by
  obtain ⟨hstart, hstop⟩ := Span.cover_of_le horder
  refine Place.isIn_ofSpan ?_ (hstop ▸ hle)
  simp only [Span.stop] at hstart hstop horder hlt
  omega

theorem IsBetween.negate (hsign : sign.IsSign chars ['-']) (hstart : a ≤ sign.start)
    (hoperand : operand.IsBetween chars sign.stop b) :
    (negate chars sign operand).IsBetween chars a b := by
  obtain ⟨hcover, hstop⟩ := Span.cover_of_le hoperand.start_le
  have hlt := hoperand.start_lt_stop
  have hshows : (Place.ofSpan chars (sign.cover operand.span)).ShowsSign chars ['-'] sign :=
    Place.showsSign_ofSpan hsign hcover.le
      (hstop ▸ hoperand.start_le.trans hlt.le)
  refine ⟨List.forall_mem_cons.mpr ⟨⟨?_, ?_⟩, hoperand.exact⟩, ?_, ?_⟩
  · exact isIn_cover hoperand.start_le hlt hoperand.isIn.stop_le
  · exact ⟨hcover, hstop, hsign.length_eq, hoperand.start_le, hshows⟩
  · exact hstart.trans hcover.ge
  · exact hstop.le.trans hoperand.stop_le

theorem IsBetween.join (hleft : left.IsBetween chars a m) (hsign : sign.IsSign chars op.signs)
    (horder : m ≤ sign.start) (hright : right.IsBetween chars sign.stop b) :
    (join chars op sign left right).IsBetween chars a b := by
  have hbefore := hleft.stop_le.trans horder
  have hbehind := hright.start_le
  have hone := hsign.stop_eq
  have happart : left.span.stop ≤ right.span.start := by omega
  obtain ⟨hcover, hstop⟩ := Span.cover_of_le happart
  have hlt := hright.start_lt_stop
  have hstart := hleft.start_lt_stop
  have hshows : (Place.ofSpan chars (left.span.cover right.span)).ShowsSign chars op.signs sign :=
    Place.showsSign_ofSpan hsign (hcover ▸ by omega) (hstop ▸ by omega)
  refine ⟨List.forall_mem_cons.mpr ⟨⟨?_, ?_⟩, ?_⟩, ?_, ?_⟩
  · exact isIn_cover happart hlt hright.isIn.stop_le
  · exact ⟨hcover, hstop, hbefore, hsign.length_eq, hbehind, hshows⟩
  · exact List.forall_mem_append.mpr ⟨hleft.exact, hright.exact⟩
  · exact hleft.start_le.trans hcover.ge
  · exact hstop.le.trans hright.stop_le

end

end Term

/-! ### What waits -/

/-- Between two offsets stands what waits, its sign behind its left operand. -/
def Waiting.AreBetween (chars : List Char) (a b : Nat) : Option Waiting → Prop
  | none => a ≤ b
  | some w => w.left.IsBetween chars a w.sign.start ∧ w.sign.IsSign chars w.op.signs ∧
      w.sign.stop ≤ b

/-- Between two offsets stands a minus sign, if there is one. -/
def Span.MinusBetween (chars : List Char) (a b : Nat) : Option Span → Prop
  | none => a ≤ b
  | some sign => a ≤ sign.start ∧ sign.IsSign chars ['-'] ∧ sign.stop ≤ b

/-- Between two offsets stands all that waits inside one parenthesis. -/
def Level.IsBetween (chars : List Char) (a b : Nat) (level : Level) : Prop :=
  ∃ m n, Waiting.AreBetween chars a m level.sum ∧ Waiting.AreBetween chars m n level.product ∧
    Span.MinusBetween chars n b level.minus

/-- Up to an offset stands all that waits outside of parentheses that are open. -/
def Level.AllEndBy (chars : List Char) : List Level → Nat → Prop
  | [], _ => True
  | level :: outer, b => ∃ a, AllEndBy chars outer a ∧ level.IsBetween chars a b

/-- Up to an offset stands all that has been read. -/
def Reading.EndsBy (chars : List Char) : Reading → Nat → Prop
  | .wants level outer, b => ∃ a, Level.AllEndBy chars outer a ∧ level.IsBetween chars a b
  | .holds value sum outer, b => ∃ a m, Level.AllEndBy chars outer a ∧
      Waiting.AreBetween chars a m sum ∧ value.IsBetween chars m b

/-- The token is a word of the formula where it stands. -/
structure Token.IsIn (chars : List Char) (tok : Token) : Prop where
  length_pos : 0 < tok.span.length
  stop_le : tok.span.stop ≤ chars.length
  word : ∃ runs, Token.Word (tok.span.slice chars) tok.lexeme runs

section

variable {chars : List Char} {a b m n : Nat} {x : Term} {level : Level} {outer : List Level}
  {tok : Token} {op : Operator}

theorem Span.MinusBetween.mono {minus : Option Span} (h : MinusBetween chars a b minus)
    (hle : b ≤ n) : MinusBetween chars a n minus := by
  cases minus with
  | none => exact Nat.le_trans h hle
  | some sign => exact ⟨h.1, h.2.1, h.2.2.trans hle⟩

theorem Level.IsBetween.mono (h : level.IsBetween chars a b) (hle : b ≤ n) :
    level.IsBetween chars a n := by
  obtain ⟨k, m, hsum, hproduct, hminus⟩ := h
  exact ⟨k, m, hsum, hproduct, hminus.mono hle⟩

/-! ### Words that are signs -/

theorem Token.IsIn.isSign (h : tok.IsIn chars)
    (hop : tok.lexeme.productOperator? = some op ∨ tok.lexeme.sumOperator? = some op) :
    tok.span.IsSign chars op.signs := by
  obtain ⟨runs, hword⟩ := h.word
  generalize hslice : tok.span.slice chars = cs at hword
  generalize tok.lexeme = l at hop hword
  rcases hop with hop | hop <;> cases hword <;> cases hop <;>
    exact Span.isSign_of_slice (by simp [Operator.signs]) h.stop_le hslice

/-! ### Steps -/

namespace Reading

theorem isBetween_finish {sum : Option Waiting} (hsum : Waiting.AreBetween chars a m sum)
    (hx : x.IsBetween chars m b) : (finish chars sum x).IsBetween chars a b := by
  cases sum with
  | none => exact hx.mono_left hsum
  | some w =>
    obtain ⟨hleft, hsign, hstop⟩ := hsum
    exact hleft.join hsign le_rfl (hx.mono_left hstop)

/-- An operand behind all that waits takes the minus sign and the product. -/
theorem endsBy_settle (houter : Level.AllEndBy chars outer a) (hlevel : level.IsBetween chars a m)
    (hx : x.IsBetween chars m b) : (settle chars level outer x).EndsBy chars b := by
  obtain ⟨sum, product, minus⟩ := level
  obtain ⟨k, n, hsum, hproduct, hminus⟩ := hlevel
  cases minus with
  | none => exact ⟨a, k, houter, hsum, isBetween_finish hproduct (hx.mono_left hminus)⟩
  | some sign =>
    obtain ⟨hstart, hsign, hstop⟩ := hminus
    exact ⟨a, k, houter, hsum,
      isBetween_finish hproduct (.negate hsign hstart (hx.mono_left hstop))⟩

/-- A term that is one token stands where the token does. -/
theorem isBetween_leaf (htok : tok.IsIn chars) (hplace : x.place = .ofSpan chars tok.span)
    (hleaf : x.nodes = [x]) (hjoins : x.IsExact chars ↔ x.place.IsIn chars) :
    x.IsBetween chars tok.span.start tok.span.stop := by
  have hin : x.place.IsIn chars := hplace ▸ Place.isIn_ofSpan htok.length_pos htok.stop_le
  refine ⟨fun node hnode => ?_, ?_, ?_⟩
  · rw [hleaf, List.mem_singleton] at hnode
    exact hnode ▸ hjoins.mpr hin
  · rw [Term.span, hplace, Place.ofSpan]
  · rw [Term.span, hplace, Place.ofSpan]

theorem endsBy_operand {r : Reading} (htok : tok.IsIn chars) (hle : b ≤ tok.span.start)
    (hr : (Reading.wants level outer).EndsBy chars b) (h : operand chars level outer tok = .ok r) :
    r.EndsBy chars tok.span.stop := by
  obtain ⟨a, houter, hlevel⟩ := hr
  have hbefore := hlevel.mono hle
  have hstop : b ≤ tok.span.stop := hle.trans (Nat.le_add_right _ _)
  unfold operand at h
  split at h
  case h_1 | h_2 =>
    cases h
    exact endsBy_settle houter hbefore (isBetween_leaf htok rfl rfl (and_iff_left trivial))
  case h_3 =>
    split at h <;> cases h
    exact endsBy_settle houter hbefore (isBetween_leaf htok rfl rfl (and_iff_left trivial))
  case h_4 =>
    cases h
    exact ⟨_, ⟨a, houter, hlevel.mono hstop⟩, _, _, le_rfl, le_rfl, le_rfl⟩
  case h_5 hminus =>
    split at h <;> cases h
    rename_i hnone
    obtain ⟨sum, product, minus⟩ := level
    obtain rfl : minus = none := by simpa using hnone
    obtain ⟨k, n, hsum, hproduct, hgap⟩ := hbefore
    have hsign : tok.span.IsSign chars Operator.minus.signs :=
      htok.isSign (.inr (by rw [hminus]; rfl))
    exact ⟨a, houter, k, n, hsum, hproduct, hgap, hsign, le_rfl⟩
  case h_6 => cases h

theorem endsBy_operator {value : Term} {sum : Option Waiting} {r : Reading} (htok : tok.IsIn chars)
    (hle : b ≤ tok.span.start) (hr : (Reading.holds value sum outer).EndsBy chars b)
    (h : operator chars value sum outer tok = .ok r) : r.EndsBy chars tok.span.stop := by
  obtain ⟨a, m, houter, hsum, hvalue⟩ := hr
  have hbefore : value.IsBetween chars m tok.span.start :=
    ⟨hvalue.exact, hvalue.start_le, hvalue.stop_le.trans hle⟩
  unfold operator at h
  split at h
  · rename_i op hop
    cases h
    exact ⟨a, houter, m, _, hsum, ⟨hbefore, htok.isSign (.inl hop), le_rfl⟩, le_rfl⟩
  · rename_i op _ hop
    cases h
    have hleft := isBetween_finish hsum hbefore
    exact ⟨a, houter, _, _, ⟨hleft, htok.isSign (.inr hop), le_rfl⟩, le_rfl, le_rfl⟩
  · split at h
    · cases h
    · split at h <;> cases h
      obtain ⟨k, hbeyond, hlevel⟩ := houter
      have hinner := isBetween_finish hsum hvalue
      refine endsBy_settle hbeyond hlevel ⟨hinner.exact, hinner.start_le, ?_⟩
      exact hinner.stop_le.trans (hle.trans (Nat.le_add_right _ _))

/-- A token behind all that has been read is the last of what has been read then. -/
theorem endsBy_step {r next : Reading} (htok : tok.IsIn chars) (hle : b ≤ tok.span.start)
    (hr : r.EndsBy chars b) (h : step chars r tok = .ok next) :
    next.EndsBy chars tok.span.stop := by
  cases r with
  | wants level outer => exact endsBy_operand htok hle hr h
  | holds value sum outer => exact endsBy_operator htok hle hr h

theorem endsBy_run {r last : Reading} {ts : List Token} (hin : ∀ tok ∈ ts, tok.IsIn chars)
    (horder : ts.Pairwise fun t u => t.span.stop ≤ u.span.start)
    (hbehind : ∀ tok ∈ ts, b ≤ tok.span.start) (hr : r.EndsBy chars b)
    (h : run chars r ts = .ok last) : ∃ e, last.EndsBy chars e := by
  induction ts generalizing r b with
  | nil =>
    cases h
    exact ⟨b, hr⟩
  | cons tok ts ih =>
    simp only [run] at h
    cases hstep : step chars r tok with
    | error m =>
      rw [hstep] at h
      cases h
    | ok next =>
      rw [hstep] at h
      rw [List.forall_mem_cons] at hin hbehind
      obtain ⟨hnext, horder⟩ := List.pairwise_cons.mp horder
      exact ih hin.2 horder hnext (endsBy_step hin.1 hbehind.1 hr hstep) h

end Reading

/-- The term of tokens that stand one behind the other in the formula is exact in all its nodes. -/
theorem isExact_of_parseTokens {tokens : List Token} (hin : ∀ tok ∈ tokens, tok.IsIn chars)
    (horder : tokens.Pairwise fun t u => t.span.stop ≤ u.span.start)
    (h : parseTokens chars tokens = .ok x) : ∀ node ∈ x.nodes, node.IsExact chars := by
  unfold parseTokens at h
  split at h
  · cases h
  · cases hrun : Reading.run chars .start tokens with
    | error m =>
      rw [hrun] at h
      cases h
    | ok r =>
      rw [hrun] at h
      have hstart : Reading.start.EndsBy chars 0 := ⟨0, trivial, 0, 0, le_rfl, le_rfl, le_rfl⟩
      obtain ⟨b, hr⟩ := Reading.endsBy_run hin horder (fun _ _ => Nat.zero_le _) hstart hrun
      cases r with
      | wants level outer => cases h
      | holds value sum outer =>
        cases outer with
        | nil =>
          cases h
          obtain ⟨a, m, -, hsum, hvalue⟩ := hr
          exact (Reading.isBetween_finish hsum hvalue).exact
        | cons level outer => cases h

end

/-! ### Formulas -/

/-- Tokens of a scan are words that stand one behind the other. -/
theorem isIn_of_mem_scan {source : String} {tok : Token} (h : tok ∈ (scan source).tokens) :
    tok.IsIn source.toList := by
  have hcut := Scanned.cut_scanFrom source.toList 0 (Nat.zero_le _)
  have hfound := mem_tokens_iff.mp h
  obtain ⟨-, hpos, hstop⟩ := hcut.bounds _ hfound
  obtain ⟨-, runs, hlongest, -⟩ := hcut.token_spec hfound
  exact ⟨hpos, hstop, runs, hlongest.word⟩

theorem pairwise_scan (source : String) :
    (scan source).tokens.Pairwise fun t u => t.span.stop ≤ u.span.start :=
  List.pairwise_map.mp (Scanned.cut_scanFrom source.toList 0 (Nat.zero_le _)).pairwise_tokens

namespace Parse

theorem term_ofTokens_of_parse {source : String} {x : Term} (h : (parse source).term = some x) :
    (ofTokens source (scan source).tokens).term = some x := by
  simp only [parse] at h
  split at h
  · cases h
  · exact h

/-- Every node of the term of a formula stands where it says. Its source is the characters of its
span, which is not empty; a negation begins at its sign and ends with its operand; an operation
begins with its left operand, ends with its right one and has its sign between them; and the source
shows each sign as it is written. -/
theorem nodes_isExact {source : String} {x : Term}
    (h : (parse source).term = some x ∨ (ofTokens source (scan source).tokens).term = some x) :
    ∀ node ∈ x.nodes, node.IsExact source.toList := by
  have hterm : (ofTokens source (scan source).tokens).term = some x :=
    h.elim term_ofTokens_of_parse id
  exact isExact_of_parseTokens (fun _ => isIn_of_mem_scan) (pairwise_scan source)
    (term_ofTokens_eq_some_iff.mp hterm)

theorem nodes_isExact_division : ∃ x, (parse "(1 + a) \\ -2d6").term = some x ∧
    x.nodes.map Term.span = [⟨1, 13⟩, ⟨1, 5⟩, ⟨1, 1⟩, ⟨5, 1⟩, ⟨10, 4⟩, ⟨11, 3⟩] ∧
    ∀ node ∈ x.nodes, node.IsExact "(1 + a) \\ -2d6".toList := by
  have hterm : ((parse "(1 + a) \\ -2d6").term.map fun x => x.nodes.map Term.span) =
      some [⟨1, 13⟩, ⟨1, 5⟩, ⟨1, 1⟩, ⟨5, 1⟩, ⟨10, 4⟩, ⟨11, 3⟩] := by decide +kernel
  obtain ⟨x, hx, hspans⟩ := Option.map_eq_some_iff.mp hterm
  exact ⟨x, hx, hspans, nodes_isExact (.inl hx)⟩

end Parse

end Tabletop
