import Tabletop.Proofs.Formula.Parsing

/-!
# Where tokens stop being a formula

Whatever has been read can be made a formula: a number where an operand is wanted, then the
parentheses that are open. A token that does not fit cannot, for reading would accept every formula
that begins so. Tokens without a term are therefore blamed on the first of them at which no formula
begins with what has been read, and on the end if there is none.
-/
namespace Tabletop

/-- A formula begins with the lexemes. -/
def BeginsFormula (ls : List Lexeme) : Prop := ∃ more tree, Derives .sum (ls ++ more) tree

/-- Up to the place a formula begins with the lexemes, and with the one at the place none does. -/
structure IsFirstMisfit (ls : List Lexeme) (k : Nat) : Prop where
  lt_length : k < ls.length
  begins : ∀ j ≤ k, BeginsFormula (ls.take j)
  not_begins : ¬ BeginsFormula (ls.take (k + 1))

theorem BeginsFormula.of_append {ls ms : List Lexeme} (h : BeginsFormula (ls ++ ms)) :
    BeginsFormula ls := by
  obtain ⟨more, tree, h⟩ := h
  exact ⟨ms ++ more, tree, by rwa [← List.append_assoc]⟩

theorem BeginsFormula.take {ls : List Lexeme} (h : BeginsFormula ls) (j : Nat) :
    BeginsFormula (ls.take j) := by
  rw [← List.take_append_drop j ls] at h
  exact h.of_append

/-- The token of a lexeme that stands nowhere. -/
def Token.bare (l : Lexeme) : Token := ⟨l, ⟨0, 0⟩, ""⟩

theorem Token.map_lexeme_map_bare (ls : List Lexeme) :
    (ls.map Token.bare).map Token.lexeme = ls := by
  rw [List.map_map]
  exact List.map_id ls

namespace Reading

variable {chars : List Char} {r : Reading} {ts : List Token} {tok : Token} {m : Misfit}

theorem start_holds : start.Holds [] := ⟨[], [], rfl, ⟨[], [], rfl, rfl, rfl⟩, rfl⟩

/-! ### What can still become a formula -/

/-- The lexemes that end a formula which has been read so far. -/
def ending : Reading → List Lexeme
  | .wants _ outer => .integer 0 :: List.replicate outer.length .closeParen
  | .holds _ _ outer => List.replicate outer.length .closeParen

theorem exists_run_closing (value : Term) (sum : Option Waiting) (outer : List Level) :
    ∃ value' sum', run chars (.holds value sum outer)
      ((List.replicate outer.length Lexeme.closeParen).map Token.bare) =
        .ok (.holds value' sum' []) := by
  induction outer generalizing value sum with
  | nil => exact ⟨value, sum, rfl⟩
  | cons level outer ih =>
    have hstep : step chars (.holds value sum (level :: outer)) (Token.bare .closeParen) =
        .ok (settle chars level outer (finish chars sum value)) :=
      step_closeParen rfl value sum level outer
    simp only [List.length_cons, List.replicate_succ, List.map_cons, run, hstep, Except.bind]
    exact ih _ _

theorem exists_run_ending (chars : List Char) (r : Reading) :
    ∃ value sum, run chars r (r.ending.map Token.bare) = .ok (.holds value sum []) := by
  cases r with
  | holds value sum outer => exact exists_run_closing value sum outer
  | wants level outer =>
    have hstep : step chars (.wants level outer) (Token.bare (.integer 0)) =
        .ok (settle chars level outer (.literal (.ofSpan chars ⟨0, 0⟩) 0)) := rfl
    simp only [ending, List.map_cons, run, hstep, Except.bind]
    exact exists_run_closing _ _ _

/-- A formula begins with all that has been read. -/
theorem beginsFormula_of_run (h : run chars .start ts = .ok r) :
    BeginsFormula (ts.map Token.lexeme) := by
  obtain ⟨value, sum, hending⟩ := exists_run_ending chars r
  have hrun : run chars .start (ts ++ r.ending.map Token.bare) = .ok (.holds value sum []) := by
    rw [run_append, h]
    exact hending
  have hholds := holds_run start_holds hrun
  rw [List.nil_append, List.map_append, Token.map_lexeme_map_bare] at hholds
  have hclose : close chars (.holds value sum []) = .ok (finish chars sum value) := rfl
  exact ⟨r.ending, _, derives_close hholds hclose⟩

/-- No formula begins with what has been read and a token that does not fit then: it would be read
in full. -/
theorem not_beginsFormula_of_step (h : run chars .start ts = .ok r)
    (hstep : step chars r tok = .error m) :
    ¬ BeginsFormula ((ts ++ [tok]).map Token.lexeme) := by
  rintro ⟨more, tree, hderives⟩
  have hlexemes : (ts ++ [tok] ++ more.map Token.bare).map Token.lexeme =
      (ts ++ [tok]).map Token.lexeme ++ more := by
    rw [List.map_append, Token.map_lexeme_map_bare]
  obtain ⟨x, sum, -, hrun⟩ := reads_of_derives chars hderives _ hlexemes []
  have hstart : Reading.wants .empty [] = .start := rfl
  rw [hstart, List.append_assoc, run_append, h] at hrun
  simp only [Except.bind, List.singleton_append, run, hstep, reduceCtorEq] at hrun

/-! ### What is blamed -/

/-- Where reading stops, everything before has been read. -/
theorem exists_step_of_run_eq_error (h : run chars r ts = .error m) :
    ∃ front tok back next, ts = front ++ tok :: back ∧ run chars r front = .ok next ∧
      step chars next tok = .error m := by
  induction ts generalizing r with
  | nil => cases h
  | cons tok ts ih =>
    simp only [run] at h
    cases hstep : step chars r tok with
    | error m' =>
      rw [hstep] at h
      cases h
      exact ⟨[], tok, ts, r, rfl, rfl, hstep⟩
    | ok next =>
      rw [hstep] at h
      obtain ⟨front, bad, back, last, rfl, hfront, hbad⟩ := ih h
      refine ⟨tok :: front, bad, back, last, rfl, ?_, hbad⟩
      simp only [run, hstep, Except.bind, hfront]

theorem token?_of_operand {level : Level} {outer : List Level}
    (h : operand chars level outer tok = .error m) : m.token? = some tok := by
  unfold operand at h
  split at h
  case h_3 => split at h <;> cases h; rfl
  case h_5 => split at h <;> cases h; rfl
  all_goals cases h
  rfl

theorem token?_of_operator {value : Term} {sum : Option Waiting} {outer : List Level}
    (h : operator chars value sum outer tok = .error m) : m.token? = some tok := by
  unfold operator at h
  split at h
  · cases h
  · cases h
  · split at h
    · cases h
      rfl
    · split at h <;> cases h
      rfl

/-- A token that does not fit is the one to blame. -/
theorem token?_of_step (h : step chars r tok = .error m) : m.token? = some tok := by
  cases r with
  | wants level outer => exact token?_of_operand h
  | holds value sum outer => exact token?_of_operator h

/-- If all tokens have been read, the end is to blame. -/
theorem token?_of_close (h : close chars r = .error m) : m.token? = none := by
  cases r with
  | wants level outer =>
    cases h
    rfl
  | holds value sum outer =>
    cases outer with
    | nil => cases h
    | cons level outer =>
      cases h
      rfl

end Reading

/-! ### Formulas -/

/-- Tokens without a term are blamed on the first that no formula has in its place, or on the end if
a formula begins with all of them. -/
theorem token?_of_parseTokens {chars : List Char} {tokens : List Token} {m : Misfit}
    (h : parseTokens chars tokens = .error m) :
    (∃ k tok, tokens[k]? = some tok ∧ IsFirstMisfit (tokens.map Token.lexeme) k ∧
      m.token? = some tok) ∨
    (BeginsFormula (tokens.map Token.lexeme) ∧ m.token? = none) := by
  unfold parseTokens at h
  split at h
  · rename_i hempty
    cases h
    rw [List.isEmpty_iff.mp hempty]
    have hrun : Reading.run chars .start [] = .ok .start := rfl
    exact .inr ⟨Reading.beginsFormula_of_run hrun, rfl⟩
  · cases hrun : Reading.run chars .start tokens with
    | ok r =>
      rw [hrun] at h
      exact .inr ⟨Reading.beginsFormula_of_run hrun, Reading.token?_of_close h⟩
    | error m' =>
      rw [hrun] at h
      cases h
      obtain ⟨front, tok, back, r, rfl, hfront, hstep⟩ :=
        Reading.exists_step_of_run_eq_error hrun
      have hbegins := Reading.beginsFormula_of_run hfront
      have hends := Reading.not_beginsFormula_of_step hfront hstep
      refine .inl ⟨front.length, tok, by simp, ⟨by simp, fun j hj => ?_, ?_⟩,
        Reading.token?_of_step hstep⟩
      · have htake := hbegins.take j
        rw [← List.map_take] at htake ⊢
        rwa [List.take_append_of_le_length hj]
      · have htake : (front ++ tok :: back).take (front.length + 1) = front ++ [tok] := by
          rw [List.append_cons, List.take_left' (by simp)]
        rwa [← List.map_take, htake]

namespace Parse

theorem exists_parseTokens_eq_error (source : String) {tokens : List Token}
    (h : ¬ ∃ tree, Derives .sum (tokens.map Token.lexeme) tree) :
    ∃ m, parseTokens source.toList tokens = .error m := by
  cases hparse : parseTokens source.toList tokens with
  | error m => exact ⟨m, rfl⟩
  | ok x =>
    exact absurd ⟨x.tree, (parseTokens_iff_derives _ _ _).mp ⟨x, hparse, rfl⟩⟩ h

/-- Either there is a term and nothing to say, or there is no term and one user error. -/
theorem isSome_term_ofTokens_iff (source : String) (tokens : List Token) :
    (ofTokens source tokens).term.isSome ↔
      ∀ d ∈ (ofTokens source tokens).messages, d.severity ≠ .userError := by
  unfold ofTokens
  cases parseTokens source.toList tokens with
  | ok x => simp
  | error m => simp [Misfit.diagnostic]

theorem isSome_term_parse_iff (source : String) :
    (parse source).term.isSome ↔ ∀ d ∈ (parse source).messages, d.severity ≠ .userError := by
  have hparsed := isSome_term_ofTokens_iff source (scan source).tokens
  simp only [parse, List.forall_mem_append]
  by_cases hfailed : (scan source).remarks.any fun d => d.severity == .userError
  · have hbad : ¬ ∀ d ∈ (scan source).remarks, d.severity ≠ .userError := by
      obtain ⟨d, hd, hseverity⟩ := List.any_eq_true.mp hfailed
      exact fun h => h d hd (beq_iff_eq.mp hseverity)
    simp [hfailed, hbad]
  · have hgood : ∀ d ∈ (scan source).remarks, d.severity ≠ .userError := by
      intro d hd hseverity
      exact hfailed (List.any_eq_true.mpr ⟨d, hd, beq_iff_eq.mpr hseverity⟩)
    simp only [hfailed, hparsed, Bool.false_eq_true, if_false]
    exact ⟨fun h => ⟨hgood, h⟩, fun h => h.2⟩

/-- Tokens that are no formula have no term and one message, a user error. It stands at the first
token at which no formula begins with the tokens so far, or behind the last character if a formula
begins with all of them. A formula has a term if and only if no user error is among all that is said
of it. -/
theorem one_userError_at_first_misfit (source : String) :
    (∀ tokens : List Token, (¬ ∃ tree, Derives .sum (tokens.map Token.lexeme) tree) →
      (ofTokens source tokens).term = none ∧
      ∃ d, (ofTokens source tokens).messages = [d] ∧ d.severity = .userError ∧
        ((∃ k tok, tokens[k]? = some tok ∧ IsFirstMisfit (tokens.map Token.lexeme) k ∧
            d.span = tok.span) ∨
          ((∀ j, BeginsFormula ((tokens.map Token.lexeme).take j)) ∧
            d.span = ⟨source.length, 0⟩))) ∧
    ((parse source).term.isSome ↔
      ∀ d ∈ (parse source).messages, d.severity ≠ .userError) := by
  refine ⟨fun tokens hnone => ?_, isSome_term_parse_iff source⟩
  obtain ⟨m, hm⟩ := exists_parseTokens_eq_error source hnone
  rw [ofTokens, hm]
  refine ⟨rfl, m.diagnostic source.length, rfl, rfl, ?_⟩
  rcases token?_of_parseTokens hm with ⟨k, tok, hk, hfirst, htoken⟩ | ⟨hbegins, htoken⟩
  · exact .inl ⟨k, tok, hk, hfirst, by simp [Misfit.diagnostic, htoken]⟩
  · exact .inr ⟨hbegins.take, by simp [Misfit.diagnostic, htoken]⟩

end Parse

end Tabletop
