import Tabletop.Proofs.Evaluation.Likeness
import Tabletop.Proofs.Sheet.Mapping

/-!
# Which dice an evaluation asks for

Numbers have no say in what an evaluation does next. So which dice it asks for, and in which order,
can be told from the formulas alone: those of a formula from left to right, where in the place of a
name come the dice of its statistic, first those of its own formula, then those of the modifiers on
it. Whatever the dice show and wherever the tracks stand, evaluations differ in nothing but numbers.
-/
namespace Tabletop

/-! ### Without numbers -/

/-- The tree with zero for every value and every result of a die. -/
def Evaluated.outline : Evaluated → Evaluated
  | literal _ place n => .literal (.int 0) place n
  | dice _ place d rolls => .dice (.int 0) place d (rolls.map fun _ => 0)
  | stat _ place name resolved => .stat (.int 0) place name resolved
  | negation _ place sign operand => .negation (.int 0) place sign operand.outline
  | binary _ place op sign left right => .binary (.int 0) place op sign left.outline right.outline

/-- The outcome of a formula with zeros for all numbers in its tree. -/
def FormulaResult.outline (r : FormulaResult) : FormulaResult :=
  { r with root := r.root.map Evaluated.outline }

theorem Evaluated.Alike.outline_eq {x y : Evaluated} (h : x.Alike .any y) :
    x.outline = y.outline := by
  induction h with
  | literal _ => rfl
  | dice _ hrolls =>
    have hzeros : ∀ {rolls others : List Int},
        List.Forall₂ (Number.Likeness.Ints .any) rolls others →
          rolls.map (fun _ => (0 : Int)) = others.map fun _ => 0 := by
      intro rolls others h
      rw [List.map_const', List.map_const', h.length_eq]
    rw [outline, outline, hzeros hrolls]
  | stat _ => rfl
  | negation _ _ ih => rw [outline, outline, ih]
  | binary _ _ _ ihl ihr => rw [outline, outline, ihl, ihr]

theorem Finding.Alike.outline_eq {r r' : FormulaResult}
    (h : (Finding.formula r).Alike .any (.formula r')) : r.outline = r'.outline := by
  cases h with
  | formula hroot =>
    cases hroot with
    | none => rfl
    | some hx => rw [FormulaResult.outline, FormulaResult.outline, Option.map_some,
        Option.map_some, hx.outline_eq]

/-! ### Dice of formulas -/

/-- The sides of the dice that were asked for, in order. -/
def Tally.asked {σ : Type} (t : Tally σ) : List Nat := t.throws.map Throw.sides

/-- A leaf of a term that may ask for dice. -/
inductive Leaf where
  | dice (d : Dice)
  | name (name : String)

/-- The dice and the names in a term, from left to right. -/
def Term.leaves : Term → List Leaf
  | literal .. => []
  | dice _ d => [.dice d]
  | stat _ name => [.name name]
  | negation _ _ operand => operand.leaves
  | binary _ _ _ left right => left.leaves ++ right.leaves

/-- The dice and the names in a formula, if it parses. -/
def leavesIn (source : String) : List Leaf := ((parse source).term.map Term.leaves).getD []

theorem leavesIn_of_parse {source : String} {t : Term} (h : (parse source).term = some t) :
    leavesIn source = t.leaves := by
  simp only [leavesIn, h, Option.map_some, Option.getD_some]

theorem leavesIn_of_parse_eq_none {source : String} (h : (parse source).term = none) :
    leavesIn source = [] := by
  simp only [leavesIn, h, Option.map_none, Option.getD_none]

namespace Sheet

/-- The sides of the dice that a formula asks for while statistics are marked: those of its own dice
and of its names from left to right. A name that stands for a statistic without a mark asks for the
dice of that statistic's formulas, each of them while the statistic is marked too. -/
def asked (sheet : Sheet) (marks : List String) (source : String) : List Nat :=
  (leavesIn source).flatMap fun
    | .dice d => List.replicate d.count d.sides
    | .name name =>
      match h : sheet.find? name with
      | none => []
      | some stat =>
        if hm : stat.id ∈ marks then []
        else
          have := unmarked_cons_lt (mem_of_statistic? (statistic?_of_find? h)) hm
          (sheet.formulasOf stat).flatMap fun inner => sheet.asked (stat.id :: marks) inner
termination_by sheet.unmarked marks

/-- The dice that a statistic asks for: those of its own formula, then those of its modifiers. -/
def askedBy (sheet : Sheet) (marks : List String) (stat : Statistic) : List Nat :=
  (sheet.formulasOf stat).flatMap (sheet.asked (stat.id :: marks))

/-- The dice that a leaf asks for. -/
def askedAt (sheet : Sheet) (marks : List String) : Leaf → List Nat
  | .dice d => List.replicate d.count d.sides
  | .name name =>
    match sheet.find? name with
    | none => []
    | some stat => if stat.id ∈ marks then [] else sheet.askedBy marks stat

variable {sheet : Sheet}

theorem asked_eq (marks : List String) (source : String) :
    sheet.asked marks source = (leavesIn source).flatMap (sheet.askedAt marks) := by
  rw [asked]
  refine List.flatMap_congr fun leaf _ => ?_
  cases leaf with
  | dice d => rfl
  | name name =>
    simp only [askedAt]
    split
    · rename_i h
      rw [h]
    · rename_i stat h
      simp only [h]
      rfl

theorem askedAt_of_find? {name : String} {stat : Statistic} {marks : List String}
    (h : sheet.find? name = some stat) (hm : stat.id ∉ marks) :
    sheet.askedAt marks (.name name) = sheet.askedBy marks stat := by
  simp only [askedAt, h, if_neg hm]

/-- Which statistics are marked matters, but not in which order they were. -/
theorem asked_congr {marks others : List String} (h : ∀ id, id ∈ marks ↔ id ∈ others)
    (source : String) : sheet.asked marks source = sheet.asked others source := by
  induction hn : sheet.unmarked marks using Nat.strongRecOn generalizing marks others source with
  | ind n ih =>
    rw [asked_eq, asked_eq]
    refine List.flatMap_congr fun leaf _ => ?_
    cases leaf with
    | dice d => rfl
    | name name =>
      cases hf : sheet.find? name with
      | none => simp only [askedAt, hf]
      | some stat =>
        simp only [askedAt, hf, ← h]
        split
        · rfl
        · rename_i hm
          have hless : sheet.unmarked (stat.id :: marks) < n :=
            hn ▸ unmarked_cons_lt (mem_of_statistic? (statistic?_of_find? hf)) hm
          refine List.flatMap_congr fun inner _ => ih _ hless ?_ inner rfl
          intro id
          rw [List.mem_cons, List.mem_cons, h]

end Sheet

/-! ### Dice of evaluations -/

/-- The dice that a task asks for. -/
def Task.asked (sheet : Sheet) (marks : List String) : Task → List Nat
  | term t => t.leaves.flatMap (sheet.askedAt marks)
  | formula source => sheet.asked marks source
  | lines id ms => ms.flatMap fun m => sheet.asked (id :: marks) m.formula
  | statistic stat => sheet.askedBy marks stat

variable {σ τ : Type} {sheet : Sheet}

theorem Roller.asked_rolls (roller : Roller σ) (sides count : Nat) (t : Tally σ) :
    (roller.tallied.rolls sides count t).2.asked = t.asked ++ List.replicate count sides := by
  induction count generalizing t with
  | zero => exact (List.append_nil _).symm
  | succ count ih =>
    rw [rolls, ih, Tally.asked, throws_tallied, List.map_append, List.append_assoc]
    rfl

/-- A formula is evaluated inside of a statistic as it is with the mark of the statistic on top. -/
theorem Course.asked_enter (c : Course σ) (id source : String) :
    sheet.asked (c.enter id).marks source = sheet.asked (id :: c.marks) source :=
  Sheet.asked_congr (fun other => by rw [c.mem_marks_enter, List.mem_cons]) source

/-- After one formula of a statistic the next one finds the same marks. -/
theorem Course.asked_leave {c after : Course σ} {id : String}
    (h : after.marks = (c.enter id).marks) (source : String) :
    sheet.asked (id :: (c.leave after id).marks) source = sheet.asked (id :: c.marks) source := by
  refine Sheet.asked_congr (fun other => ?_) source
  rw [marks_leave h]
  by_cases ho : other = id <;> simp [ho]

/-- What is asked for inside of a statistic and then for the modifiers on it is asked for in this
order. -/
theorem Course.asked_enter_lines {c c' c'' : Course (Tally σ)} {id : String} {ms : List Modifier}
    {first : List Nat} (hmarks : c'.marks = (c.enter id).marks)
    (hfirst : c'.dice.asked = (c.enter id).dice.asked ++ first)
    (hlines : c''.dice.asked =
      (c.leave c' id).dice.asked ++ (Task.lines id ms).asked sheet (c.leave c' id).marks) :
    c''.dice.asked = c.dice.asked ++ (first ++ (Task.lines id ms).asked sheet c.marks) := by
  have hrest : (Task.lines id ms).asked sheet (c.leave c' id).marks =
      (Task.lines id ms).asked sheet c.marks :=
    List.flatMap_congr fun m _ => asked_leave hmarks m.formula
  calc c''.dice.asked
      = c'.dice.asked ++ (Task.lines id ms).asked sheet (c.leave c' id).marks := hlines
    _ = c.dice.asked ++ (first ++ (Task.lines id ms).asked sheet c.marks) := by
      rw [hrest, hfirst, dice_enter, List.append_assoc]

/-- The induction is on the rules: every rule asks for the dice of its parts in order. -/
theorem Evaluates.asked_eq {roller : Roller σ} {task : Task} {found : Finding}
    {c c' : Course (Tally σ)} (h : Evaluates sheet roller.tallied task c found c') :
    c'.dice.asked = c.dice.asked ++ task.asked sheet c.marks := by
  induction h with
  | literal => exact (List.append_nil _).symm
  | @dice place d c =>
    have hrolls := roller.asked_rolls d.sides d.count c.dice
    simpa [Evaluation.dice, Course.record, Task.asked, Term.leaves, Sheet.askedAt] using hrolls
  | @unknown place name c hf =>
    simp [Course.say, Task.asked, Term.leaves, Sheet.askedAt, hf]
  | @circular place name stat c hf hm =>
    have hmem : stat.id ∈ c.marks := by simpa [Course.isMarked] using hm
    simp [Course.say, Course.record, Task.asked, Term.leaves, Sheet.askedAt, hf, hmem]
  | @known place name stat b c c' hf hm _ ih =>
    have hmem : stat.id ∉ c.marks := by simpa [Course.isMarked] using hm
    rw [ih, Task.asked, Task.asked, Term.leaves, List.flatMap_singleton,
      Sheet.askedAt_of_find? hf hmem]
  | negation _ ih => exact ih
  | @binary place op sign t u x y c c' c'' hl _ ihl ihr =>
    have hmarks : c'.marks = c.marks := hl.marks_eq
    rw [ihr, ihl, hmarks, List.append_assoc]
    simp only [Task.asked, Term.leaves, List.flatMap_append]
  | @unparsed source c hp =>
    rw [Task.asked, Sheet.asked_eq, leavesIn_of_parse_eq_none hp, List.flatMap_nil,
      List.append_nil]
    rfl
  | @parsed source t x c c' hp _ ih =>
    rw [ih, Task.asked, Task.asked, Sheet.asked_eq, leavesIn_of_parse hp]
    rfl
  | noLines => exact (List.append_nil _).symm
  | skip he _ _ ihf ihs =>
    rw [Task.asked, Course.asked_enter] at ihf
    exact Course.asked_enter_lines he.marks_eq ihf ihs
  | line he _ _ ihf ihs =>
    rw [Task.asked, Course.asked_enter] at ihf
    exact Course.asked_enter_lines he.marks_eq ihf ihs
  | @level stat n found c c' hl _ ih =>
    rw [ih, Task.asked, Task.asked, Sheet.askedBy, Sheet.formulasOf,
      Statistic.formula?_of_level? hl, Option.toList_none, List.nil_append, List.flatMap_map]
  | @derived d x found c c' c'' he _ iht ihs =>
    have hown : (Task.term d.term).asked sheet (c.enter d.id).marks =
        sheet.asked (d.id :: c.marks) d.formula := by
      rw [Task.asked, d.apply_term Term.leaves rfl, ← leavesIn, ← Sheet.asked_eq,
        Course.asked_enter]
    rw [hown] at iht
    rw [Course.asked_enter_lines he.marks_eq iht ihs, Task.asked, Task.asked, Sheet.askedBy,
      Sheet.formulasOf, List.flatMap_append, List.flatMap_map, Statistic.formula?,
      Option.toList_some, List.flatMap_singleton]
    rfl

/-- Since two tallies, others have been asked for the same dice. -/
def Tally.AskedAlike (start : Tally σ) (start' : Tally τ) (t : Tally σ) (t' : Tally τ) : Prop :=
  ∃ sizes, t.asked = start.asked ++ sizes ∧ t'.asked = start'.asked ++ sizes

theorem Tally.AskedAlike.refl (start : Tally σ) (start' : Tally τ) :
    start.AskedAlike start' start start' := ⟨[], (List.append_nil _).symm, (List.append_nil _).symm⟩

/-- Rollers that keep tallies are asked for the same dice if they are asked for the same die next,
whatever the dice show. -/
theorem Roller.alike_tallied (roller : Roller σ) (other : Roller τ) (start : Tally σ)
    (start' : Tally τ) : roller.tallied.Alike .any (start.AskedAlike start') other.tallied := by
  rintro sides t t' ⟨sizes, ht, ht'⟩
  refine ⟨trivial, sizes ++ [sides], ?_, ?_⟩
  · rw [Tally.asked, Roller.throws_tallied, List.map_append, ← Tally.asked, ht, List.append_assoc]
    rfl
  · rw [Tally.asked, Roller.throws_tallied, List.map_append, ← Tally.asked, ht', List.append_assoc]
    rfl

namespace Sheet

theorem pairNames_mapTracks (sheet : Sheet) (f : String → Track → Track) (name : String) :
    Option.Rel (fun stat stat' => stat' = stat.mapTracks f) (sheet.find? name)
      ((sheet.mapTracks f).find? name) := by
  rw [find?_mapTracks]
  cases sheet.find? name with
  | none => exact .none
  | some stat => exact .some rfl

/-- With tracks changed at will every statistic is paired with itself. -/
def pairingMapTracks (sheet : Sheet) (f : String → Track → Track) :
    sheet.Pairing .any (sheet.mapTracks f) where
  rel stat stat' := stat' = stat.mapTracks f
  id_eq h := by rw [h, Statistic.id_mapTracks]
  level := by
    rintro stat _ rfl
    cases stat with
    | ofAttribute a => exact .some trivial
    | ofSkill owner s => exact .some trivial
    | ofDerived d => exact .none
  formula_eq h := by rw [h, Statistic.formula?_mapTracks]
  modifiers_eq h := by rw [h, Statistic.id_mapTracks, modifiersOn_mapTracks]
  names _ _ _ name _ := sheet.pairNames_mapTracks f name

/-- Two evaluations of a formula while the same statistics are marked, with dice of any kind and
with the tracks of the sheet changed at will, differ in nothing but numbers, and both ask for the
dice of the formula in order. -/
theorem outline_evaluateFormula_mapTracks (sheet : Sheet) (f : String → Track → Track)
    (roller : Roller σ) (other : Roller τ) (source : String) (marks : List String)
    (dice : Tally σ) (dice' : Tally τ) (said said' : List Diagnostic) (journal journal' : Journal) :
    let first := sheet.evaluateFormula roller.tallied source ⟨dice, marks, said, journal⟩
    let second := (sheet.mapTracks f).evaluateFormula other.tallied source
      ⟨dice', marks, said', journal'⟩
    first.1.outline = second.1.outline ∧
      first.2.dice.asked = dice.asked ++ sheet.asked marks source ∧
      second.2.dice.asked = dice'.asked ++ sheet.asked marks source := by
  intro first second
  have hfirst := sheet.evaluates_evaluateFormula roller.tallied source ⟨dice, marks, said, journal⟩
  have hsecond := (sheet.mapTracks f).evaluates_evaluateFormula other.tallied source
    ⟨dice', marks, said', journal'⟩
  have hsource : (Task.formula source).Alike sheet (sheet.mapTracks f)
      (sheet.pairingMapTracks f).rel (.formula source) :=
    .formula fun name _ => sheet.pairNames_mapTracks f name
  obtain ⟨found, d, he, halike, hlead⟩ := hfirst.hasAlike (roller.alike_tallied other dice dice')
    (sheet.pairingMapTracks f) hsource (d := ⟨dice', marks, said', journal'⟩)
    ⟨.refl dice dice', rfl⟩
  obtain ⟨rfl, rfl⟩ := he.unique hsecond
  have hasked : first.2.dice.asked = dice.asked ++ sheet.asked marks source := hfirst.asked_eq
  refine ⟨halike.outline_eq, hasked, ?_⟩
  obtain ⟨sizes, hsizes, hsizes'⟩ := hlead.ends.dice
  rw [hsizes', ← List.append_cancel_left (hsizes.symm.trans hasked)]

end Sheet

end Tabletop
