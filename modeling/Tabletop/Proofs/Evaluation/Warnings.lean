import Tabletop.Proofs.Evaluation.Marks
import Tabletop.Proofs.Evaluation.Traces

/-!
# What is said about a formula

The names of a formula that stand for nothing are warned about, each once and in the order in which
they are written. What is said while statistics are evaluated stays with them, and what had been
said before is not said again: all that there is to say about a formula is about places in it.
-/
namespace Tabletop

namespace Evaluated

/-- The place and the name of a node that is a name without a value. -/
def unresolved? : Evaluated → Option (Place × String)
  | stat _ place name none => some (place, name)
  | _ => none

/-- The names without a value in the tree, from left to right. -/
def unresolved (x : Evaluated) : List (Place × String) := x.nodes.filterMap unresolved?

@[simp] theorem unresolved_stat_none (value : Number) (place : Place) (name : String) :
    (stat value place name none).unresolved = [(place, name)] := rfl

@[simp] theorem unresolved_binary (value : Number) (place : Place) (op : Operator) (sign : Span)
    (left right : Evaluated) :
    (binary value place op sign left right).unresolved = left.unresolved ++ right.unresolved :=
  List.filterMap_append

theorem eq_stat_of_term {x : Evaluated} {place : Place} {name : String}
    (h : x.term = .stat place name) : ∃ value resolved, x = .stat value place name resolved := by
  cases x with
  | stat value place name resolved =>
    cases h
    exact ⟨value, resolved, rfl⟩
  | _ => cases h

theorem stat_mem_nodes_term {x : Evaluated} {place : Place} {name : String}
    (h : (place, name) ∈ x.unresolved) : .stat place name ∈ x.term.nodes := by
  obtain ⟨node, hnode, hname⟩ := List.mem_filterMap.mp h
  rw [nodes_term, List.mem_map]
  refine ⟨node, hnode, ?_⟩
  cases node with
  | stat value place name resolved =>
    cases resolved with
    | none =>
      cases hname
      rfl
    | some id => cases hname
  | _ => cases hname

end Evaluated

namespace Sheet

/-- The warning about a name that has no value. -/
def warning (sheet : Sheet) (place : Place) (name : String) : Diagnostic :=
  match sheet.find? name with
  | none => ⟨place.span, "Unknown statistic " ++ Text.quoted name, .warning⟩
  | some stat => ⟨place.span, "Circular reference to statistic " ++ Text.quoted stat.id, .warning⟩

theorem warning_of_find?_eq_none {sheet : Sheet} {name : String} (h : sheet.find? name = none)
    (place : Place) : sheet.warning place name =
      ⟨place.span, "Unknown statistic " ++ Text.quoted name, .warning⟩ := by
  rw [warning, h]

theorem warning_of_find? {sheet : Sheet} {name : String} {stat : Statistic}
    (h : sheet.find? name = some stat) (place : Place) : sheet.warning place name =
      ⟨place.span, "Circular reference to statistic " ++ Text.quoted stat.id, .warning⟩ := by
  rw [warning, h]

@[simp] theorem span_warning (sheet : Sheet) (place : Place) (name : String) :
    (sheet.warning place name).span = place.span := by
  unfold warning
  split <;> rfl

/-- The warnings about the names of a tree. -/
def warnings (sheet : Sheet) (x : Evaluated) : List Diagnostic :=
  x.unresolved.map fun p => sheet.warning p.1 p.2

/-- The node is a name that has a value, or it is zero because there is no such statistic or because
its statistic is marked; or it is no name. -/
def Resolves (sheet : Sheet) (marks : List String) : Evaluated → Prop
  | .stat value _ name resolved =>
      match sheet.find? name with
      | none => resolved = none ∧ value = .int 0
      | some stat =>
          if stat.id ∈ marks then resolved = none ∧ value = .int 0 else resolved = some stat.id
  | _ => True

section

variable {sheet : Sheet} {marks : List String} {value : Number} {place : Place} {name : String}
  {resolved : Option String} {stat : Statistic}

theorem resolves_unknown_iff (h : sheet.find? name = none) :
    sheet.Resolves marks (.stat value place name resolved) ↔ resolved = none ∧ value = .int 0 := by
  simp only [Resolves, h]

theorem resolves_marked_iff (h : sheet.find? name = some stat) (hm : stat.id ∈ marks) :
    sheet.Resolves marks (.stat value place name resolved) ↔ resolved = none ∧ value = .int 0 := by
  simp only [Resolves, h, if_pos hm]

theorem resolves_known_iff (h : sheet.find? name = some stat) (hm : stat.id ∉ marks) :
    sheet.Resolves marks (.stat value place name resolved) ↔ resolved = some stat.id := by
  simp only [Resolves, h, if_neg hm]

end

end Sheet

variable {σ : Type} {sheet : Sheet} {roller : Roller σ}

/-- All that is said outside about what was found. -/
def Finding.said (sheet : Sheet) : Finding → List Diagnostic
  | term x => sheet.warnings x
  | formula r => (r.root.map sheet.warnings).getD []
  | lines _ => []
  | statistic _ => []

/-- Each rule says what there is to say about what it finds, after all that was said before. Within a
statistic something else may be said, but it stays there. -/
theorem Evaluates.messages_eq {task : Task} {found : Finding} {c c' : Course σ}
    (h : Evaluates sheet roller task c found c') : c'.messages = c.messages ++ found.said sheet := by
  induction h with
  | literal => exact (List.append_nil _).symm
  | dice => exact (List.append_nil _).symm
  | unknown h =>
    simp [Course.say, Finding.said, Sheet.warnings, Sheet.warning_of_find?_eq_none h]
  | circular h _ =>
    simp [Course.say, Course.record, Finding.said, Sheet.warnings, Sheet.warning_of_find? h]
  | known _ _ _ ih => exact ih
  | negation _ ih => exact ih
  | binary _ _ ihl ihr =>
    rw [ihr, ihl, List.append_assoc]
    simp only [Finding.said, Sheet.warnings, Evaluated.unresolved_binary, List.map_append]
  | unparsed _ => exact (List.append_nil _).symm
  | parsed _ _ ih => exact ih
  | noLines => exact (List.append_nil _).symm
  | skip _ _ _ _ ihs => exact ihs
  | line _ _ _ _ ihs => exact ihs
  | level _ _ ih => exact ih
  | derived _ _ _ ihs => exact ihs

/-- A name is resolved by the marks at the start of its term, which are there again when evaluation
comes to it. -/
theorem Evaluates.resolves {t : Term} {x : Evaluated} {c c' : Course σ}
    (h : Evaluates sheet roller (.term t) c (.term x) c') :
    ∀ node ∈ x.nodes, sheet.Resolves c.marks node := by
  induction t generalizing x c c' with
  | literal place n =>
    cases h
    exact List.forall_mem_singleton.mpr trivial
  | dice place d =>
    cases h
    exact List.forall_mem_singleton.mpr trivial
  | stat place name =>
    cases h with
    | unknown h =>
      exact List.forall_mem_singleton.mpr ((Sheet.resolves_unknown_iff h).mpr ⟨rfl, rfl⟩)
    | circular h hm =>
      rw [Course.isMarked, List.contains_eq_mem, decide_eq_true_iff] at hm
      exact List.forall_mem_singleton.mpr ((Sheet.resolves_marked_iff h hm).mpr ⟨rfl, rfl⟩)
    | known h hm _ =>
      rw [Course.isMarked, List.contains_eq_mem, decide_eq_false_iff_not] at hm
      exact List.forall_mem_singleton.mpr ((Sheet.resolves_known_iff h hm).mpr rfl)
  | negation place sign t ih =>
    cases h with
    | negation he => exact List.forall_mem_cons.mpr ⟨trivial, ih he⟩
  | binary place op sign t u iht ihu =>
    cases h with
    | binary hl hr =>
      have hmarks : _ = c.marks := hl.marks_eq
      refine List.forall_mem_cons.mpr ⟨trivial, List.forall_mem_append.mpr ⟨iht hl, ?_⟩⟩
      exact hmarks ▸ ihu hr

/-! ### Places -/

section

variable {chars : List Char}

/-- What an exact negation negates lies within it. -/
theorem Term.IsExact.operand_within {place : Place} {sign : Span} {t : Term}
    (h : (negation place sign t).IsExact chars) :
    place.span.start ≤ t.span.start ∧ t.span.stop ≤ place.span.stop := by
  obtain ⟨-, hstart, hstop, -, hsign, -⟩ := h
  have hle : sign.start ≤ sign.stop := Nat.le_add_right sign.start sign.length
  omega

/-- What an exact operation joins lies within it, the left operand before the right one. -/
theorem Term.IsExact.operands_within {place : Place} {op : Operator} {sign : Span} {t u : Term}
    (h : (binary place op sign t u).IsExact chars) :
    place.span.start ≤ t.span.start ∧ t.span.stop ≤ u.span.start ∧
      u.span.stop ≤ place.span.stop := by
  obtain ⟨-, hstart, hstop, hleft, -, hright, -⟩ := h
  have hle : sign.start ≤ sign.stop := Nat.le_add_right sign.start sign.length
  omega

/-- All nodes of an exact term lie within it. -/
theorem Term.nodes_within {t : Term} (h : ∀ node ∈ t.nodes, node.IsExact chars) :
    ∀ node ∈ t.nodes, t.span.start ≤ node.span.start ∧ node.span.stop ≤ t.span.stop := by
  induction t with
  | literal place n => simp [nodes]
  | dice place d => simp [nodes]
  | stat place name => simp [nodes]
  | negation place sign t ih =>
    obtain ⟨hroot, hnodes⟩ := List.forall_mem_cons.mp h
    obtain ⟨hstart, hstop⟩ := hroot.operand_within
    refine List.forall_mem_cons.mpr ⟨⟨le_rfl, le_rfl⟩, fun node hnode => ?_⟩
    obtain ⟨hle, hle'⟩ := ih hnodes node hnode
    exact ⟨hstart.trans hle, hle'.trans hstop⟩
  | binary place op sign t u iht ihu =>
    obtain ⟨hroot, hnodes⟩ := List.forall_mem_cons.mp h
    obtain ⟨ht, hu⟩ := List.forall_mem_append.mp hnodes
    obtain ⟨hstart, hbetween, hstop⟩ := hroot.operands_within
    have hleft : t.span.start ≤ t.span.stop := Nat.le_add_right _ _
    have hright : u.span.start ≤ u.span.stop := Nat.le_add_right _ _
    refine List.forall_mem_cons.mpr ⟨⟨le_rfl, le_rfl⟩, List.forall_mem_append.mpr ⟨?_, ?_⟩⟩
    · intro node hnode
      obtain ⟨hle, hle'⟩ := iht ht node hnode
      exact ⟨hstart.trans hle, by simp only [span, Term.place] at *; omega⟩
    · intro node hnode
      obtain ⟨hle, hle'⟩ := ihu hu node hnode
      exact ⟨by simp only [span, Term.place] at *; omega, hle'.trans hstop⟩

/-- The names without a value stand one behind the other. -/
theorem Evaluated.pairwise_unresolved {x : Evaluated}
    (h : ∀ node ∈ x.term.nodes, node.IsExact chars) :
    x.unresolved.Pairwise fun p q => p.1.span.stop ≤ q.1.span.start := by
  induction x with
  | literal value place n => exact .nil
  | dice value place d rolls => exact .nil
  | stat value place name resolved =>
    cases resolved with
    | none => exact List.pairwise_singleton _ _
    | some id => exact .nil
  | negation value place sign x ih =>
    obtain ⟨-, hnodes⟩ := List.forall_mem_cons.mp h
    exact ih hnodes
  | binary value place op sign x y ihx ihy =>
    obtain ⟨hroot, hnodes⟩ := List.forall_mem_cons.mp h
    obtain ⟨hx, hy⟩ := List.forall_mem_append.mp hnodes
    obtain ⟨-, hbetween, -⟩ := hroot.operands_within
    rw [unresolved_binary]
    refine List.pairwise_append.mpr ⟨ihx hx, ihy hy, fun p hp q hq => ?_⟩
    obtain ⟨-, hstop⟩ := Term.nodes_within hx _ (stat_mem_nodes_term hp)
    obtain ⟨hstart, -⟩ := Term.nodes_within hy _ (stat_mem_nodes_term hq)
    exact hstop.trans (hbetween.trans hstart)

end

/-- The remarks of a scan and of a formula that has a term are about characters of the formula. -/
theorem Parse.span_of_mem_messages {source : String} {t : Term} (h : (parse source).term = some t)
    {d : Diagnostic} (hd : d ∈ (parse source).messages) :
    0 < d.span.length ∧ d.span.stop ≤ source.toList.length := by
  have hsaid : (parse source).messages = (scan source).remarks := by
    simp only [parse, messages_ofTokens (term_ofTokens_of_parse h), List.append_nil]
  rw [hsaid] at hd
  have hcut := Scanned.cut_scanFrom source.toList 0 (Nat.zero_le _)
  exact (hcut.bounds _ (mem_remarks_iff.mp hd)).2

namespace Sheet

/-- A formula that parses has a tree of its term, in which names are resolved by the sheet and the
marks. What is said about it are the remarks of its parse and one warning for each name without a
value, in the order in which they are written, each about its name. This is also what is said on the
course, after all that had been said there. So everything is about characters of the formula. -/
theorem messages_evaluateFormula (sheet : Sheet) (roller : Roller σ) (c : Course σ)
    {source : String} {t : Term} (h : (parse source).term = some t) :
    ∃ root, (sheet.evaluateFormula roller source c).1.root = some root ∧ root.term = t ∧
      (∀ node ∈ root.nodes, sheet.Resolves c.marks node) ∧
      (sheet.evaluateFormula roller source c).1.messages =
        (parse source).messages ++ sheet.warnings root ∧
      (sheet.evaluateFormula roller source c).2.messages = c.messages ++ sheet.warnings root ∧
      (sheet.warnings root).Pairwise (fun d e => d.span.stop ≤ e.span.start) ∧
      ∀ d ∈ (sheet.evaluateFormula roller source c).1.messages,
        0 < d.span.length ∧ d.span.stop ≤ source.toList.length := by
  have he := sheet.evaluates_evaluateFormula roller source c
  generalize sheet.evaluateFormula roller source c = outcome at he ⊢
  obtain ⟨result, after⟩ := outcome
  dsimp only at he ⊢
  cases he with
  | unparsed hnone => cases hnone.symm.trans h
  | @parsed _ _ root _ _ hterm he =>
    cases hterm.symm.trans h
    obtain ⟨hroot, -⟩ : root.term = t ∧ _ := he.shows
    have hexact := Parse.nodes_isExact (.inl h)
    rw [← hroot] at hexact
    have hafter : after.messages = c.messages ++ sheet.warnings root := he.messages_eq
    have hsaid : after.messages.drop c.messages.length = sheet.warnings root := by
      rw [hafter, List.drop_left]
    rw [hsaid]
    refine ⟨root, rfl, hroot, he.resolves, rfl, hafter, ?_, List.forall_mem_append.mpr ⟨?_, ?_⟩⟩
    · simp only [warnings, List.pairwise_map, span_warning]
      exact root.pairwise_unresolved hexact
    · exact fun d hd => Parse.span_of_mem_messages h hd
    · intro d hd
      obtain ⟨⟨place, name⟩, hmem, rfl⟩ := List.mem_map.mp hd
      obtain ⟨hin, -⟩ := hexact _ (Evaluated.stat_mem_nodes_term hmem)
      rw [span_warning]
      exact ⟨hin.length_pos, hin.stop_le⟩

theorem find?_patient_eq_none : patient.find? "X" = none := by
  have hupper : Text.upper "X" = "X" := Text.upper_of_ascii (by decide)
  rw [find?, hupper]
  rfl

/-- Health, which is being evaluated, and something that the patient does not have. -/
theorem messages_evaluateFormula_patient :
    ∃ t, (parse "HEALTH + X").term = some t ∧ t.names = ["HEALTH", "X"] ∧
      (patient.evaluateFormula (.fixed 1) "HEALTH + X" examined).1.messages =
        [⟨⟨0, 6⟩, "Circular reference to statistic " ++ Text.quoted "HEALTH", .warning⟩,
          ⟨⟨9, 1⟩, "Unknown statistic " ++ Text.quoted "X", .warning⟩] := by
  have hparse : parse "HEALTH + X" = ⟨"HEALTH + X", some (.binary ⟨⟨0, 10⟩, "HEALTH + X"⟩ .plus
      ⟨7, 1⟩ (.stat ⟨⟨0, 6⟩, "HEALTH"⟩ "HEALTH") (.stat ⟨⟨9, 1⟩, "X"⟩ "X")), []⟩ := by
    decide +kernel
  have hterm := congrArg Parse.term hparse
  obtain ⟨root, -, hroot, hnodes, hmessages, -⟩ :=
    patient.messages_evaluateFormula (.fixed 1) examined hterm
  refine ⟨_, hterm, rfl, ?_⟩
  rw [hmessages, hparse, List.nil_append]
  cases root with
  | binary value place op sign left right =>
    obtain ⟨-, -, -, hleft, hright⟩ := Term.binary.inj hroot
    obtain ⟨x, resolved, rfl⟩ := Evaluated.eq_stat_of_term hleft
    obtain ⟨y, resolved', rfl⟩ := Evaluated.eq_stat_of_term hright
    have hmark : (Statistic.ofDerived health).id ∈ examined.marks := List.mem_singleton_self _
    simp only [Evaluated.nodes, List.singleton_append, List.forall_mem_cons,
      resolves_marked_iff find?_patient hmark, resolves_unknown_iff find?_patient_eq_none] at hnodes
    obtain ⟨-, ⟨rfl, -⟩, ⟨rfl, -⟩, -⟩ := hnodes
    simp only [warnings, Evaluated.unresolved_binary, Evaluated.unresolved_stat_none,
      List.singleton_append, List.map_cons, List.map_nil, warning_of_find? find?_patient,
      warning_of_find?_eq_none find?_patient_eq_none]
    rfl
  | _ => cases hroot

end Sheet

end Tabletop
