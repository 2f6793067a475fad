import Mathlib.Data.List.Forall2
import Mathlib.Data.List.Nodup
import Mathlib.Data.List.Perm.Basic
import Tabletop.Proofs.Content

/-!
# What is accepted as content

A document spells content if every field that it has holds a value of its type and every field that
it does not have may be left out. That says nothing of the rules that content has to keep. Reading
takes what a document spells exactly if all these rules are kept, wherever in it they apply, and
reads nothing else.
-/
namespace Tabletop

/-! ### Reading what is spelled -/

/-- What spells some data is read as this data if the data keeps the rule, and not at all if it does
not; and only what spells data is read. -/
structure Reads {τ α : Type} (read : τ → Checked α) (spells : τ → α → Prop) (rule : α → Prop) :
    Prop where
  eq_ok_iff : ∀ {x a}, spells x a → ∀ b, read x = .ok b ↔ b = a ∧ rule a
  spelled : ∀ {x b}, read x = .ok b → spells x b

namespace Reads

variable {τ α : Type} {read : τ → Checked α} {spells : τ → α → Prop} {rule : α → Prop}

theorem guarded {refusal? : α → Option String} {kept : α → Prop} (h : Reads read spells rule)
    (hkept : ∀ a, refusal? a = none ↔ kept a) :
    Reads (fun x => .guarded refusal? (read x)) spells fun a => rule a ∧ kept a where
  eq_ok_iff hs b := by
    rw [Checked.guarded_eq_ok_iff, h.eq_ok_iff hs, hkept]
    constructor
    · rintro ⟨⟨rfl, hrule⟩, hb⟩
      exact ⟨rfl, hrule, hb⟩
    · rintro ⟨rfl, hrule, hb⟩
      exact ⟨⟨rfl, hrule⟩, hb⟩
  spelled hx := h.spelled (Checked.guarded_eq_ok_iff.mp hx).1

theorem of_iff {other : α → Prop} (h : Reads read spells rule) (hrule : ∀ a, rule a ↔ other a) :
    Reads read spells other :=
  ⟨fun hs b => (h.eq_ok_iff hs b).trans (and_congr_right fun _ => hrule _), h.spelled⟩

theorem under (h : Reads read spells rule) (step : τ → Step) :
    Reads (fun x => .under (step x) (read x)) spells rule where
  eq_ok_iff hs b := Checked.under_eq_ok_iff.trans (h.eq_ok_iff hs b)
  spelled hx := h.spelled (Checked.under_eq_ok_iff.mp hx)

/-- All members of a list are read if each of them is. -/
theorem all (h : Reads read spells rule) :
    Reads (fun xs => .all (xs.map read)) (List.Forall₂ spells) fun as => ∀ a ∈ as, rule a where
  eq_ok_iff {xs as} hs bs := by
    rw [Checked.all_eq_ok_iff]
    induction hs generalizing bs with
    | nil => cases bs <;> simp
    | @cons x a xs as hx _ ih =>
      cases bs with
      | nil => simp
      | cons b bs =>
        simp only [List.map_cons, List.cons.injEq, h.eq_ok_iff hx, ih, List.forall_mem_cons]
        constructor
        · rintro ⟨⟨rfl, ha⟩, rfl, has⟩
          exact ⟨⟨rfl, rfl⟩, ha, has⟩
        · rintro ⟨⟨rfl, rfl⟩, ha, has⟩
          exact ⟨⟨rfl, ha⟩, rfl, has⟩
  spelled {xs bs} hx := by
    rw [Checked.all_eq_ok_iff] at hx
    induction xs generalizing bs with
    | nil =>
      cases bs with
      | nil => exact .nil
      | cons b bs => cases hx
    | cons x xs ih =>
      cases bs with
      | nil => cases hx
      | cons b bs =>
        obtain ⟨hfirst, hrest⟩ := List.cons.inj hx
        exact .cons (h.spelled hfirst) (ih hrest)

end Reads

/-! ### Values and fields -/

namespace Document

/-- The value is the text. -/
def SpellsText (d : Document) (s : String) : Prop := d = text s

/-- The value can be taken for the integer. -/
def SpellsInt (d : Document) (n : Int) : Prop := Shape.int d = .ok n

/-- The value is a list of what spells the members. -/
def SpellsList {α : Type} (spells : Document → α → Prop) (d : Document) (as : List α) : Prop :=
  ∃ ds, d = list ds ∧ List.Forall₂ spells ds as

/-- The value is a table whose keys are texts, with what spells the members under them. -/
inductive SpellsTable {α : Type} (spells : String → Document → α → Prop) :
    Document → List (String × α) → Prop
  | table {entries : List (String × Document)} {found : List (String × α)}
      (h : List.Forall₂ (fun e p => e.1 = p.1 ∧ spells p.1 e.2 p.2) entries found) :
      SpellsTable spells (.table entries) found
  | mixed {entries : List (Document × Document)} {found : List (String × α)}
      (h : List.Forall₂ (fun e p => e.1 = .text p.1 ∧ spells p.1 e.2 p.2) entries found) :
      SpellsTable spells (.mixed entries) found

/-- The fields of a table: what stands under other keys than texts does not matter. -/
def fields? : Document → Option Entries
  | table entries => some entries
  | mixed entries =>
      some (entries.filterMap fun (key, d) =>
        match key with
        | text s => some (s, d)
        | _ => none)
  | _ => none

/-- The value is a table whose fields spell the data. -/
def SpellsFields {α : Type} (spells : Entries → α → Prop) (d : Document) (a : α) : Prop :=
  ∃ e, d.fields? = some e ∧ spells e a

end Document

/-- The field holds a value that spells the data, or it is left out for the data that stands in. -/
def Entries.Holds {α : Type} (e : Entries) (name other : String) (spells : Document → α → Prop)
    (default? : Option α) (a : α) : Prop :=
  match e.spelled? name other with
  | some (_, d) => spells d a
  | none => default? = some a

namespace Reads

variable {α : Type} {shape : Shape α} {spells : Document → α → Prop} {rule : α → Prop}

theorem text : Reads Shape.text Document.SpellsText fun _ => True where
  eq_ok_iff {d s} hs b := by
    rw [hs]
    simp [Shape.text, eq_comm]
  spelled {d b} h := by
    cases d with
    | text s => exact congrArg Document.text (Except.ok.inj h)
    | _ => cases h

theorem int : Reads Shape.int Document.SpellsInt fun _ => True where
  eq_ok_iff hs b := by
    rw [hs]
    simp [eq_comm]
  spelled h := h

theorem listOf (h : Reads shape spells rule) :
    Reads (Shape.listOf shape) (Document.SpellsList spells) fun as => ∀ a ∈ as, rule a := by
  have hitem : Reads (fun p : Document × Nat => shape p.1) (fun p a => spells p.1 a) rule :=
    ⟨fun hs => h.eq_ok_iff hs, fun hx => h.spelled hx⟩
  have hall := (hitem.under fun p => .index p.2).all
  -- the members with their places are the members
  have hplaces {ds : List Document} {as : List α} :
      List.Forall₂ (fun (p : Document × Nat) a => spells p.1 a) ds.zipIdx as ↔
        List.Forall₂ spells ds as := by
    conv_rhs => rw [← List.zipIdx_map_fst 0 ds]
    exact List.forall₂_map_left_iff.symm
  constructor
  · rintro d as ⟨ds, rfl, hs⟩ b
    exact hall.eq_ok_iff (hplaces.mpr hs) b
  · intro d as hx
    cases d with
    | list ds => exact ⟨ds, rfl, hplaces.mp (hall.spelled hx)⟩
    | _ => cases hx

theorem mappingOf {value : String → Shape α} {spells : String → Document → α → Prop}
    (h : ∀ key, Reads (value key) (spells key) rule) :
    Reads (Shape.mappingOf value) (Document.SpellsTable spells) fun found =>
      ∀ p ∈ found, rule p.2 := by
  have hentry : Reads (fun e : String × Document => (value e.1 e.2).map (e.1, ·))
      (fun e p => e.1 = p.1 ∧ spells p.1 e.2 p.2) fun p => rule p.2 := by
    constructor
    · rintro ⟨key, d⟩ ⟨key', a⟩ ⟨rfl, hs⟩ ⟨key'', b⟩
      simp only [Checked.map_eq_ok_iff, (h key).eq_ok_iff hs, Prod.mk.injEq]
      constructor
      · rintro ⟨_, ⟨rfl, ha⟩, rfl, rfl⟩
        exact ⟨⟨rfl, rfl⟩, ha⟩
      · rintro ⟨⟨rfl, rfl⟩, ha⟩
        exact ⟨_, ⟨rfl, ha⟩, rfl, rfl⟩
    · rintro ⟨key, d⟩ ⟨key', b⟩ hx
      obtain ⟨a, ha, heq⟩ := Checked.map_eq_ok_iff.mp hx
      cases heq
      exact ⟨rfl, (h key).spelled ha⟩
  have hmixed : Reads (fun e : Document × Document =>
        .both (.under (.key "[key]") (Shape.text e.1)) (value e.1.plain e.2))
      (fun e p => e.1 = .text p.1 ∧ spells p.1 e.2 p.2) fun p => rule p.2 := by
    constructor
    · rintro ⟨key, d⟩ ⟨key', a⟩ ⟨rfl, hs⟩ ⟨key'', b⟩
      have hvalue := (h key').eq_ok_iff hs b
      simp only [Checked.both_eq_ok_iff, Checked.under_eq_ok_iff, text.eq_ok_iff rfl, and_true,
        Prod.mk.injEq]
      rw [and_assoc]
      exact and_congr_right fun _ => hvalue
    · rintro ⟨key, d⟩ ⟨key', b⟩ hx
      obtain ⟨hkey, hvalue⟩ := Checked.both_eq_ok_iff.mp hx
      obtain rfl : key = .text key' := text.spelled (Checked.under_eq_ok_iff.mp hkey)
      exact ⟨rfl, (h key').spelled hvalue⟩
  constructor
  · intro d found hs b
    cases hs with
    | table hs => exact (hentry.under fun e => .ofName e.1).all.eq_ok_iff hs b
    | mixed hs => exact (hmixed.under fun e => .ofKey e.1).all.eq_ok_iff hs b
  · intro d found hx
    cases d with
    | table entries => exact .table ((hentry.under fun e => .ofName e.1).all.spelled hx)
    | mixed entries => exact .mixed ((hmixed.under fun e => .ofKey e.1).all.spelled hx)
    | _ => cases hx

theorem model {fields : Entries → Checked α} {spells : Entries → α → Prop}
    (h : Reads fields spells rule) :
    Reads (Shape.model fields) (Document.SpellsFields spells) rule := by
  have hmodel (d : Document) : (∃ e, d.fields? = some e ∧ Shape.model fields d = fields e) ∨
      (d.fields? = none ∧ ∀ b, Shape.model fields d ≠ .ok b) := by
    cases d with
    | table entries => exact .inl ⟨entries, rfl, rfl⟩
    | mixed entries => exact .inl ⟨_, rfl, rfl⟩
    | _ => exact .inr ⟨rfl, nofun⟩
  constructor
  · rintro d a ⟨e, he, hs⟩ b
    obtain ⟨e', he', hread⟩ | ⟨hnone, -⟩ := hmodel d
    · cases he.symm.trans he'
      rw [hread]
      exact h.eq_ok_iff hs b
    · cases he.symm.trans hnone
  · intro d b hx
    obtain ⟨e, he, hread⟩ | ⟨-, hfails⟩ := hmodel d
    · exact ⟨e, he, h.spelled (hread ▸ hx)⟩
    · exact absurd hx (hfails b)

variable {name other : String}

/-- A field is read if it is there, and what is made of its absence is what may stand in for it. -/
theorem field (h : Reads shape spells rule) {absent : Checked α} {default? : Option α}
    (habsent : ∀ a, default? = some a → ∀ b, absent = .ok b ↔ b = a ∧ rule a)
    (honly : ∀ b, absent = .ok b → default? = some b) :
    Reads (fun e : Entries =>
        match e.spelled? name other with
        | some (key, d) => (shape d).under (.key key)
        | none => absent)
      (fun e => e.Holds name other spells default?) rule := by
  constructor
  · intro e a hs b
    unfold Entries.Holds at hs
    cases hfield : e.spelled? name other with
    | none =>
      rw [hfield] at hs
      exact habsent a hs b
    | some field =>
      rw [hfield] at hs
      exact Checked.under_eq_ok_iff.trans (h.eq_ok_iff hs b)
  · intro e b hx
    unfold Entries.Holds
    cases hfield : e.spelled? name other with
    | none =>
      rw [hfield] at hx
      exact honly b hx
    | some field =>
      rw [hfield] at hx
      exact h.spelled (Checked.under_eq_ok_iff.mp hx)

/-- A field that may be left out for something that keeps the rule. -/
theorem optional (h : Reads shape spells rule) {default : α} (hdefault : rule default) :
    Reads (fun e : Entries => e.optional name other shape default)
      (fun e => e.Holds name other spells (some default)) rule := by
  refine h.field (fun a ha b => ?_) fun b hb => congrArg some (Except.ok.inj hb)
  cases ha
  simp [hdefault, eq_comm]

theorem required (h : Reads shape spells rule) :
    Reads (fun e : Entries => e.required name other shape)
      (fun e => e.Holds name other spells none) rule :=
  h.field (fun _ ha => nomatch ha) fun _ hb => nomatch hb

end Reads

/-! ### What spells content -/

/-- A text that may be left out. -/
abbrev Entries.HoldsText (e : Entries) (name other : String) (s : String) : Prop :=
  e.Holds name other Document.SpellsText (some "") s

namespace Content

/-- A table of entries under their ids. -/
def SpellsUnderIds {α : Type} (idOf : α → String) (spells : String → Entries → α → Prop)
    (d : Document) (as : List α) : Prop :=
  d.SpellsTable (fun id => Document.SpellsFields (spells id)) (as.map fun a => (idOf a, a))

structure SpellsSkill (id : String) (e : Entries) (s : SkillEntry) : Prop where
  id_eq : s.id = id
  name : e.HoldsText "displayName" "display_name" s.name
  description : e.HoldsText "displayDescription" "display_description" s.description

structure SpellsAttribute (id : String) (e : Entries) (a : AttributeEntry) : Prop where
  id_eq : a.id = id
  name : e.HoldsText "displayName" "display_name" a.name
  description : e.HoldsText "displayDescription" "display_description" a.description
  skills : e.Holds "skills" "skills" (SpellsUnderIds SkillEntry.id SpellsSkill) (some []) a.skills

structure SpellsGroup (e : Entries) (g : AttributeGroup) : Prop where
  name : e.HoldsText "displayName" "display_name" g.name
  attributes : e.Holds "attributes" "attributes"
    (SpellsUnderIds AttributeEntry.id SpellsAttribute) (some []) g.attributes

/-- The formula is the only field that cannot be left out. -/
structure SpellsDerived (id : String) (e : Entries) (s : DerivedEntry) : Prop where
  id_eq : s.id = id
  name : e.HoldsText "displayName" "display_name" s.name
  description : e.HoldsText "displayDescription" "display_description" s.description
  formula : e.Holds "formula" "formula" Document.SpellsText none s.formula

structure SpellsContent (e : Entries) (c : Content) : Prop where
  gameVersion : e.HoldsText "gameVersion" "game_version" c.gameVersion
  dataVersion : e.HoldsText "dataVersion" "data_version" c.dataVersion
  attributeSchedule : e.Holds "attributeLevelUpPoints" "attribute_level_up_points"
    (Document.SpellsList Document.SpellsInt) (some []) c.attributeSchedule
  skillSchedule : e.Holds "skillLevelUpPoints" "skill_level_up_points"
    (Document.SpellsList Document.SpellsInt) (some []) c.skillSchedule
  groups : e.Holds "attributeGroups" "attribute_groups"
    (Document.SpellsList (Document.SpellsFields SpellsGroup)) (some []) c.groups
  derived : e.Holds "derivedStatistics" "derived_statistics"
    (SpellsUnderIds DerivedEntry.id SpellsDerived) (some []) c.derived

/-! ### The rules -/

theorem idRefusal?_eq_none_iff {what : String} {ids : List String} :
    idRefusal? what ids = none ↔ ∀ id ∈ ids, isId id := by
  simp only [idRefusal?, Option.map_eq_none_iff, List.find?_eq_none, Bool.not_eq_true',
    Bool.not_eq_false]

theorem scheduleRefusal?_eq_none_iff {schedule : List Int} :
    scheduleRefusal? schedule = none ↔ ∀ cost ∈ schedule, 0 < cost := by
  refine ⟨pos_of_scheduleRefusal?_eq_none, fun h => ?_⟩
  have hany : schedule.any (· < 1) = false := by
    rw [List.any_eq_false]
    intro cost hcost
    have := h cost hcost
    simp only [decide_eq_true_eq]
    omega
  rw [scheduleRefusal?, hany]
  rfl

theorem firstRepeated?_eq_none_iff {seen keys : List String} :
    firstRepeated? seen keys = none ↔ keys.Nodup ∧ ∀ key ∈ keys, key ∉ seen := by
  refine ⟨nodup_of_firstRepeated?_eq_none, ?_⟩
  induction keys generalizing seen with
  | nil => exact fun _ => rfl
  | cons key keys ih =>
    rintro ⟨hnodup, hfresh⟩
    obtain ⟨hkey, hkeys⟩ := List.nodup_cons.mp hnodup
    have hnew : seen.contains key = false := by
      simpa using hfresh key List.mem_cons_self
    rw [firstRepeated?, hnew]
    refine ih ⟨hkeys, fun other hother hmem => ?_⟩
    obtain rfl | hmem := List.mem_cons.mp hmem
    · exact hkey hother
    · exact hfresh other (List.mem_cons_of_mem key hother) hmem

theorem repeatRefusal?_eq_none_iff {c : Content} :
    repeatRefusal? c = none ↔ (c.ids.map Text.upper).Nodup := by
  simp [repeatRefusal?, firstRepeated?_eq_none_iff]

/-! ### Reading content -/

/-- What stands under ids is told by the ids that it has. -/
theorem eq_map_of_spellsTable {α : Type} {idOf : α → String} {spells : String → Entries → α → Prop}
    (hid : ∀ id e a, spells id e a → idOf a = id) {d : Document} {found : List (String × α)}
    (h : d.SpellsTable (fun id => Document.SpellsFields (spells id)) found) :
    found = (found.map Prod.snd).map fun a => (idOf a, a) := by
  have hfound : ∀ p ∈ found, idOf p.2 = p.1 := by
    cases h with
    | table hall | mixed hall =>
      induction hall with
      | nil => exact nofun
      | cons hfirst _ ih =>
        obtain ⟨-, e, -, hspells⟩ := hfirst
        exact List.forall_mem_cons.mpr ⟨hid _ e _ hspells, ih⟩
  rw [List.map_map]
  conv_lhs => rw [← List.map_id found]
  exact List.map_congr_left fun p hp => Prod.ext (hfound p hp).symm rfl

theorem reads_entriesUnderIds {α : Type} {what : String} {entry : String → Shape α}
    {idOf : α → String} {spells : String → Entries → α → Prop} {rule : α → Prop}
    (h : ∀ id, Reads (entry id) (Document.SpellsFields (spells id)) rule)
    (hid : ∀ id e a, spells id e a → idOf a = id) :
    Reads (entriesUnderIds what entry) (SpellsUnderIds idOf spells) fun as =>
      ∀ a ∈ as, isId (idOf a) ∧ rule a := by
  have hids (found : List (String × α)) :
      idRefusal? what (found.map Prod.fst) = none ↔ ∀ id ∈ found.map Prod.fst, isId id :=
    idRefusal?_eq_none_iff
  have htable := (Reads.mappingOf h).guarded hids
  constructor
  · intro d as hs bs
    have hrules : ((∀ p ∈ as.map fun a => (idOf a, a), rule p.2) ∧
        ∀ id ∈ (as.map fun a => (idOf a, a)).map Prod.fst, isId id) ↔
          ∀ a ∈ as, isId (idOf a) ∧ rule a := by
      simp only [List.map_map, List.forall_mem_map, Function.comp_apply]
      exact ⟨fun ⟨hrule, hids⟩ a ha => ⟨hids a ha, hrule a ha⟩,
        fun hboth => ⟨fun a ha => (hboth a ha).2, fun a ha => (hboth a ha).1⟩⟩
    have hsnd : (as.map fun a => (idOf a, a)).map Prod.snd = as := by
      simp [Function.comp_def]
    simp only [entriesUnderIds, Checked.map_eq_ok_iff, htable.eq_ok_iff hs, hrules]
    constructor
    · rintro ⟨found, ⟨rfl, hall⟩, rfl⟩
      exact ⟨hsnd, hall⟩
    · rintro ⟨rfl, hall⟩
      exact ⟨_, ⟨rfl, hall⟩, hsnd⟩
  · intro d bs hx
    obtain ⟨found, hfound, rfl⟩ := Checked.map_eq_ok_iff.mp hx
    have hspells := htable.spelled hfound
    rw [SpellsUnderIds, ← eq_map_of_spellsTable hid hspells]
    exact hspells

/-- A text that may be left out is read from its field. -/
theorem reads_text {name other : String} :
    Reads (fun e : Entries => e.optional name other Shape.text "")
      (fun e => e.HoldsText name other) fun _ => True :=
  Reads.text.optional trivial

theorem reads_skill (id : String) :
    Reads (readSkill id) (Document.SpellsFields (SpellsSkill id)) fun _ => True := by
  refine Reads.model ⟨fun {e s} hs b => ?_, fun {e s} hx => ?_⟩
  · simp only [Checked.apply_eq_ok_iff, Checked.map_eq_ok_iff, reads_text.eq_ok_iff hs.name,
      reads_text.eq_ok_iff hs.description]
    obtain ⟨rfl, -, -⟩ := hs
    constructor
    · rintro ⟨_, _, ⟨_, ⟨rfl, -⟩, rfl⟩, ⟨rfl, -⟩, rfl⟩
      exact ⟨rfl, trivial⟩
    · rintro ⟨rfl, -⟩
      exact ⟨_, _, ⟨_, ⟨rfl, trivial⟩, rfl⟩, ⟨rfl, trivial⟩, rfl⟩
  · simp only [Checked.apply_eq_ok_iff, Checked.map_eq_ok_iff] at hx
    obtain ⟨_, description, ⟨name, hname, rfl⟩, hdescription, rfl⟩ := hx
    exact ⟨rfl, reads_text.spelled hname, reads_text.spelled hdescription⟩

theorem reads_derived (id : String) :
    Reads (readDerived id) (Document.SpellsFields (SpellsDerived id)) fun _ => True := by
  refine Reads.model ⟨fun {e s} hs b => ?_, fun {e s} hx => ?_⟩
  · simp only [Checked.apply_eq_ok_iff, Checked.map_eq_ok_iff, reads_text.eq_ok_iff hs.name,
      reads_text.eq_ok_iff hs.description, Reads.text.required.eq_ok_iff hs.formula]
    obtain ⟨rfl, -, -, -⟩ := hs
    constructor
    · rintro ⟨_, _, ⟨_, _, ⟨_, ⟨rfl, -⟩, rfl⟩, ⟨rfl, -⟩, rfl⟩, ⟨rfl, -⟩, rfl⟩
      exact ⟨rfl, trivial⟩
    · rintro ⟨rfl, -⟩
      exact ⟨_, _, ⟨_, _, ⟨_, ⟨rfl, trivial⟩, rfl⟩, ⟨rfl, trivial⟩, rfl⟩, ⟨rfl, trivial⟩, rfl⟩
  · simp only [Checked.apply_eq_ok_iff, Checked.map_eq_ok_iff] at hx
    obtain ⟨_, formula, ⟨_, description, ⟨name, hname, rfl⟩, hdescription, rfl⟩, hformula, rfl⟩ :=
      hx
    exact ⟨rfl, reads_text.spelled hname, reads_text.spelled hdescription,
      Reads.text.required.spelled hformula⟩

/-- The skills of an attribute may be left out; their ids have to be ids. -/
theorem reads_skills : Reads
    (fun e : Entries => e.optional "skills" "skills" (entriesUnderIds "Skill" readSkill) [])
    (fun e => e.Holds "skills" "skills" (SpellsUnderIds SkillEntry.id SpellsSkill) (some []))
    fun skills => ∀ s ∈ skills, isId s.id :=
  ((reads_entriesUnderIds reads_skill fun _ _ _ h => h.id_eq).of_iff fun _ => by
    simp only [and_true]).optional nofun

theorem reads_attribute (id : String) :
    Reads (readAttribute id) (Document.SpellsFields (SpellsAttribute id)) fun a =>
      ∀ s ∈ a.skills, isId s.id := by
  refine Reads.model ⟨fun {e a} hs b => ?_, fun {e a} hx => ?_⟩
  · simp only [Checked.apply_eq_ok_iff, Checked.map_eq_ok_iff, reads_text.eq_ok_iff hs.name,
      reads_text.eq_ok_iff hs.description, reads_skills.eq_ok_iff hs.skills]
    obtain ⟨rfl, -, -, -⟩ := hs
    constructor
    · rintro ⟨_, _, ⟨_, _, ⟨_, ⟨rfl, -⟩, rfl⟩, ⟨rfl, -⟩, rfl⟩, ⟨rfl, hskills⟩, rfl⟩
      exact ⟨rfl, hskills⟩
    · rintro ⟨rfl, hskills⟩
      exact ⟨_, _, ⟨_, _, ⟨_, ⟨rfl, trivial⟩, rfl⟩, ⟨rfl, trivial⟩, rfl⟩, ⟨rfl, hskills⟩, rfl⟩
  · simp only [Checked.apply_eq_ok_iff, Checked.map_eq_ok_iff] at hx
    obtain ⟨_, skills, ⟨_, description, ⟨name, hname, rfl⟩, hdescription, rfl⟩, hskills, rfl⟩ := hx
    exact ⟨rfl, reads_text.spelled hname, reads_text.spelled hdescription,
      reads_skills.spelled hskills⟩

/-- The attributes of a group may be left out; their ids have to be ids. -/
theorem reads_attributes : Reads
    (fun e : Entries =>
      e.optional "attributes" "attributes" (entriesUnderIds "Attribute" readAttribute) [])
    (fun e => e.Holds "attributes" "attributes"
      (SpellsUnderIds AttributeEntry.id SpellsAttribute) (some []))
    fun attributes => ∀ a ∈ attributes, isId a.id ∧ ∀ s ∈ a.skills, isId s.id :=
  (reads_entriesUnderIds reads_attribute fun _ _ _ h => h.id_eq).optional nofun

theorem reads_group : Reads readGroup (Document.SpellsFields SpellsGroup) fun g =>
    ∀ a ∈ g.attributes, isId a.id ∧ ∀ s ∈ a.skills, isId s.id := by
  refine Reads.model ⟨fun {e g} hs b => ?_, fun {e g} hx => ?_⟩
  · simp only [Checked.apply_eq_ok_iff, Checked.map_eq_ok_iff, reads_text.eq_ok_iff hs.name,
      reads_attributes.eq_ok_iff hs.attributes]
    constructor
    · rintro ⟨_, _, ⟨_, ⟨rfl, -⟩, rfl⟩, ⟨rfl, hattributes⟩, rfl⟩
      exact ⟨rfl, hattributes⟩
    · rintro ⟨rfl, hattributes⟩
      exact ⟨_, _, ⟨_, ⟨rfl, trivial⟩, rfl⟩, ⟨rfl, hattributes⟩, rfl⟩
  · simp only [Checked.apply_eq_ok_iff, Checked.map_eq_ok_iff] at hx
    obtain ⟨_, attributes, ⟨name, hname, rfl⟩, hattributes, rfl⟩ := hx
    exact ⟨reads_text.spelled hname, reads_attributes.spelled hattributes⟩

/-- A schedule may be left out; every step has to cost something. -/
theorem reads_schedule {name other : String} :
    Reads (fun e : Entries => e.optional name other readSchedule [])
      (fun e => e.Holds name other (Document.SpellsList Document.SpellsInt) (some []))
      fun costs => ∀ cost ∈ costs, 0 < cost :=
  ((Reads.int.listOf.guarded fun _ => scheduleRefusal?_eq_none_iff).of_iff fun _ => by
    simp only [implies_true, true_and]).optional nofun

theorem reads_groups : Reads
    (fun e : Entries => e.optional "attributeGroups" "attribute_groups" (Shape.listOf readGroup) [])
    (fun e => e.Holds "attributeGroups" "attribute_groups"
      (Document.SpellsList (Document.SpellsFields SpellsGroup)) (some []))
    fun groups => ∀ g ∈ groups, ∀ a ∈ g.attributes, isId a.id ∧ ∀ s ∈ a.skills, isId s.id :=
  reads_group.listOf.optional nofun

theorem reads_derivedStatistics : Reads
    (fun e : Entries => e.optional "derivedStatistics" "derived_statistics"
      (entriesUnderIds "Derived statistic" readDerived) [])
    (fun e => e.Holds "derivedStatistics" "derived_statistics"
      (SpellsUnderIds DerivedEntry.id SpellsDerived) (some []))
    fun derived => ∀ d ∈ derived, isId d.id :=
  ((reads_entriesUnderIds reads_derived fun _ _ _ h => h.id_eq).of_iff fun _ => by
    simp only [and_true]).optional nofun

/-- What every field of the content is held against, whatever stands in the others. -/
structure KeepsFieldRules (c : Content) : Prop where
  attribute_costs : ∀ cost ∈ c.attributeSchedule, 0 < cost
  skill_costs : ∀ cost ∈ c.skillSchedule, 0 < cost
  groups : ∀ g ∈ c.groups, ∀ a ∈ g.attributes, isId a.id ∧ ∀ s ∈ a.skills, isId s.id
  derived : ∀ d ∈ c.derived, isId d.id

theorem reads_fields : Reads readFields (Document.SpellsFields SpellsContent) KeepsFieldRules := by
  refine Reads.model ⟨fun {e c} hs b => ?_, fun {e c} hx => ?_⟩
  · simp only [Checked.apply_eq_ok_iff, Checked.map_eq_ok_iff, reads_text.eq_ok_iff hs.gameVersion,
      reads_text.eq_ok_iff hs.dataVersion, reads_schedule.eq_ok_iff hs.attributeSchedule,
      reads_schedule.eq_ok_iff hs.skillSchedule, reads_groups.eq_ok_iff hs.groups,
      reads_derivedStatistics.eq_ok_iff hs.derived]
    constructor
    · rintro ⟨_, _, ⟨_, _, ⟨_, _, ⟨_, _, ⟨_, _, ⟨_, ⟨rfl, -⟩, rfl⟩, ⟨rfl, -⟩, rfl⟩,
        ⟨rfl, hattribute⟩, rfl⟩, ⟨rfl, hskill⟩, rfl⟩, ⟨rfl, hgroups⟩, rfl⟩, ⟨rfl, hderived⟩, rfl⟩
      exact ⟨rfl, hattribute, hskill, hgroups, hderived⟩
    · rintro ⟨rfl, hattribute, hskill, hgroups, hderived⟩
      exact ⟨_, _, ⟨_, _, ⟨_, _, ⟨_, _, ⟨_, _, ⟨_, ⟨rfl, trivial⟩, rfl⟩, ⟨rfl, trivial⟩, rfl⟩,
        ⟨rfl, hattribute⟩, rfl⟩, ⟨rfl, hskill⟩, rfl⟩, ⟨rfl, hgroups⟩, rfl⟩, ⟨rfl, hderived⟩, rfl⟩
  · simp only [Checked.apply_eq_ok_iff, Checked.map_eq_ok_iff] at hx
    obtain ⟨_, derived, ⟨_, groups, ⟨_, skillSchedule, ⟨_, attributeSchedule, ⟨_, dataVersion,
      ⟨gameVersion, hgame, rfl⟩, hdata, rfl⟩, hattribute, rfl⟩, hskill, rfl⟩, hgroups, rfl⟩,
      hderived, rfl⟩ := hx
    exact ⟨reads_text.spelled hgame, reads_text.spelled hdata, reads_schedule.spelled hattribute,
      reads_schedule.spelled hskill, reads_groups.spelled hgroups,
      reads_derivedStatistics.spelled hderived⟩

/-- Content is read from what spells it exactly if it is valid. -/
theorem reads_content : Reads Content.read (Document.SpellsFields SpellsContent) IsValid := by
  refine (reads_fields.guarded fun _ => repeatRefusal?_eq_none_iff).of_iff fun c => ?_
  have hids : (∀ id ∈ c.ids, isId id) ↔
      (∀ g ∈ c.groups, ∀ a ∈ g.attributes, isId a.id ∧ ∀ s ∈ a.skills, isId s.id) ∧
        ∀ d ∈ c.derived, isId d.id := by
    simp only [ids, attributes, attributeIds, List.forall_mem_append, List.forall_mem_flatMap,
      List.forall_mem_cons, List.forall_mem_map]
  constructor
  · rintro ⟨⟨hattribute, hskill, hgroups, hderived⟩, hdistinct⟩
    exact ⟨hattribute, hskill, hids.mpr ⟨hgroups, hderived⟩, hdistinct⟩
  · rintro ⟨hattribute, hskill, hall, hdistinct⟩
    obtain ⟨hgroups, hderived⟩ := hids.mp hall
    exact ⟨⟨hattribute, hskill, hgroups, hderived⟩, hdistinct⟩

/-! ### Valid content -/

/-- The ids of all attributes, those of all skills and those of all derived statistics. -/
def declaredIds (c : Content) : List String :=
  c.attributes.map AttributeEntry.id ++
    c.attributes.flatMap (fun a => a.skills.map SkillEntry.id) ++ c.derived.map DerivedEntry.id

theorem ids_perm_declaredIds (c : Content) : c.ids.Perm c.declaredIds :=
  (List.map_append_flatMap_perm c.attributes AttributeEntry.id fun a =>
    a.skills.map SkillEntry.id).symm.append_right _

/-- A text that is not empty, of letters and underscores. -/
theorem isId_iff {id : String} : isId id ↔ id ≠ "" ∧
    ∀ c ∈ id.toList, ('a' ≤ c ∧ c ≤ 'z') ∨ ('A' ≤ c ∧ c ≤ 'Z') ∨ c = '_' := by
  simp only [isId, isIdChar, Token.isLetter, Bool.and_eq_true, Bool.not_eq_true', List.all_eq_true,
    Bool.or_eq_true, decide_eq_true_eq, beq_iff_eq, or_assoc, Bool.eq_false_iff, ne_eq,
    String.isEmpty_iff]

/-- Content is valid if its ids are texts of letters and underscores, all steps of its schedules
cost something and no two of its ids are the same but for letter case. -/
theorem isValid_iff {c : Content} : c.IsValid ↔
    (∀ id ∈ c.declaredIds, id ≠ "" ∧
      ∀ ch ∈ id.toList, ('a' ≤ ch ∧ ch ≤ 'z') ∨ ('A' ≤ ch ∧ ch ≤ 'Z') ∨ ch = '_') ∧
    (∀ cost ∈ c.attributeSchedule ++ c.skillSchedule, 1 ≤ cost) ∧
    c.declaredIds.Pairwise fun s t => ¬ Text.EqualIgnoringCase s t := by
  have hperm := c.ids_perm_declaredIds
  have hids : (∀ id ∈ c.ids, isId id) ↔ ∀ id ∈ c.declaredIds, id ≠ "" ∧
      ∀ ch ∈ id.toList, ('a' ≤ ch ∧ ch ≤ 'z') ∨ ('A' ≤ ch ∧ ch ≤ 'Z') ∨ ch = '_' := by
    simp only [isId_iff, hperm.mem_iff]
  -- among ids, being the same in upper case is being the same but for letter case
  have hdistinct (hall : ∀ id ∈ c.ids, isId id) : (c.ids.map Text.upper).Nodup ↔
      c.declaredIds.Pairwise fun s t => ¬ Text.EqualIgnoringCase s t := by
    rw [(hperm.map Text.upper).nodup_iff, List.Nodup, List.pairwise_map]
    refine List.Pairwise.iff_of_mem fun {s t} hs ht => not_congr (Text.upper_eq_iff ?_ ?_)
    · exact ascii_of_isId (hall s (hperm.mem_iff.mpr hs))
    · exact ascii_of_isId (hall t (hperm.mem_iff.mpr ht))
  constructor
  · rintro ⟨hattribute, hskill, hall, hupper⟩
    exact ⟨hids.mp hall, List.forall_mem_append.mpr ⟨hattribute, hskill⟩,
      (hdistinct hall).mp hupper⟩
  · rintro ⟨hall, hcosts, hpairs⟩
    obtain ⟨hattribute, hskill⟩ := List.forall_mem_append.mp hcosts
    exact ⟨hattribute, hskill, hids.mpr hall, (hdistinct (hids.mpr hall)).mpr hpairs⟩

theorem IsValid.nodup_ids {c : Content} (h : c.IsValid) : c.ids.Nodup := h.distinct.of_map _

end Content

namespace ContentFile

open Content

/-- A document that spells content is accepted exactly if all ids, of whatever kind and in whatever
group, are texts of letters and underscores of which no two are the same but for letter case, and
every step of both schedules costs at least one point; otherwise the content is invalid. What is
accepted is what the document spells, and among its ids every declared one comes once. -/
theorem accepted_iff (source : String) {d : Document} {c : Content}
    (h : d.SpellsFields SpellsContent c) :
    ((∃ found, ofDocument source d = .ok found) ↔
      (∀ id ∈ c.declaredIds, id ≠ "" ∧
        ∀ ch ∈ id.toList, ('a' ≤ ch ∧ ch ≤ 'z') ∨ ('A' ≤ ch ∧ ch ≤ 'Z') ∨ ch = '_') ∧
      (∀ cost ∈ c.attributeSchedule ++ c.skillSchedule, 1 ≤ cost) ∧
      c.declaredIds.Pairwise fun s t => ¬ Text.EqualIgnoringCase s t) ∧
    ((∃ found, ofDocument source d = .ok found) ∨
      ∃ problems, ofDocument source d = .error (.invalid source problems)) ∧
    ∀ found, ofDocument source d = .ok found → found.1 = c ∧
      (∀ id, id ∈ found.1.ids ↔ id ∈ c.declaredIds) ∧
      ∀ id ∈ c.declaredIds, found.1.ids.count id = 1 := by
  have hread := reads_content.eq_ok_iff h
  have hfound {found : Loaded} (hok : ofDocument source d = .ok found) :
      found.1 = c ∧ c.IsValid := by
    unfold ofDocument at hok
    split at hok
    · cases hok
    · rename_i b hb
      cases hok
      exact (hread b).mp hb
  refine ⟨?_, ?_, fun found hok => ?_⟩
  · rw [← isValid_iff]
    constructor
    · rintro ⟨found, hok⟩
      exact (hfound hok).2
    · intro hvalid
      exact ⟨(c, c.remarks source), by rw [ofDocument, (hread c).mpr ⟨rfl, hvalid⟩]⟩
  · cases hresult : Content.read d with
    | ok b => exact .inl ⟨(b, b.remarks source), by rw [ofDocument, hresult]⟩
    | error problems => exact .inr ⟨problems, by rw [ofDocument, hresult]⟩
  · obtain ⟨rfl, hvalid⟩ := hfound hok
    have hmem (id : String) : id ∈ found.1.ids ↔ id ∈ found.1.declaredIds :=
      (ids_perm_declaredIds found.1).mem_iff
    refine ⟨rfl, hmem, fun id hid => ?_⟩
    exact List.count_eq_one_of_mem hvalid.nodup_ids ((hmem id).mpr hid)

/-- Content with a schedule and a statistic of every kind, one of them under the given id. -/
def paladinContent (id : String) : Content :=
  { Content.empty with
    attributeSchedule := [2, 1]
    groups := [⟨"", [⟨"str", "", "", [⟨"long_jump", "", ""⟩]⟩]⟩]
    derived := [⟨id, "", "", "10"⟩] }

/-- A document of this content, in which a truth value stands for a one. -/
def paladinDocument (id : String) : Document :=
  .table [
    ("attribute_level_up_points", .list [.int 2, .bool true]),
    ("attributeGroups", .list [.table [("attributes",
      .table [("str", .table [("skills", .table [("long_jump", .table [])])])])]]),
    ("derivedStatistics", .table [(id, .table [("formula", .text "10")])])]

theorem spells_paladinContent (id : String) :
    (paladinDocument id).SpellsFields SpellsContent (paladinContent id) := by
  have hskill : SpellsSkill "long_jump" [] ⟨"long_jump", "", ""⟩ := ⟨rfl, rfl, rfl⟩
  have hattribute : SpellsAttribute "str" [("skills", .table [("long_jump", .table [])])]
      ⟨"str", "", "", [⟨"long_jump", "", ""⟩]⟩ :=
    ⟨rfl, rfl, rfl, .table (.cons ⟨rfl, _, rfl, hskill⟩ .nil)⟩
  have hgroup : SpellsGroup [("attributes",
      .table [("str", .table [("skills", .table [("long_jump", .table [])])])])]
      ⟨"", [⟨"str", "", "", [⟨"long_jump", "", ""⟩]⟩]⟩ :=
    ⟨rfl, .table (.cons ⟨rfl, _, rfl, hattribute⟩ .nil)⟩
  have hderived : SpellsDerived id [("formula", .text "10")] ⟨id, "", "", "10"⟩ :=
    ⟨rfl, rfl, rfl, rfl⟩
  exact ⟨_, rfl, rfl, rfl, ⟨_, rfl, .cons rfl (.cons rfl .nil)⟩, rfl,
    ⟨_, rfl, .cons ⟨_, rfl, hgroup⟩ .nil⟩, .table (.cons ⟨rfl, _, rfl, hderived⟩ .nil)⟩

/-- A new id is accepted, but not the id of an attribute in other letters. -/
theorem accepted_iff_paladin :
    (∃ found, ofDocument "paladin" (paladinDocument "luck") = .ok found ∧
      found.1 = paladinContent "luck" ∧ found.1.ids.count "luck" = 1) ∧
    ∃ problems, ofDocument "paladin" (paladinDocument "sTR") =
      .error (.invalid "paladin" problems) := by
  obtain ⟨hluck, -, hfound⟩ := accepted_iff "paladin" (spells_paladinContent "luck")
  obtain ⟨hstr, hcases, -⟩ := accepted_iff "paladin" (spells_paladinContent "sTR")
  constructor
  · have hids : ∀ id ∈ (paladinContent "luck").declaredIds, isId id := by decide
    obtain ⟨found, hok⟩ := hluck.mpr
      ⟨fun id hid => isId_iff.mp (hids id hid), by decide, by decide⟩
    obtain ⟨hcontent, -, honce⟩ := hfound found hok
    exact ⟨found, hok, hcontent, honce "luck" (by decide)⟩
  · refine hcases.resolve_left fun hok => ?_
    exact absurd (hstr.mp hok).2.2 (by decide)

end ContentFile

end Tabletop
