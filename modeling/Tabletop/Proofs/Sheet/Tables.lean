import Mathlib.Data.List.Flatten
import Mathlib.Data.List.Nodup
import Mathlib.Data.List.Pairwise
import Tabletop.Proofs.Sheet.Tracks

/-!
# Sheets as tables

A sheet can be kept in tables by id: one for each kind of statistic and one for all of them, filled
by going through the content and putting every statistic under its id, in the place of whatever was
there. The ids of valid content differ in more than letter case, so nothing is ever replaced. The
tables then hold just what the content declares, in the order in which it does, and looking up an id
finds what was declared under it in any letter case.
-/
namespace Tabletop

/-- Entries under keys, in the order in which the keys came. -/
abbrev Table (α : Type) := List (String × α)

namespace Table

variable {α β : Type}

def keys (t : Table α) : List String := t.map Prod.fst

/-- Put something under a key, in the place of what is there. -/
def put : Table α → String → α → Table α
  | [], key, a => [(key, a)]
  | entry :: rest, key, a =>
      if entry.1 = key then (key, a) :: rest else entry :: put rest key a

/-- Put one entry after the other. -/
def putAll (t : Table α) (entries : Table α) : Table α :=
  entries.foldl (fun t entry => t.put entry.1 entry.2) t

/-- A new key comes last. -/
theorem put_of_not_mem {t : Table α} {key : String} (h : key ∉ t.keys) (a : α) :
    t.put key a = t ++ [(key, a)] := by
  induction t with
  | nil => rfl
  | cons entry rest ih =>
    simp only [keys, List.map_cons, List.mem_cons, not_or] at h
    rw [put, if_neg (Ne.symm h.1), ih h.2]
    rfl

/-- Entries under new and different keys replace nothing. -/
theorem putAll_of_nodup {t entries : Table α} (h : (t.keys ++ entries.keys).Nodup) :
    t.putAll entries = t ++ entries := by
  induction entries generalizing t with
  | nil => exact (List.append_nil t).symm
  | cons entry rest ih =>
    have hnew : entry.1 ∉ t.keys := by
      intro hmem
      exact (List.nodup_append.mp h).2.2 _ hmem _ List.mem_cons_self rfl
    have hrest : ((t ++ [entry]).keys ++ keys rest).Nodup := by
      simpa [keys] using h
    rw [putAll, List.foldl_cons, put_of_not_mem hnew]
    exact (ih hrest).trans (List.append_assoc t [entry] rest)

theorem putAll_append (t entries more : Table α) :
    t.putAll (entries ++ more) = (t.putAll entries).putAll more :=
  List.foldl_append

/-- A walk that puts entries into a table at every step puts all of them, one after the other. -/
theorem foldl_putAll {τ : Type} (table : τ → Table α) (step : τ → β → τ) (entries : β → Table α)
    (h : ∀ t x, table (step t x) = (table t).putAll (entries x)) (xs : List β) (t : τ) :
    table (xs.foldl step t) = (table t).putAll (xs.flatMap entries) := by
  induction xs generalizing t with
  | nil => rfl
  | cons x xs ih => rw [List.foldl_cons, ih, h, List.flatMap_cons, putAll_append]

/-- A walk that leaves a part alone at every step leaves it alone. -/
theorem foldl_eq_of_step {τ γ : Type} (part : τ → γ) (step : τ → β → τ)
    (h : ∀ t x, part (step t x) = part t) (xs : List β) (t : τ) :
    part (xs.foldl step t) = part t := by
  induction xs generalizing t with
  | nil => rfl
  | cons x xs ih => rw [List.foldl_cons, ih, h]

/-- Under different keys a key leads to its own entry and nothing else. -/
theorem lookup_eq_some_iff {t : Table α} (h : t.keys.Nodup) {key : String} {a : α} :
    t.lookup key = some a ↔ (key, a) ∈ t := by
  induction t with
  | nil => simp
  | cons entry rest ih =>
    obtain ⟨first, b⟩ := entry
    obtain ⟨hfirst, hrest⟩ := List.nodup_cons.mp h
    by_cases hkey : key = first
    · subst hkey
      have hnot : (key, a) ∉ rest := fun hmem => hfirst (List.mem_map.mpr ⟨_, hmem, rfl⟩)
      simp [hnot, eq_comm]
    · rw [List.lookup_cons, beq_false_of_ne hkey]
      simp only [List.mem_cons, Prod.mk.injEq, hkey, false_and, false_or]
      exact ih hrest

end Table

/-! ### Filling the tables -/

/-- The tables of a sheet. A skill stands with the attribute that owns it. -/
structure Tables where
  attributes : Table Attribute
  skills : Table (Attribute × Skill)
  derived : Table Derived
  stats : Table Statistic

namespace Tables

open Sheet

def empty : Tables := ⟨[], [], [], []⟩

/-- The skills of an attribute, put into a table of its own. -/
def ownSkills (c : Content) (e : AttributeEntry) : Table Skill :=
  e.skills.foldl (fun t s => t.put (Text.upper s.id) (skillOf c.skillSchedule s)) []

/-- An attribute with its own table of skills. -/
def ownerOf (c : Content) (e : AttributeEntry) : Attribute :=
  { attributeOf c e with skills := (ownSkills c e).map Prod.snd }

def addSkill (owner : Attribute) (schedule : List Int) (t : Tables) (e : SkillEntry) : Tables :=
  let s := skillOf schedule e
  { t with
    skills := t.skills.put s.id (owner, s)
    stats := t.stats.put s.id (.ofSkill owner s) }

/-- Add an attribute after its skills. -/
def addAttribute (c : Content) (t : Tables) (e : AttributeEntry) : Tables :=
  let a := ownerOf c e
  let t := e.skills.foldl (addSkill a c.skillSchedule) t
  { t with
    attributes := t.attributes.put a.id a
    stats := t.stats.put a.id (.ofAttribute a) }

def addDerived (t : Tables) (e : DerivedEntry) : Tables :=
  let d := derivedOf e
  { t with
    derived := t.derived.put d.id d
    stats := t.stats.put d.id (.ofDerived d) }

/-- The tables of content, group by group and then the derived statistics. -/
def build (c : Content) : Tables :=
  let t := c.groups.foldl (fun t g => g.attributes.foldl (addAttribute c) t) empty
  c.derived.foldl addDerived t

end Tables

/-! ### What content declares -/

namespace Content

open Sheet

/-- The content declares a statistic under an id, as it is written there. -/
inductive Declares (c : Content) : String → Statistic → Prop
  | ofAttribute {a : AttributeEntry} (h : a ∈ c.attributes) :
      Declares c a.id (.ofAttribute (attributeOf c a))
  | ofSkill {a : AttributeEntry} {s : SkillEntry} (ha : a ∈ c.attributes) (hs : s ∈ a.skills) :
      Declares c s.id (.ofSkill (attributeOf c a) (skillOf c.skillSchedule s))
  | ofDerived {d : DerivedEntry} (h : d ∈ c.derived) : Declares c d.id (.ofDerived (derivedOf d))

variable {c : Content}

theorem Declares.id_eq {id : String} {stat : Statistic} (h : c.Declares id stat) :
    stat.id = Text.upper id := by
  cases h <;> rfl

theorem Declares.mem_ids {id : String} {stat : Statistic} (h : c.Declares id stat) :
    id ∈ c.ids := by
  cases h with
  | @ofAttribute a h =>
    exact List.mem_append_left _ (List.mem_flatMap.mpr ⟨a, h, List.mem_cons_self⟩)
  | @ofSkill a s ha hs =>
    exact List.mem_append_left _
      (List.mem_flatMap.mpr ⟨a, ha, List.mem_cons_of_mem _ (List.mem_map_of_mem hs)⟩)
  | @ofDerived d h => exact List.mem_append_right _ (List.mem_map_of_mem h)

/-- A new sheet has what the content declares. -/
theorem mem_statistics_ofContent {stat : Statistic} :
    stat ∈ (ofContent c).statistics ↔ ∃ id, c.Declares id stat := by
  constructor
  · intro h
    rcases List.mem_append.mp h with hfamily | hderived
    · obtain ⟨_, howner, hstat⟩ := List.mem_flatMap.mp hfamily
      obtain ⟨a, ha, rfl⟩ := List.mem_map.mp howner
      rcases List.mem_append.mp hstat with hskill | hself
      · obtain ⟨_, hown, rfl⟩ := List.mem_map.mp hskill
        obtain ⟨s, hs, rfl⟩ := List.mem_map.mp hown
        exact ⟨s.id, .ofSkill ha hs⟩
      · obtain rfl := List.mem_singleton.mp hself
        exact ⟨a.id, .ofAttribute ha⟩
    · obtain ⟨_, hentry, rfl⟩ := List.mem_map.mp hderived
      obtain ⟨d, hd, rfl⟩ := List.mem_map.mp hentry
      exact ⟨d.id, .ofDerived hd⟩
  · rintro ⟨id, h⟩
    cases h with
    | @ofAttribute a h =>
      exact List.mem_append_left _ (List.mem_flatMap.mpr
        ⟨_, List.mem_map_of_mem h, List.mem_append_right _ (List.mem_singleton_self _)⟩)
    | @ofSkill a s ha hs =>
      exact List.mem_append_left _ (List.mem_flatMap.mpr
        ⟨_, List.mem_map_of_mem ha, List.mem_append_left _
          (List.mem_map_of_mem (List.mem_map_of_mem hs))⟩)
    | @ofDerived d h =>
      exact List.mem_append_right _ (List.mem_map_of_mem (List.mem_map_of_mem h))

end Content

namespace Sheet

/-- The skills of a sheet, each with the attribute that owns it. -/
def ownedSkills (sheet : Sheet) : List (Attribute × Skill) :=
  sheet.attributes.flatMap fun a => a.skills.map fun s => (a, s)

/-- All statistics of a sheet, kind by kind. -/
theorem statistics_perm (sheet : Sheet) :
    sheet.statistics.Perm (sheet.attributes.map Statistic.ofAttribute ++
      sheet.ownedSkills.map (fun (a, s) => Statistic.ofSkill a s) ++
      sheet.derived.map Statistic.ofDerived) := by
  have hskills : sheet.ownedSkills.map (fun (a, s) => Statistic.ofSkill a s) =
      sheet.attributes.flatMap fun a => a.skills.map (Statistic.ofSkill a) := by
    simp [ownedSkills, List.map_flatMap, Function.comp_def]
  have hself : sheet.attributes.map Statistic.ofAttribute =
      sheet.attributes.flatMap fun a => [Statistic.ofAttribute a] :=
    (List.flatMap_pure_eq_map _ _).symm
  rw [hskills, hself]
  refine List.Perm.append ?_ (List.Perm.refl _)
  exact (List.flatMap_append_perm _ _ _).symm.trans List.perm_append_comm

/-- The ids of all statistics, kind by kind. -/
def idsByKind (sheet : Sheet) : List String :=
  sheet.attributes.map Attribute.id ++ sheet.ownedSkills.map (fun (_, s) => s.id) ++
    sheet.derived.map Derived.id

theorem ids_perm (sheet : Sheet) : (sheet.statistics.map Statistic.id).Perm sheet.idsByKind := by
  have hperm := sheet.statistics_perm.map Statistic.id
  simp only [List.map_append, List.map_map] at hperm
  exact hperm

/-- No two statistics of valid content have the same id, of whatever kind they are. -/
theorem nodup_idsByKind {c : Content} (h : c.IsValid) : (ofContent c).idsByKind.Nodup := by
  have hkeys : (ofContent c).idsByKind =
      c.attributeKeys ++ c.skillKeys ++ (c.derived.map DerivedEntry.id).map Text.upper := by
    simp [idsByKind, ofContent, ownedSkills, Content.attributeKeys, Content.skillKeys,
      List.map_flatMap, List.flatMap_map, Function.comp_def, attributeOf, skillOf, derivedOf]
  have hids := c.keys_perm.append_right ((c.derived.map DerivedEntry.id).map Text.upper)
  rw [← List.map_append] at hids
  rw [hkeys]
  exact hids.nodup_iff.mpr h.distinct

theorem nodup_ids_ofContent {c : Content} (h : c.IsValid) :
    ((ofContent c).statistics.map Statistic.id).Nodup :=
  (ofContent c).ids_perm.nodup_iff.mpr (nodup_idsByKind h)

end Sheet

/-! ### What the tables hold -/

namespace Tables

open Sheet Content

variable {c : Content}

/-! #### Filling -/

theorem ownSkills_eq (h : c.IsValid) {e : AttributeEntry} (he : e ∈ c.attributes) :
    ownSkills c e = e.skills.map fun s => (Text.upper s.id, skillOf c.skillSchedule s) := by
  have hall : c.skillKeys.Nodup := (List.nodup_append.mp h.keys_nodup).2.1
  have hown : (e.skills.map fun s => Text.upper s.id).Nodup := (List.nodup_flatMap.mp hall).1 e he
  have hput : ownSkills c e =
      Table.putAll [] (e.skills.map fun s => (Text.upper s.id, skillOf c.skillSchedule s)) := by
    rw [Table.putAll, List.foldl_map]
    rfl
  rw [hput, Table.putAll_of_nodup, List.nil_append]
  simpa [Table.keys, Function.comp_def] using hown

theorem ownerOf_eq (h : c.IsValid) {e : AttributeEntry} (he : e ∈ c.attributes) :
    ownerOf c e = attributeOf c e := by
  rw [ownerOf, ownSkills_eq h he, List.map_map]
  rfl

/-- What is put into the table of all statistics for an attribute. -/
def familyEntries (c : Content) (e : AttributeEntry) : Table Statistic :=
  e.skills.map (fun s => (Text.upper s.id, .ofSkill (ownerOf c e) (skillOf c.skillSchedule s))) ++
    [(Text.upper e.id, .ofAttribute (ownerOf c e))]

/-- What is put into the table of skills for an attribute. -/
def skillEntries (c : Content) (e : AttributeEntry) : Table (Attribute × Skill) :=
  e.skills.map fun s => (Text.upper s.id, ownerOf c e, skillOf c.skillSchedule s)

theorem stats_addAttribute (t : Tables) (e : AttributeEntry) :
    (addAttribute c t e).stats = t.stats.putAll (familyEntries c e) := by
  have hskills := Table.foldl_putAll Tables.stats (addSkill (ownerOf c e) c.skillSchedule)
    (fun s => [(Text.upper s.id, .ofSkill (ownerOf c e) (skillOf c.skillSchedule s))])
    (fun _ _ => rfl) e.skills t
  rw [← List.map_eq_flatMap] at hskills
  rw [familyEntries, Table.putAll_append, ← hskills]
  rfl

theorem skills_addAttribute (t : Tables) (e : AttributeEntry) :
    (addAttribute c t e).skills = t.skills.putAll (skillEntries c e) := by
  have hskills := Table.foldl_putAll Tables.skills (addSkill (ownerOf c e) c.skillSchedule)
    (fun s => [(Text.upper s.id, ownerOf c e, skillOf c.skillSchedule s)])
    (fun _ _ => rfl) e.skills t
  rwa [← List.map_eq_flatMap] at hskills

theorem attributes_addAttribute (t : Tables) (e : AttributeEntry) :
    (addAttribute c t e).attributes = t.attributes.putAll [(Text.upper e.id, ownerOf c e)] :=
  congrArg (fun t => Table.put t (Text.upper e.id) (ownerOf c e))
    (Table.foldl_eq_of_step Tables.attributes (addSkill (ownerOf c e) c.skillSchedule)
      (fun _ _ => rfl) e.skills t)

theorem derived_addAttribute (t : Tables) (e : AttributeEntry) :
    (addAttribute c t e).derived = t.derived :=
  Table.foldl_eq_of_step Tables.derived (addSkill (ownerOf c e) c.skillSchedule)
    (fun _ _ => rfl) e.skills t

theorem build_eq_foldl (c : Content) :
    build c = c.derived.foldl addDerived (c.attributes.foldl (addAttribute c) empty) := by
  rw [build, Content.attributes, List.foldl_flatMap]

theorem attributes_build (c : Content) : (build c).attributes =
    Table.putAll [] (c.attributes.map fun e => (Text.upper e.id, ownerOf c e)) := by
  rw [build_eq_foldl, Table.foldl_eq_of_step Tables.attributes addDerived (fun _ _ => rfl),
    Table.foldl_putAll Tables.attributes (addAttribute c) _ attributes_addAttribute,
    ← List.map_eq_flatMap]
  rfl

theorem skills_build (c : Content) : (build c).skills =
    Table.putAll [] (c.attributes.flatMap (skillEntries c)) := by
  rw [build_eq_foldl, Table.foldl_eq_of_step Tables.skills addDerived (fun _ _ => rfl),
    Table.foldl_putAll Tables.skills (addAttribute c) _ skills_addAttribute]
  rfl

theorem derived_build (c : Content) : (build c).derived =
    Table.putAll [] (c.derived.map fun e => (Text.upper e.id, derivedOf e)) := by
  rw [build_eq_foldl, Table.foldl_putAll Tables.derived addDerived
      (fun e => [(Text.upper e.id, derivedOf e)]) (fun _ _ => rfl),
    Table.foldl_eq_of_step Tables.derived (addAttribute c) derived_addAttribute,
    ← List.map_eq_flatMap]
  rfl

theorem stats_build (c : Content) : (build c).stats =
    Table.putAll [] (c.attributes.flatMap (familyEntries c) ++
      c.derived.map fun e => (Text.upper e.id, .ofDerived (derivedOf e))) := by
  rw [build_eq_foldl, Table.foldl_putAll Tables.stats addDerived
      (fun e => [(Text.upper e.id, .ofDerived (derivedOf e))]) (fun _ _ => rfl),
    Table.foldl_putAll Tables.stats (addAttribute c) _ stats_addAttribute, ← Table.putAll_append,
    ← List.map_eq_flatMap]
  rfl

/-! #### Nothing is replaced -/

/-- Entries under the ids of valid content, with their ids as keys. -/
theorem stats_eq (h : c.IsValid) :
    (build c).stats = (ofContent c).statistics.map fun stat => (stat.id, stat) := by
  have hentries : c.attributes.flatMap (familyEntries c) ++
      c.derived.map (fun e => (Text.upper e.id, Statistic.ofDerived (derivedOf e))) =
        (ofContent c).statistics.map fun stat => (stat.id, stat) := by
    simp only [statistics, ofContent, List.map_append, List.map_flatMap, List.flatMap_map,
      List.map_map]
    refine congrArg₂ (· ++ ·) ?_ rfl
    rw [List.flatMap_def, List.flatMap_def, List.map_congr_left fun e he => ?_]
    simp [familyEntries, ownerOf_eq h he, family, attributeOf, skillOf, Statistic.id]
  rw [stats_build, hentries, Table.putAll_of_nodup, List.nil_append]
  simpa [Table.keys, Function.comp_def] using nodup_ids_ofContent h

theorem attributes_eq (h : c.IsValid) :
    (build c).attributes = (ofContent c).attributes.map fun a => (a.id, a) := by
  have hentries : c.attributes.map (fun e => (Text.upper e.id, ownerOf c e)) =
      (ofContent c).attributes.map fun a => (a.id, a) := by
    rw [ofContent, List.map_map, List.map_congr_left fun e he => ?_]
    rw [ownerOf_eq h he]
    rfl
  have hids := (List.nodup_append.mp (List.nodup_append.mp (nodup_idsByKind h)).1).1
  rw [attributes_build, hentries, Table.putAll_of_nodup, List.nil_append]
  simpa [Table.keys, Function.comp_def] using hids

theorem skills_eq (h : c.IsValid) :
    (build c).skills = (ofContent c).ownedSkills.map fun (a, s) => (s.id, a, s) := by
  have hentries : c.attributes.flatMap (skillEntries c) =
      (ofContent c).ownedSkills.map fun (a, s) => (s.id, a, s) := by
    simp only [ofContent, ownedSkills, List.map_flatMap, List.flatMap_map, List.map_map]
    rw [List.flatMap_def, List.flatMap_def, List.map_congr_left fun e he => ?_]
    simp [skillEntries, ownerOf_eq h he, attributeOf, skillOf]
  have hids := (List.nodup_append.mp (List.nodup_append.mp (nodup_idsByKind h)).1).2.1
  rw [skills_build, hentries, Table.putAll_of_nodup, List.nil_append]
  simpa [Table.keys, Function.comp_def] using hids

theorem derived_eq (h : c.IsValid) :
    (build c).derived = (ofContent c).derived.map fun d => (d.id, d) := by
  have hids := (List.nodup_append.mp (nodup_idsByKind h)).2.1
  have hentries : c.derived.map (fun e => (Text.upper e.id, derivedOf e)) =
      (ofContent c).derived.map fun d => (d.id, d) := by
    rw [ofContent, List.map_map]
    rfl
  rw [derived_build, hentries, Table.putAll_of_nodup, List.nil_append]
  simpa [Table.keys, Function.comp_def] using hids

/-! #### Looking up -/

/-- The statistic stands under the key among all statistics and in the table of its kind. -/
def Holds (t : Tables) (key : String) : Statistic → Prop
  | .ofAttribute a => t.stats.lookup key = some (.ofAttribute a) ∧ t.attributes.lookup key = some a
  | .ofSkill owner s =>
      t.stats.lookup key = some (.ofSkill owner s) ∧ t.skills.lookup key = some (owner, s)
  | .ofDerived d => t.stats.lookup key = some (.ofDerived d) ∧ t.derived.lookup key = some d

/-- The tables hold what the content declares, everything once and nothing else. -/
structure AreOf (t : Tables) (c : Content) : Prop where
  holds : ∀ id stat, c.Declares id stat → t.Holds (Text.upper id) stat
  declared : ∀ key stat, (key, stat) ∈ t.stats → ∃ id, c.Declares id stat ∧ Text.upper id = key
  keys_nodup : t.stats.keys.Nodup
  kinds_nodup : (t.attributes.keys ++ t.skills.keys ++ t.derived.keys).Nodup
  kinds_perm : t.stats.Perm (t.attributes.map (fun (key, a) => (key, .ofAttribute a)) ++
    t.skills.map (fun (key, owner, s) => (key, .ofSkill owner s)) ++
    t.derived.map fun (key, d) => (key, .ofDerived d))
  owner : ∀ key owner s, (key, owner, s) ∈ t.skills → (owner.id, owner) ∈ t.attributes ∧
    s ∈ owner.skills ∧ ∀ key' a, (key', a) ∈ t.attributes →
      ((∃ s' ∈ a.skills, s'.id = key) ↔ a = owner)

theorem keys_nodup (h : c.IsValid) : (build c).stats.keys.Nodup := by
  rw [stats_eq h]
  simpa [Table.keys, Function.comp_def] using nodup_ids_ofContent h

theorem lookup_stats (h : c.IsValid) (key : String) :
    (build c).stats.lookup key = (ofContent c).statistic? key := by
  rw [stats_eq h, statistic?]
  induction (ofContent c).statistics with
  | nil => rfl
  | cons stat rest ih =>
    rw [List.map_cons, List.lookup_cons, List.find?_cons, ih, Bool.beq_comm]

theorem mem_stats_iff (h : c.IsValid) {key : String} {stat : Statistic} :
    (key, stat) ∈ (build c).stats ↔ ∃ id, c.Declares id stat ∧ Text.upper id = key := by
  rw [stats_eq h, List.mem_map]
  constructor
  · rintro ⟨stat, hstat, heq⟩
    cases heq
    obtain ⟨id, hid⟩ := mem_statistics_ofContent.mp hstat
    exact ⟨id, hid, hid.id_eq.symm⟩
  · rintro ⟨id, hid, rfl⟩
    exact ⟨stat, mem_statistics_ofContent.mpr ⟨id, hid⟩, by rw [hid.id_eq]⟩

theorem holds_of_declares (h : c.IsValid) {id : String} {stat : Statistic}
    (hid : c.Declares id stat) : (build c).Holds (Text.upper id) stat := by
  obtain ⟨⟨hattributes, hskills, -⟩, hderived, -⟩ :=
    List.nodup_append.mp (nodup_idsByKind h) |>.imp_left List.nodup_append.mp
  have hall : (build c).stats.lookup (Text.upper id) = some stat :=
    (Table.lookup_eq_some_iff (keys_nodup h)).mpr ((mem_stats_iff h).mpr ⟨id, hid, rfl⟩)
  cases hid with
  | @ofAttribute a ha =>
    refine ⟨hall, ?_⟩
    rw [attributes_eq h, Table.lookup_eq_some_iff (by simpa [Table.keys, Function.comp_def])]
    exact List.mem_map.mpr ⟨attributeOf c a, List.mem_map_of_mem ha, rfl⟩
  | @ofSkill a s ha hs =>
    refine ⟨hall, ?_⟩
    rw [skills_eq h, Table.lookup_eq_some_iff (by simpa [Table.keys, Function.comp_def])]
    refine List.mem_map.mpr ⟨(attributeOf c a, skillOf c.skillSchedule s), ?_, rfl⟩
    exact List.mem_flatMap.mpr ⟨attributeOf c a, List.mem_map_of_mem ha,
      List.mem_map_of_mem (List.mem_map_of_mem hs)⟩
  | @ofDerived d hd =>
    refine ⟨hall, ?_⟩
    rw [derived_eq h, Table.lookup_eq_some_iff (by simpa [Table.keys, Function.comp_def])]
    exact List.mem_map.mpr ⟨derivedOf d, List.mem_map_of_mem hd, rfl⟩

/-- Only the owner of a skill has it among its own. -/
theorem exists_skill_iff (h : c.IsValid) {owner a : Attribute} {s : Skill}
    (howner : owner ∈ (ofContent c).attributes) (hs : s ∈ owner.skills)
    (ha : a ∈ (ofContent c).attributes) : (∃ s' ∈ a.skills, s'.id = s.id) ↔ a = owner := by
  constructor
  · rintro ⟨s', hs', hid⟩
    by_contra hne
    have hids : ((ofContent c).attributes.flatMap fun a => a.skills.map Skill.id).Nodup := by
      have hall := (List.nodup_append.mp (List.nodup_append.mp (nodup_idsByKind h)).1).2.1
      simpa [ownedSkills, List.map_flatMap, Function.comp_def] using hall
    have hsymm :
        Std.Symm (Function.onFun List.Disjoint fun a : Attribute => a.skills.map Skill.id) :=
      ⟨fun _ _ hdisjoint _ hleft hright => hdisjoint hright hleft⟩
    have hapart := (List.nodup_flatMap.mp hids).2.forall ha howner hne
    exact hapart (hid ▸ List.mem_map_of_mem hs') (List.mem_map_of_mem hs)
  · rintro rfl
    exact ⟨s, hs, rfl⟩

/-- The tables that valid content fills are those of what it declares. -/
theorem areOf_build (h : c.IsValid) : (build c).AreOf c where
  holds _ _ hid := holds_of_declares h hid
  declared _ _ hmem := (mem_stats_iff h).mp hmem
  keys_nodup := keys_nodup h
  kinds_nodup := by
    rw [attributes_eq h, skills_eq h, derived_eq h]
    simpa [Table.keys, idsByKind, Function.comp_def] using nodup_idsByKind h
  kinds_perm := by
    rw [stats_eq h, attributes_eq h, skills_eq h, derived_eq h]
    have hperm := (ofContent c).statistics_perm.map fun stat => (stat.id, stat)
    simp only [List.map_append, List.map_map] at hperm ⊢
    exact hperm
  owner key owner s hmem := by
    rw [skills_eq h] at hmem
    obtain ⟨⟨_, _⟩, hmem, heq⟩ := List.mem_map.mp hmem
    cases heq
    obtain ⟨a, ha, hskill⟩ := List.mem_flatMap.mp hmem
    obtain ⟨s, hs, heq⟩ := List.mem_map.mp hskill
    cases heq
    rw [attributes_eq h]
    refine ⟨List.mem_map_of_mem ha, hs, fun key' b hentry => ?_⟩
    obtain ⟨b, hb, heq⟩ := List.mem_map.mp hentry
    cases heq
    exact exists_skill_iff h ha hs hb

end Tables

namespace Sheet

open Content

/-- An id is found under every text that equals it but for the case of ASCII letters. -/
theorem find?_ofContent_eq_some_iff {c : Content} (h : c.IsValid) {x : String}
    (hx : x.toList.all fun c => c.toNat < 128) {stat : Statistic} :
    (ofContent c).find? x = some stat ↔
      ∃ id, c.Declares id stat ∧ Text.EqualIgnoringCase id x := by
  rw [find?, ← Tables.lookup_stats h, Table.lookup_eq_some_iff (Tables.keys_nodup h),
    Tables.mem_stats_iff h]
  refine exists_congr fun id => and_congr_right fun hid => ?_
  have hascii : id.toList.all fun c => c.toNat < 128 := by
    have hall := (Bool.and_eq_true_iff.mp (h.ids id hid.mem_ids)).2
    refine List.all_eq_true.mpr fun char hchar => decide_eq_true ?_
    exact toNat_lt_of_isIdChar (List.all_eq_true.mp hall char hchar)
  exact Text.upper_eq_iff hascii hx

/-- A sheet of content that was read has everything that the content declares, once and under its
uppercase id, and it finds by any ASCII text what is declared under that text in any letter case. -/
theorem tables_of_read {d : Document} {c : Content} (h : Content.read d = .ok c) :
    (Tables.build c).AreOf c ∧
      (Tables.build c).stats = (ofContent c).statistics.map (fun stat => (stat.id, stat)) ∧
      ∀ x, (Tables.build c).stats.lookup (Text.upper x) = (ofContent c).find? x ∧
        ((x.toList.all fun c => c.toNat < 128) → ∀ stat, (ofContent c).find? x = some stat ↔
          ∃ id, c.Declares id stat ∧ Text.EqualIgnoringCase id x) := by
  have hc := isValid_of_read h
  refine ⟨Tables.areOf_build hc, Tables.stats_eq hc, fun x => ?_⟩
  exact ⟨Tables.lookup_stats hc _, fun hx stat => find?_ofContent_eq_some_iff hc hx⟩

/-- Content with a statistic of every kind. -/
def wizardContent : Content :=
  { Content.empty with
    groups := [⟨"", [⟨"str", "", "", [⟨"brawl", "", ""⟩]⟩]⟩]
    derived := [⟨"Health", "", "", "10"⟩] }

/-- The document of this content. -/
def wizardDocument : Document :=
  .table [
    ("attributeGroups", .list [.table [("attributes",
      .table [("str", .table [("skills", .table [("brawl", .table [])])])])]]),
    ("derivedStatistics", .table [("Health", .table [("formula", .text "10")])])]

theorem tables_of_read_wizard :
    Content.read wizardDocument = .ok wizardContent ∧
      (Tables.build wizardContent).AreOf wizardContent ∧
      (ofContent wizardContent).find? "hEALTH" =
        some (.ofDerived (derivedOf ⟨"Health", "", "", "10"⟩)) := by
  have hkeys : wizardContent.ids.map Text.upper = ["STR", "BRAWL", "HEALTH"] := by
    have hstr : Text.upper "str" = "STR" := Text.upper_of_ascii (by decide)
    have hbrawl : Text.upper "brawl" = "BRAWL" := Text.upper_of_ascii (by decide)
    have hhealth : Text.upper "Health" = "HEALTH" := Text.upper_of_ascii (by decide)
    simp only [wizardContent, ids, Content.attributes, attributeIds, List.flatMap_cons,
      List.flatMap_nil, List.map_cons, List.map_nil, List.append_nil, List.cons_append,
      List.nil_append, hstr, hbrawl, hhealth]
  have hrepeat : repeatRefusal? wizardContent = none := by
    rw [repeatRefusal?, hkeys]
    decide
  have hread : Content.read wizardDocument = .ok wizardContent :=
    Checked.guarded_eq_ok_iff.mpr ⟨by decide +kernel, hrepeat⟩
  have hdeclares :
      wizardContent.Declares "Health" (.ofDerived (derivedOf ⟨"Health", "", "", "10"⟩)) :=
    .ofDerived (d := ⟨"Health", "", "", "10"⟩) (by decide)
  obtain ⟨hare, -, hfind⟩ := tables_of_read hread
  exact ⟨hread, hare, ((hfind "hEALTH").2 (by decide) _).mpr ⟨"Health", hdeclares, by decide⟩⟩

end Sheet

end Tabletop
