import Mathlib.Data.List.Nodup
import Tabletop.ContentFile
import Tabletop.Proofs.Text.LetterCase

/-!
# Content that was read

Content that was read keeps the rules of content, however the file looks: every step of a schedule
costs something, ids are letters and underscores, and no two of them have the same uppercase form.
-/
namespace Tabletop

namespace Checked

theorem apply_eq_ok_iff {α β : Type} {f : Checked (α → β)} {x : Checked α} {b : β} :
    apply f x = .ok b ↔ ∃ g a, f = .ok g ∧ x = .ok a ∧ g a = b := by
  simp only [apply, map_eq_ok_iff, both_eq_ok_iff, Prod.exists]
  constructor
  · rintro ⟨g, a, ⟨hg, ha⟩, h⟩
    exact ⟨g, a, hg, ha, h⟩
  · rintro ⟨g, a, hg, ha, h⟩
    exact ⟨g, a, ⟨hg, ha⟩, h⟩

@[simp] theorem under_eq_ok_iff {α : Type} {step : Step} {x : Checked α} {a : α} :
    x.under step = .ok a ↔ x = .ok a := by
  cases x <;> simp [under, Except.mapError]

theorem guarded_eq_ok_iff {α : Type} {refusal? : α → Option String} {x : Checked α} {a : α} :
    guarded refusal? x = .ok a ↔ x = .ok a ∧ refusal? a = none := by
  cases x with
  | error problems => simp [guarded, Except.bind]
  | ok b =>
    cases h : refusal? b with
    | none =>
      simp only [guarded, Except.bind, h, Except.ok.injEq]
      exact ⟨fun heq => ⟨heq, heq ▸ h⟩, fun heq => heq.1⟩
    | some reason =>
      simp only [guarded, Except.bind, h, fail, reduceCtorEq, Except.ok.injEq, false_iff]
      rintro ⟨rfl, hnone⟩
      rw [h] at hnone
      cases hnone

theorem mem_of_all_eq_ok {α : Type} {xs : List (Checked α)} {found : List α}
    (h : all xs = .ok found) {a : α} (ha : a ∈ found) : .ok a ∈ xs := by
  rw [all_eq_ok_iff.mp h]
  exact List.mem_map_of_mem ha

end Checked

namespace Shape

/-- What a table of named fields was read as comes from some entries. -/
theorem exists_of_model {α : Type} {fields : Entries → Checked α} {d : Document} {a : α}
    (h : model fields d = .ok a) : ∃ e, fields e = .ok a := by
  unfold model at h
  split at h
  · exact ⟨_, h⟩
  · exact ⟨_, h⟩
  · cases h

/-- What stands in a table under any keys was read as its key says. -/
theorem exists_of_mem_mappingOf {α : Type} {value : String → Shape α} {d : Document}
    {found : List (String × α)} (h : mappingOf value d = .ok found) {entry : String × α}
    (hentry : entry ∈ found) : ∃ d, value entry.1 d = .ok entry.2 := by
  unfold mappingOf at h
  split at h
  · obtain ⟨⟨key, d⟩, -, hd⟩ := List.mem_map.mp (Checked.mem_of_all_eq_ok h hentry)
    simp only [Checked.under_eq_ok_iff, Checked.map_eq_ok_iff] at hd
    obtain ⟨a, ha, rfl⟩ := hd
    exact ⟨d, ha⟩
  · obtain ⟨⟨key, d⟩, -, hd⟩ := List.mem_map.mp (Checked.mem_of_all_eq_ok h hentry)
    simp only [Checked.under_eq_ok_iff, Checked.both_eq_ok_iff] at hd
    obtain ⟨hkey, hvalue⟩ := hd
    cases key with
    | text s =>
      obtain rfl : s = entry.1 := by simpa [text] using hkey
      exact ⟨d, hvalue⟩
    | _ => cases hkey
  · cases h

theorem exists_of_mem_listOf {α : Type} {item : Shape α} {d : Document} {found : List α}
    (h : listOf item d = .ok found) {a : α} (ha : a ∈ found) : ∃ d, item d = .ok a := by
  unfold listOf at h
  split at h
  · obtain ⟨⟨d, i⟩, -, hd⟩ := List.mem_map.mp (Checked.mem_of_all_eq_ok h ha)
    exact ⟨d, Checked.under_eq_ok_iff.mp hd⟩
  · cases h

end Shape

namespace Entries

/-- A field that may be left out has its default value or one that was read. -/
theorem eq_or_exists_of_optional {α : Type} {e : Entries} {name other : String} {shape : Shape α}
    {default a : α} (h : e.optional name other shape default = .ok a) :
    a = default ∨ ∃ d, shape d = .ok a := by
  unfold optional at h
  split at h
  · exact .inr ⟨_, Checked.under_eq_ok_iff.mp h⟩
  · cases h
    exact .inl rfl

end Entries

namespace Content

/-! ### Ids and schedules -/

/-- The rules of content. -/
structure IsValid (c : Content) : Prop where
  attribute_costs : ∀ cost ∈ c.attributeSchedule, 0 < cost
  skill_costs : ∀ cost ∈ c.skillSchedule, 0 < cost
  ids : ∀ id ∈ c.ids, isId id
  distinct : (c.ids.map Text.upper).Nodup

/-- The characters of ids in upper case, which upper case leaves as they are. -/
def IsUpperId (id : String) : Prop := ∀ c ∈ id.toList, isIdChar c ∧ Text.upperChar c = [c]

theorem toNat_lt_of_isIdChar {c : Char} (h : isIdChar c) : c.toNat < 128 := by
  simp only [isIdChar, Token.isLetter, Bool.or_eq_true, Bool.and_eq_true, decide_eq_true_eq,
    Char.le_def, beq_iff_eq] at h
  rcases h with (⟨-, h⟩ | ⟨-, h⟩) | rfl
  · exact Nat.lt_of_le_of_lt (UInt32.le_iff_toNat_le.mp h) (by decide)
  · exact Nat.lt_of_le_of_lt (UInt32.le_iff_toNat_le.mp h) (by decide)
  · decide

theorem ascii_of_isId {id : String} (h : isId id) : id.toList.all fun c => c.toNat < 128 :=
  List.all_eq_true.mpr fun c hc => decide_eq_true
    (toNat_lt_of_isIdChar (List.all_eq_true.mp (Bool.and_eq_true_iff.mp h).2 c hc))

theorem isUpperId_upper {id : String} (h : isId id) : IsUpperId (Text.upper id) := by
  have hall : ∀ n < 128, isIdChar (Char.ofNat n) →
      let d := if 97 ≤ n ∧ n ≤ 122 then Char.ofNat (n - 32) else Char.ofNat n
      isIdChar d ∧ ¬ (97 ≤ d.toNat ∧ d.toNat ≤ 122) := by
    decide +kernel
  intro d hd
  rw [Text.upper, String.toList_ofList] at hd
  obtain ⟨c, hc, hd⟩ := List.mem_flatMap.mp hd
  have hid : isIdChar c := List.all_eq_true.mp (Bool.and_eq_true_iff.mp h).2 c hc
  have hcode := toNat_lt_of_isIdChar hid
  obtain ⟨hchar, hstays⟩ := hall c.toNat hcode (by rwa [Char.ofNat_toNat])
  have hform : d = if 97 ≤ c.toNat ∧ c.toNat ≤ 122 then Char.ofNat (c.toNat - 32)
      else Char.ofNat c.toNat := by
    rw [Text.upperChar_of_ascii hcode] at hd
    split at hd
    · rename_i hsmall
      rw [if_pos hsmall]
      exact List.mem_singleton.mp hd
    · rename_i hother
      rw [if_neg hother, Char.ofNat_toNat]
      exact List.mem_singleton.mp hd
  rw [← hform] at hchar hstays
  refine ⟨hchar, ?_⟩
  rw [Text.upperChar_of_ascii (toNat_lt_of_isIdChar hchar), if_neg hstays]

theorem IsUpperId.upper_eq {id : String} (h : IsUpperId id) : Text.upper id = id :=
  Text.upper_eq_self fun c hc => (h c hc).2

theorem isId_of_idRefusal?_eq_none {what : String} {ids : List String}
    (h : idRefusal? what ids = none) : ∀ id ∈ ids, isId id := by
  intro id hid
  simp only [idRefusal?, Option.map_eq_none_iff, List.find?_eq_none, Bool.not_eq_true',
    Bool.not_eq_false] at h
  exact h id hid

theorem pos_of_scheduleRefusal?_eq_none {schedule : List Int}
    (h : scheduleRefusal? schedule = none) : ∀ cost ∈ schedule, 0 < cost := by
  intro cost hcost
  by_contra hlow
  have hany : schedule.any (· < 1) = true :=
    List.any_eq_true.mpr ⟨cost, hcost, decide_eq_true (by omega)⟩
  rw [scheduleRefusal?, hany] at h
  cases h

theorem nodup_of_firstRepeated?_eq_none {seen keys : List String}
    (h : firstRepeated? seen keys = none) : keys.Nodup ∧ ∀ key ∈ keys, key ∉ seen := by
  induction keys generalizing seen with
  | nil => simp
  | cons key keys ih =>
    rw [firstRepeated?] at h
    split at h
    · cases h
    · rename_i hnew
      obtain ⟨hnodup, hfresh⟩ := ih h
      refine ⟨List.nodup_cons.mpr ⟨fun hmem => hfresh key hmem List.mem_cons_self, hnodup⟩, ?_⟩
      rintro other (_ | ⟨_, hother⟩)
      · simpa using hnew
      · exact fun hmem => hfresh other hother (List.mem_cons_of_mem key hmem)

/-! ### Reading -/

/-- Entries under ids that are named after their keys have ids. -/
theorem isId_of_entriesUnderIds {α : Type} {what : String} {entry : String → Shape α}
    {idOf : α → String} (hid : ∀ id d a, entry id d = .ok a → idOf a = id) {d : Document}
    {found : List α} (h : entriesUnderIds what entry d = .ok found) :
    ∀ a ∈ found, isId (idOf a) := by
  unfold entriesUnderIds at h
  simp only [Checked.map_eq_ok_iff, Checked.guarded_eq_ok_iff] at h
  obtain ⟨pairs, ⟨hpairs, hrefusal⟩, rfl⟩ := h
  intro a ha
  obtain ⟨pair, hpair, rfl⟩ := List.mem_map.mp ha
  obtain ⟨d, hd⟩ := Shape.exists_of_mem_mappingOf hpairs hpair
  rw [hid _ _ _ hd]
  exact isId_of_idRefusal?_eq_none hrefusal _ (List.mem_map_of_mem hpair)

theorem exists_of_entriesUnderIds {α : Type} {what : String} {entry : String → Shape α}
    {d : Document} {found : List α} (h : entriesUnderIds what entry d = .ok found) :
    ∀ a ∈ found, ∃ id d, entry id d = .ok a := by
  unfold entriesUnderIds at h
  simp only [Checked.map_eq_ok_iff, Checked.guarded_eq_ok_iff] at h
  obtain ⟨pairs, ⟨hpairs, -⟩, rfl⟩ := h
  intro a ha
  obtain ⟨pair, hpair, rfl⟩ := List.mem_map.mp ha
  obtain ⟨d, hd⟩ := Shape.exists_of_mem_mappingOf hpairs hpair
  exact ⟨_, d, hd⟩

theorem id_of_readSkill {id : String} {d : Document} {s : SkillEntry}
    (h : readSkill id d = .ok s) : s.id = id := by
  obtain ⟨e, he⟩ := Shape.exists_of_model h
  simp only [Checked.apply_eq_ok_iff, Checked.map_eq_ok_iff] at he
  obtain ⟨g, description, ⟨name, -, rfl⟩, -, rfl⟩ := he
  rfl

theorem id_of_readDerived {id : String} {d : Document} {s : DerivedEntry}
    (h : readDerived id d = .ok s) : s.id = id := by
  obtain ⟨e, he⟩ := Shape.exists_of_model h
  simp only [Checked.apply_eq_ok_iff, Checked.map_eq_ok_iff] at he
  obtain ⟨g, formula, ⟨g', description, ⟨name, -, rfl⟩, -, rfl⟩, -, rfl⟩ := he
  rfl

theorem readAttribute_spec {id : String} {d : Document} {a : AttributeEntry}
    (h : readAttribute id d = .ok a) : a.id = id ∧ ∀ s ∈ a.skills, isId s.id := by
  obtain ⟨e, he⟩ := Shape.exists_of_model h
  simp only [Checked.apply_eq_ok_iff, Checked.map_eq_ok_iff] at he
  obtain ⟨g, skills, ⟨g', description, ⟨name, -, rfl⟩, -, rfl⟩, hskills, rfl⟩ := he
  refine ⟨rfl, ?_⟩
  rcases Entries.eq_or_exists_of_optional hskills with rfl | ⟨d, hd⟩
  · simp
  · exact isId_of_entriesUnderIds (fun _ _ _ => id_of_readSkill) hd

theorem isId_of_readGroup {d : Document} {g : AttributeGroup} (h : readGroup d = .ok g) :
    ∀ a ∈ g.attributes, ∀ id ∈ attributeIds a, isId id := by
  obtain ⟨e, he⟩ := Shape.exists_of_model h
  simp only [Checked.apply_eq_ok_iff, Checked.map_eq_ok_iff] at he
  obtain ⟨g', attributes, ⟨name, -, rfl⟩, hattributes, rfl⟩ := he
  rcases Entries.eq_or_exists_of_optional hattributes with rfl | ⟨d, hd⟩
  · simp
  · intro a ha id hid
    obtain ⟨key, d', hd'⟩ := exists_of_entriesUnderIds hd a ha
    simp only [attributeIds, List.mem_cons, List.mem_map] at hid
    rcases hid with rfl | ⟨s, hs, rfl⟩
    · exact isId_of_entriesUnderIds (fun _ _ _ h => (readAttribute_spec h).1) hd a ha
    · exact (readAttribute_spec hd').2 s hs

theorem pos_of_readSchedule {d : Document} {schedule : List Int}
    (h : readSchedule d = .ok schedule) : ∀ cost ∈ schedule, 0 < cost :=
  pos_of_scheduleRefusal?_eq_none (Checked.guarded_eq_ok_iff.mp h).2

/-- Content that was read is valid. -/
theorem isValid_of_read {d : Document} {c : Content} (h : read d = .ok c) : c.IsValid := by
  obtain ⟨hfields, hrepeat⟩ := Checked.guarded_eq_ok_iff.mp h
  have hdistinct : (c.ids.map Text.upper).Nodup := by
    simp only [repeatRefusal?, Option.map_eq_none_iff] at hrepeat
    exact (nodup_of_firstRepeated?_eq_none hrepeat).1
  obtain ⟨e, he⟩ := Shape.exists_of_model hfields
  simp only [Checked.apply_eq_ok_iff, Checked.map_eq_ok_iff] at he
  obtain ⟨_, derived, ⟨_, groups, ⟨_, skillSchedule, ⟨_, attributeSchedule,
    ⟨_, dataVersion, ⟨gameVersion, -, rfl⟩, -, rfl⟩, hattributeSchedule, rfl⟩, hskillSchedule, rfl⟩,
    hgroups, rfl⟩, hderived, rfl⟩ := he
  refine ⟨?_, ?_, ?_, hdistinct⟩
  · rcases Entries.eq_or_exists_of_optional hattributeSchedule with rfl | ⟨d, hd⟩
    · simp
    · exact pos_of_readSchedule hd
  · rcases Entries.eq_or_exists_of_optional hskillSchedule with rfl | ⟨d, hd⟩
    · simp
    · exact pos_of_readSchedule hd
  · intro id hid
    simp only [ids, attributes, List.mem_append, List.mem_flatMap, List.mem_map] at hid
    rcases hid with ⟨a, ⟨g, hg, ha⟩, hid⟩ | ⟨s, hs, rfl⟩
    · rcases Entries.eq_or_exists_of_optional hgroups with rfl | ⟨d, hd⟩
      · cases hg
      · obtain ⟨d', hd'⟩ := Shape.exists_of_mem_listOf hd hg
        exact isId_of_readGroup hd' a ha id hid
    · rcases Entries.eq_or_exists_of_optional hderived with rfl | ⟨d, hd⟩
      · cases hs
      · exact isId_of_entriesUnderIds (fun _ _ _ => id_of_readDerived) hd s hs

theorem isValid_of_ofText {path : Path} {source : String} {found : ContentFile.Loaded}
    (h : ContentFile.ofText path source = .ok found) : found.1.IsValid := by
  unfold ContentFile.ofText at h
  split at h
  · cases h
  · cases h
  · rename_i d _
    split at h
    · cases hread : read d with
      | error problems =>
        rw [ContentFile.ofDocument, hread] at h
        cases h
      | ok c =>
        rw [ContentFile.ofDocument, hread] at h
        cases h
        exact isValid_of_read hread
    · cases h

/-- What was loaded is the content of the text of a file. -/
theorem exists_text_of_load {files : FileTree} {path : Path} {found : ContentFile.Loaded}
    (h : ContentFile.load files path = .ok found) :
    ∃ s, files.readText path = .ok s ∧ ContentFile.ofText path s = .ok found := by
  unfold ContentFile.load at h
  split at h
  · cases h
  · cases h
  · split at h
    · cases h
    · cases h
    · rename_i s hread
      exact ⟨s, hread, h⟩

/-- Content that was loaded is valid. -/
theorem isValid_of_load {files : FileTree} {path : Path} {found : ContentFile.Loaded}
    (h : ContentFile.load files path = .ok found) : found.1.IsValid := by
  obtain ⟨s, -, htext⟩ := exists_text_of_load h
  exact isValid_of_ofText htext

end Content

end Tabletop
