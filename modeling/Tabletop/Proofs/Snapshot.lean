import Tabletop.Proofs.Document.Json.Legible
import Tabletop.CharacterFile

/-!
# Snapshots that were written

The document of a snapshot is read as the same snapshot. It can be written and read back if its
texts have no halves, its numbers are not too long and no id stands twice in one of its tables.
-/
namespace Tabletop.Snapshot

/-! ### Documents -/

theorem readProgress_progressDocument (p : Progress) :
    readProgress (progressDocument p) = .ok p := by
  simp [readProgress, progressDocument, Shape.model, field, Entries.optional, Entries.spelled?,
    Entries.find?_cons, Shape.count, Shape.int, Except.bind, Checked.under, Except.mapError,
    Checked.apply, Checked.both, Except.map]

theorem readProgressTable_progressTable (entries : List (String × Progress)) :
    readProgressTable (progressTable entries) = .ok entries := by
  simp only [readProgressTable, progressTable, Shape.mappingOf]
  rw [Checked.all_eq_ok_iff, List.map_map]
  refine List.map_congr_left fun e _ => ?_
  simp [readProgress_progressDocument, Checked.under, Except.mapError, Except.map]

/-- The document of a snapshot is read as that snapshot. -/
theorem read_toDocument (s : Snapshot) : read s.toDocument = .ok s := by
  simp [read, toDocument, readIdentity, Shape.model, field, Entries.optional, Entries.spelled?,
    Entries.find?_cons, Shape.int, Shape.text, readProgressTable_progressTable, Checked.under,
    Except.mapError, Checked.apply, Checked.both, Except.map]

/-! ### Texts -/

/-- The snapshot can be written so that it can be read back. -/
structure IsLegible (s : Snapshot) : Prop where
  texts : ∀ t ∈ [s.identity.name, s.identity.pronouns, s.identity.power], Json.IsWhole t
  numbers : ∀ n ∈ [s.version, s.identity.level, s.identity.age, s.identity.wealthWeekly,
    s.identity.wealthRemaining], Decimal.fits n
  entries : ∀ e ∈ s.attributes ++ s.skills,
    Json.IsWhole e.1 ∧ Decimal.fits e.2.level ∧ Decimal.fits e.2.points
  attributes_nodup : (s.attributes.map Prod.fst).Nodup
  skills_nodup : (s.skills.map Prod.fst).Nodup

theorem hasHalf_eq_false_iff {s : Snapshot} : s.hasHalf = false ↔
    ∀ t ∈ [s.identity.name, s.identity.pronouns, s.identity.power], Json.IsWhole t := by
  rw [hasHalf, List.any_eq_false]
  refine forall₂_congr fun t _ => ?_
  rw [Bool.not_eq_true, Text.hasHalf, List.any_eq_false]
  exact forall₂_congr fun c _ => by simp

theorem hasLongNumber_eq_false_iff {s : Snapshot} : s.hasLongNumber = false ↔
    (∀ n ∈ [s.version, s.identity.level, s.identity.age, s.identity.wealthWeekly,
      s.identity.wealthRemaining], Decimal.fits n) ∧
    ∀ e ∈ s.attributes ++ s.skills, Decimal.fits e.2.level ∧ Decimal.fits e.2.points := by
  rw [hasLongNumber, Bool.or_eq_false_iff, List.any_eq_false, List.any_eq_false]
  refine and_congr (forall₂_congr fun n _ => by simp) (forall₂_congr fun e _ => by simp)

/-- Nothing in the snapshot keeps it from being written. -/
structure IsWritable (s : Snapshot) : Prop where
  hasHalf : s.hasHalf = false
  hasLongNumber : s.hasLongNumber = false

theorem IsLegible.isWritable {s : Snapshot} (h : s.IsLegible) : s.IsWritable where
  hasHalf := hasHalf_eq_false_iff.mpr h.texts
  hasLongNumber := hasLongNumber_eq_false_iff.mpr ⟨h.numbers, fun e he => (h.entries e he).2⟩

theorem isWhole_of_ascii {s : String} (h : s.toList.all fun c => c.toNat < 128) :
    Json.IsWhole s := by
  intro c hc
  have := List.all_eq_true.mp h c hc
  simp only [decide_eq_true_eq] at this
  simp only [Text.half?]
  rw [if_neg]
  simp only [Bool.and_eq_true, decide_eq_true_eq]
  omega

/-- A table of named fields is legible if its values are. -/
theorem legible_fields {es : List (String × Document)} (keys : List String)
    (hkeys : es.map Prod.fst = keys) (hdistinct : keys.Nodup)
    (hascii : keys.all fun key => key.toList.all fun c => c.toNat < 128)
    (hvalues : ∀ d ∈ es.map Prod.snd, Json.Legible d) : Json.Legible (.table es) := by
  refine Json.legible_table (hkeys ▸ hdistinct) ?_ fun x hx => hvalues x.2 (List.mem_map_of_mem hx)
  intro x hx
  have hmem : x.1 ∈ keys := hkeys ▸ List.mem_map_of_mem hx
  exact isWhole_of_ascii (List.all_eq_true.mp hascii x.1 hmem)

theorem legible_progressDocument {p : Progress} (hlevel : Decimal.fits p.level)
    (hpoints : Decimal.fits p.points) : Json.Legible (progressDocument p) := by
  refine legible_fields ["upgrade_level", "upgrade_points"] rfl (by decide) (by decide) ?_
  simp only [List.map_cons, List.map_nil, List.mem_cons, List.not_mem_nil, or_false]
  rintro d (rfl | rfl)
  · exact Json.legible_int hlevel
  · exact Json.legible_int hpoints

theorem legible_progressTable {entries : List (String × Progress)}
    (hentries : ∀ e ∈ entries,
      Json.IsWhole e.1 ∧ Decimal.fits e.2.level ∧ Decimal.fits e.2.points)
    (hdistinct : (entries.map Prod.fst).Nodup) : Json.Legible (progressTable entries) := by
  refine Json.legible_table ?_ ?_ ?_
  · rw [List.map_map]
    exact hdistinct
  · intro x hx
    obtain ⟨e, he, rfl⟩ := List.mem_map.mp hx
    exact (hentries e he).1
  · intro x hx
    obtain ⟨e, he, rfl⟩ := List.mem_map.mp hx
    exact legible_progressDocument (hentries e he).2.1 (hentries e he).2.2

theorem IsLegible.legible_toDocument {s : Snapshot} (h : s.IsLegible) :
    Json.Legible s.toDocument := by
  have htext (t : String) (ht : t ∈ [s.identity.name, s.identity.pronouns, s.identity.power]) :=
    Json.legible_text (h.texts t ht)
  have hint (n : Int) (hn : n ∈ [s.version, s.identity.level, s.identity.age,
      s.identity.wealthWeekly, s.identity.wealthRemaining]) := Json.legible_int (h.numbers n hn)
  refine legible_fields ["format_version", "name", "pronouns", "power_id", "level", "age",
    "wealth_weekly", "wealth_remaining", "attributes", "skills"] rfl (by decide) (by decide) ?_
  simp only [List.map_cons, List.map_nil, List.mem_cons, List.not_mem_nil, or_false]
  rintro d (rfl | rfl | rfl | rfl | rfl | rfl | rfl | rfl | rfl | rfl)
  · exact hint _ (by simp)
  · exact htext _ (by simp)
  · exact htext _ (by simp)
  · exact htext _ (by simp)
  · exact hint _ (by simp)
  · exact hint _ (by simp)
  · exact hint _ (by simp)
  · exact hint _ (by simp)
  · exact legible_progressTable (fun e he => h.entries e (List.mem_append_left _ he))
      h.attributes_nodup
  · exact legible_progressTable (fun e he => h.entries e (List.mem_append_right _ he))
      h.skills_nodup

/-- What is written for a snapshot is read as that snapshot. -/
theorem IsLegible.parseSnapshot_fileText {s : Snapshot} (h : s.IsLegible)
    (hversion : s.version ≤ currentVersion) (path : Path) :
    CharacterFile.parseSnapshot path
      (String.ofList (Text.unifyLines s.fileText.toList)) = .ok s := by
  have hlegible := h.legible_toDocument
  rw [fileText, hlegible.unifyLines_pretty, String.ofList_toList, CharacterFile.parseSnapshot,
    hlegible.read_pretty]
  simp only [read_toDocument, if_neg (Int.not_lt.mpr hversion)]

end Tabletop.Snapshot
