import Mathlib.Data.List.Flatten
import Mathlib.Data.List.Nodup
import Mathlib.Logic.Function.Basic
import Tabletop.Proofs.Content
import Tabletop.Proofs.Sheet.Mapping
import Tabletop.Proofs.Track.Counter
import Tabletop.Snapshot

/-!
# Sheets by their tracks

Who a character is and where its tracks stand is all that changes on a sheet without modifiers and
checks. So such a sheet is given by its content, an identity and a track for every id, and moving
the track of an id changes the track of that id alone.
-/
namespace Tabletop

namespace Content

/-- The ids of attributes in upper case. -/
def attributeKeys (c : Content) : List String := c.attributes.map fun a => Text.upper a.id

/-- The ids of skills in upper case. -/
def skillKeys (c : Content) : List String :=
  c.attributes.flatMap fun a => a.skills.map fun s => Text.upper s.id

variable {c : Content}

/-- The ids that have a track come among all ids, in another order. -/
theorem keys_perm (c : Content) :
    (c.attributeKeys ++ c.skillKeys).Perm ((c.attributes.flatMap attributeIds).map Text.upper) := by
  have hperm := List.flatMap_append_perm c.attributes (fun a => [Text.upper a.id])
    (fun a => a.skills.map fun s => Text.upper s.id)
  have hleft : c.attributes.flatMap (fun a => [Text.upper a.id]) = c.attributeKeys :=
    List.flatMap_pure_eq_map _ _
  have hright : (c.attributes.flatMap fun a =>
      [Text.upper a.id] ++ a.skills.map fun s => Text.upper s.id) =
        (c.attributes.flatMap attributeIds).map Text.upper := by
    rw [List.map_flatMap]
    simp [attributeIds, Function.comp_def]
  rw [hleft, hright] at hperm
  exact hperm

/-- No id of valid content names two tracks. -/
theorem IsValid.keys_nodup (h : c.IsValid) : (c.attributeKeys ++ c.skillKeys).Nodup := by
  have hids := h.distinct
  rw [Content.ids, List.map_append, List.nodup_append] at hids
  exact (keys_perm c).nodup_iff.mpr hids.1

theorem IsValid.isUpperId_of_mem (h : c.IsValid) {id : String}
    (hid : id ∈ c.attributeKeys ++ c.skillKeys) : IsUpperId id := by
  obtain ⟨written, hwritten, rfl⟩ := List.mem_map.mp ((keys_perm c).mem_iff.mp hid)
  exact isUpperId_upper (h.ids written (List.mem_append_left _ hwritten))

end Content

namespace Sheet

variable {c : Content} {who : Identity} {tracks : String → Track}

/-- The sheet of content for somebody, with the given tracks. -/
def ofTracks (c : Content) (who : Identity) (tracks : String → Track) : Sheet :=
  { (ofContent c).mapTracks fun id _ => tracks id with identity := who }

@[simp] theorem identity_ofTracks : (ofTracks c who tracks).identity = who := rfl

theorem attributes_ofTracks : (ofTracks c who tracks).attributes =
    c.attributes.map fun a => mapFamily (fun id _ => tracks id) (attributeOf c a) := by
  simp [ofTracks, mapTracks, ofContent, Function.comp_def]

theorem map_id_attributes (who : Identity) (tracks : String → Track) :
    (ofTracks c who tracks).attributes.map Attribute.id = c.attributeKeys := by
  rw [attributes_ofTracks, List.map_map]
  rfl

theorem map_id_skills (who : Identity) (tracks : String → Track) :
    (ofTracks c who tracks).skills.map Skill.id = c.skillKeys := by
  rw [skills, attributes_ofTracks, List.map_flatMap, List.flatMap_map]
  simp [mapFamily, attributeOf, skillOf, Content.skillKeys, Function.comp_def]

theorem track_of_mem_attributes {a : Attribute} (h : a ∈ (ofTracks c who tracks).attributes) :
    a.track = tracks a.id := by
  rw [attributes_ofTracks] at h
  obtain ⟨entry, -, rfl⟩ := List.mem_map.mp h
  rfl

theorem track_of_mem_skills {s : Skill} (h : s ∈ (ofTracks c who tracks).skills) :
    s.track = tracks s.id := by
  obtain ⟨a, ha, hs⟩ := List.mem_flatMap.mp h
  rw [attributes_ofTracks] at ha
  obtain ⟨entry, -, rfl⟩ := List.mem_map.mp ha
  obtain ⟨skill, -, rfl⟩ := List.mem_map.mp hs
  rfl

theorem track?_of_mem_families {stat : Statistic}
    (h : stat ∈ (ofTracks c who tracks).attributes.flatMap family) :
    stat.track? = some (tracks stat.id) ∧ stat.id ∈ c.attributeKeys ++ c.skillKeys := by
  obtain ⟨a, ha, hstat⟩ := List.mem_flatMap.mp h
  rcases List.mem_append.mp hstat with hskill | hattribute
  · obtain ⟨s, hs, rfl⟩ := List.mem_map.mp hskill
    have hmem : s ∈ (ofTracks c who tracks).skills := List.mem_flatMap.mpr ⟨a, ha, hs⟩
    refine ⟨congrArg some (track_of_mem_skills hmem), List.mem_append_right _ ?_⟩
    rw [← map_id_skills who tracks]
    exact List.mem_map_of_mem hmem
  · obtain rfl := List.mem_singleton.mp hattribute
    refine ⟨congrArg some (track_of_mem_attributes ha), List.mem_append_left _ ?_⟩
    rw [← map_id_attributes who tracks]
    exact List.mem_map_of_mem ha

theorem exists_mem_families (who : Identity) (tracks : String → Track) {id : String}
    (h : id ∈ c.attributeKeys ++ c.skillKeys) :
    ∃ stat ∈ (ofTracks c who tracks).attributes.flatMap family, stat.id = id := by
  rcases List.mem_append.mp h with hattribute | hskill
  · rw [← map_id_attributes who tracks] at hattribute
    obtain ⟨a, ha, rfl⟩ := List.mem_map.mp hattribute
    exact ⟨.ofAttribute a, List.mem_flatMap.mpr ⟨a, ha, by simp [family]⟩, rfl⟩
  · rw [← map_id_skills who tracks] at hskill
    obtain ⟨s, hs, rfl⟩ := List.mem_map.mp hskill
    obtain ⟨a, ha, hmem⟩ := List.mem_flatMap.mp hs
    exact ⟨.ofSkill a s, List.mem_flatMap.mpr ⟨a, ha, by simp [family, hmem]⟩, rfl⟩

/-- Attributes and skills have their tracks, and nothing else has one. -/
theorem track?_ofTracks (id : String) :
    (ofTracks c who tracks).track? id =
      if id ∈ c.attributeKeys ++ c.skillKeys then some (tracks id) else none := by
  rw [track?, statistic?, statistics, List.find?_append]
  cases hfind : ((ofTracks c who tracks).attributes.flatMap family).find?
      fun stat => stat.id == id with
  | some stat =>
    obtain ⟨htrack, hkey⟩ := track?_of_mem_families (List.mem_of_find?_eq_some hfind)
    obtain rfl : stat.id = id := by simpa using List.find?_some hfind
    rw [if_pos hkey]
    exact htrack
  | none =>
    have hkey : id ∉ c.attributeKeys ++ c.skillKeys := by
      intro hmem
      obtain ⟨stat, hstat, rfl⟩ := exists_mem_families who tracks hmem
      exact List.find?_eq_none.mp hfind stat hstat (beq_self_eq_true _)
    rw [if_neg hkey, Option.none_or]
    cases hderived : ((ofTracks c who tracks).derived.map Statistic.ofDerived).find?
        fun stat => stat.id == id with
    | none => rfl
    | some stat =>
      obtain ⟨d, -, rfl⟩ := List.mem_map.mp (List.mem_of_find?_eq_some hderived)
      rfl

/-- A snapshot holds the tracks in the order of the content. -/
theorem ofSheet_ofTracks : Snapshot.ofSheet (ofTracks c who tracks) =
    ⟨Snapshot.currentVersion, who,
      c.attributeKeys.map fun id => (id, Snapshot.progressOf (tracks id)),
      c.skillKeys.map fun id => (id, Snapshot.progressOf (tracks id))⟩ := by
  have hattributes : (ofTracks c who tracks).attributes.map
      (fun a => (a.id, Snapshot.progressOf a.track)) =
        c.attributeKeys.map fun id => (id, Snapshot.progressOf (tracks id)) := by
    rw [← map_id_attributes who tracks, List.map_map]
    exact List.map_congr_left fun a ha => by rw [track_of_mem_attributes ha]; rfl
  have hskills : (ofTracks c who tracks).skills.map (fun s => (s.id, Snapshot.progressOf s.track)) =
      c.skillKeys.map fun id => (id, Snapshot.progressOf (tracks id)) := by
    rw [← map_id_skills who tracks, List.map_map]
    exact List.map_congr_left fun s hs => by rw [track_of_mem_skills hs]; rfl
  rw [Snapshot.ofSheet, hattributes, hskills, identity_ofTracks]

theorem mem_keys_of_mem_ofSheet {e : String × Progress}
    (h : e ∈ (Snapshot.ofSheet (ofTracks c who tracks)).attributes ++
      (Snapshot.ofSheet (ofTracks c who tracks)).skills) :
    e.1 ∈ c.attributeKeys ++ c.skillKeys := by
  rw [ofSheet_ofTracks, ← List.map_append] at h
  obtain ⟨id, hid, rfl⟩ := List.mem_map.mp h
  exact hid

/-! ### Moving tracks -/

/-- Only the tracks of ids that have one matter. -/
theorem ofTracks_congr {tracks' : String → Track}
    (h : ∀ id ∈ c.attributeKeys ++ c.skillKeys, tracks id = tracks' id) :
    ofTracks c who tracks = ofTracks c who tracks' := by
  have hattributes : (ofContent c).attributes.map (mapFamily fun id _ => tracks id) =
      (ofContent c).attributes.map (mapFamily fun id _ => tracks' id) := by
    simp only [ofContent, List.map_map]
    refine List.map_congr_left fun a ha => ?_
    have hself : Text.upper a.id ∈ c.attributeKeys ++ c.skillKeys :=
      List.mem_append_left _ (List.mem_map_of_mem ha)
    have hskills : ∀ s ∈ a.skills, Text.upper s.id ∈ c.attributeKeys ++ c.skillKeys :=
      fun s hs => List.mem_append_right _ (List.mem_flatMap.mpr ⟨a, ha, List.mem_map_of_mem hs⟩)
    simp only [Function.comp_apply, mapFamily, attributeOf, h _ hself, List.map_map,
      Attribute.mk.injEq, true_and]
    refine List.map_congr_left fun s hs => ?_
    simp [skillOf, h _ (hskills s hs)]
  simp only [ofTracks, mapTracks, hattributes]

/-- To change tracks is to have other tracks. -/
theorem mapTracks_ofTracks (f : String → Track → Track) :
    (ofTracks c who tracks).mapTracks f = ofTracks c who fun id => f id (tracks id) :=
  congrArg (fun sheet : Sheet => { sheet with identity := who })
    ((ofContent c).mapTracks_mapTracks (fun id _ => tracks id) f)

/-- To put an id on another track changes its track. -/
theorem setTrack_ofTracks (id : String) (t : Track) :
    (ofTracks c who tracks).setTrack id t = ofTracks c who (Function.update tracks id t) := by
  rw [setTrack, mapTracks_ofTracks]
  congr 1
  funext other
  simp only [Function.update_apply, beq_iff_eq]

/-- The tracks of a new sheet. -/
def newTracks (c : Content) (id : String) : Track :=
  if id ∈ c.attributeKeys then .start c.attributeSchedule else .start c.skillSchedule

/-- A new sheet has new tracks. -/
theorem ofContent_eq_ofTracks (hc : c.IsValid) (who : Identity) :
    { ofContent c with identity := who } = ofTracks c who (newTracks c) := by
  have hattributes : (ofContent c).attributes.map (mapFamily fun id _ => newTracks c id) =
      (ofContent c).attributes := by
    simp only [ofContent, List.map_map]
    refine List.map_congr_left fun a ha => ?_
    have hself : newTracks c (Text.upper a.id) = .start c.attributeSchedule :=
      if_pos (List.mem_map_of_mem ha)
    have hskills : ∀ s ∈ a.skills, newTracks c (Text.upper s.id) = .start c.skillSchedule := by
      intro s hs
      refine if_neg fun hmem => ?_
      exact List.disjoint_of_nodup_append hc.keys_nodup hmem
        (List.mem_flatMap.mpr ⟨a, ha, List.mem_map_of_mem hs⟩)
    simp only [Function.comp_apply, mapFamily, attributeOf, hself, List.map_map,
      Attribute.mk.injEq, true_and]
    refine List.map_congr_left fun s hs => ?_
    simp [skillOf, hskills s hs]
  simp only [ofTracks, mapTracks, hattributes]

/-- Every track stands where additions and removals can lead it. -/
structure AreProper (c : Content) (tracks : String → Track) : Prop where
  attributes : ∀ id ∈ c.attributeKeys,
    (tracks id).schedule = c.attributeSchedule ∧ (tracks id).IsProper
  skills : ∀ id ∈ c.skillKeys, (tracks id).schedule = c.skillSchedule ∧ (tracks id).IsProper

theorem areProper_newTracks (hc : c.IsValid) : AreProper c (newTracks c) where
  attributes id hid := by
    rw [newTracks, if_pos hid]
    exact ⟨rfl, Track.isProper_start _ hc.attribute_costs⟩
  skills id hid := by
    rw [newTracks, if_neg fun hmem => List.disjoint_of_nodup_append hc.keys_nodup hmem hid]
    exact ⟨rfl, Track.isProper_start _ hc.skill_costs⟩

theorem AreProper.isProper (h : AreProper c tracks) {id : String}
    (hid : id ∈ c.attributeKeys ++ c.skillKeys) : (tracks id).IsProper := by
  rcases List.mem_append.mp hid with hattribute | hskill
  · exact (h.attributes id hattribute).2
  · exact (h.skills id hskill).2

theorem AreProper.costs (h : AreProper c tracks) (hc : c.IsValid) {id : String}
    (hid : id ∈ c.attributeKeys ++ c.skillKeys) : ∀ cost ∈ (tracks id).schedule, 0 < cost := by
  rcases List.mem_append.mp hid with hattribute | hskill
  · rw [(h.attributes id hattribute).1]
    exact hc.attribute_costs
  · rw [(h.skills id hskill).1]
    exact hc.skill_costs

/-- Where a track is proper, all tracks of its id have one schedule. -/
theorem AreProper.schedule_eq {tracks' : String → Track} (h : AreProper c tracks)
    (h' : AreProper c tracks') {id : String} (hid : id ∈ c.attributeKeys ++ c.skillKeys) :
    (tracks id).schedule = (tracks' id).schedule := by
  rcases List.mem_append.mp hid with hattribute | hskill
  · rw [(h.attributes id hattribute).1, (h'.attributes id hattribute).1]
  · rw [(h.skills id hskill).1, (h'.skills id hskill).1]

/-- Tracks stay proper if one of them moves on properly on its schedule. -/
theorem AreProper.update (h : AreProper c tracks) {id : String} {t : Track}
    (hschedule : t.schedule = (tracks id).schedule) (ht : t.IsProper) :
    AreProper c (Function.update tracks id t) where
  attributes other hother := by
    rw [Function.update_apply]
    split
    · rename_i hsame
      exact ⟨hschedule.trans (hsame ▸ (h.attributes other hother).1), ht⟩
    · exact h.attributes other hother
  skills other hother := by
    rw [Function.update_apply]
    split
    · rename_i hsame
      exact ⟨hschedule.trans (hsame ▸ (h.skills other hother).1), ht⟩
    · exact h.skills other hother

end Sheet

end Tabletop
