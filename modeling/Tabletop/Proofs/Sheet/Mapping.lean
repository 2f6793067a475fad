import Mathlib.Data.List.Basic
import Mathlib.Tactic.Common
import Tabletop.Proofs.Evaluation.References

/-!
# Changing tracks

Changing the tracks of a sheet changes the tracks of its statistics one by one and nothing else: the
same ids stand for the same statistics, with the same formulas and modifiers. Putting one id on
another track changes its statistic, and the skills that look at it as their owner.
-/
namespace Tabletop

/-- Change the tracks of a statistic according to their ids. -/
def Statistic.mapTracks (f : String → Track → Track) : Statistic → Statistic
  | ofAttribute a => .ofAttribute (Sheet.mapFamily f a)
  | ofSkill owner s => .ofSkill (Sheet.mapFamily f owner) { s with track := f s.id s.track }
  | ofDerived d => .ofDerived d

namespace Statistic

variable (f : String → Track → Track)

@[simp] theorem id_mapTracks (stat : Statistic) : (stat.mapTracks f).id = stat.id := by
  cases stat <;> rfl

@[simp] theorem name_mapTracks (stat : Statistic) : (stat.mapTracks f).name = stat.name := by
  cases stat <;> rfl

@[simp] theorem formula?_mapTracks (stat : Statistic) :
    (stat.mapTracks f).formula? = stat.formula? := by
  cases stat <;> rfl

@[simp] theorem track?_mapTracks (stat : Statistic) :
    (stat.mapTracks f).track? = stat.track?.map (f stat.id) := by
  cases stat <;> rfl

end Statistic

namespace Sheet

variable (f : String → Track → Track) (sheet : Sheet)

theorem family_mapFamily (a : Attribute) :
    family (mapFamily f a) = (family a).map (Statistic.mapTracks f) := by
  simp [family, mapFamily, Statistic.mapTracks, Function.comp_def]

theorem statistics_mapTracks :
    (sheet.mapTracks f).statistics = sheet.statistics.map (Statistic.mapTracks f) := by
  have hderived : sheet.derived.map Statistic.ofDerived =
      (sheet.derived.map Statistic.ofDerived).map (Statistic.mapTracks f) := by
    rw [List.map_map]
    rfl
  simp only [statistics, mapTracks, List.flatMap_map, family_mapFamily, List.map_append,
    List.map_flatMap, ← hderived]

theorem statistic?_mapTracks (id : String) :
    (sheet.mapTracks f).statistic? id = (sheet.statistic? id).map (Statistic.mapTracks f) := by
  rw [statistic?, statistics_mapTracks, List.find?_map]
  simp only [Function.comp_def, Statistic.id_mapTracks]
  rfl

theorem find?_mapTracks (name : String) :
    (sheet.mapTracks f).find? name = (sheet.find? name).map (Statistic.mapTracks f) :=
  sheet.statistic?_mapTracks f (Text.upper name)

@[simp] theorem modifiersOn_mapTracks (id : String) :
    (sheet.mapTracks f).modifiersOn id = sheet.modifiersOn id := rfl

theorem track?_mapTracks (id : String) :
    (sheet.mapTracks f).track? id = (sheet.track? id).map (f id) := by
  rw [track?, track?, statistic?_mapTracks]
  cases h : sheet.statistic? id with
  | none => rfl
  | some stat => simp [statistic?_id h]

theorem mapTracks_mapTracks (g : String → Track → Track) :
    (sheet.mapTracks f).mapTracks g = sheet.mapTracks fun id old => g id (f id old) := by
  have hfamily (a : Attribute) :
      mapFamily g (mapFamily f a) = mapFamily (fun id old => g id (f id old)) a := by
    simp [mapFamily]
  simp only [mapTracks, List.map_map, Function.comp_def, hfamily]

theorem mapTracks_self : (sheet.mapTracks fun _ old => old) = sheet := by
  have hfamily : mapFamily (fun _ old => old) = id := by
    funext a
    simp [mapFamily]
  rw [mapTracks, hfamily, List.map_id]

/-- The id is put on the track if it has one, and all other tracks stay. -/
theorem track?_setTrack (id other : String) (track : Track) :
    (sheet.setTrack id track).track? other =
      if other = id then (sheet.track? id).map fun _ => track else sheet.track? other := by
  rw [setTrack, track?_mapTracks]
  by_cases h : other = id
  · subst h
    simp
  · simp [h]

end Sheet

end Tabletop
