import Tabletop.Proofs.Session.Listening

/-!
# Progress that can be set

A level with points can be set on a track just if a new track gets there when points are spent on it
one after the other, whatever was asked of the track before. Then the track is where these points
have led. What cannot be set is refused: the track stays where it is, and nobody is told of
anything.
-/
namespace Tabletop

namespace Track

/-- The track is at this level and has these points. -/
def Stands (t : Track) (level points : Int) : Prop := (t.level : Int) = level ∧ t.points = points

/-- A new track after so many attempts to spend a point on it. -/
def spent (schedule : List Int) (n : Nat) : Track := (start schedule).after (List.replicate n .add)

variable {t next : Track} {level points : Int} {schedule : List Int}

/-- What was set is where the track stands. -/
theorem stands_of_set? (h : t.set? level points = .ok next) : next.Stands level points := by
  unfold set? at h
  split at h
  · rename_i hlevel
    have hnat : (level.toNat : Int) = level := Int.toNat_of_nonneg hlevel.1
    dsimp only at h
    split at h
    · split at h
      · rename_i hzero
        cases h
        exact ⟨hnat, hzero.symm⟩
      · cases h
    · split at h
      · cases h
        exact ⟨hnat, rfl⟩
      · cases h
  · cases h

/-- A proper state is one that can be set, from any state on the same schedule. -/
theorem IsProper.set?_eq_ok {old : Track} (h : t.IsProper)
    (hschedule : old.schedule = t.schedule) : old.set? t.level t.points = .ok t := by
  obtain ⟨schedule, level, points, hle⟩ := t
  obtain ⟨schedule', level', points', hle'⟩ := old
  obtain rfl : schedule' = schedule := hschedule
  unfold set?
  rw [dif_pos ⟨Int.natCast_nonneg level, Int.ofNat_le.mpr hle⟩]
  simp only [Int.toNat_natCast]
  split
  · rename_i hnone
    have hlevel : level = schedule'.length :=
      Nat.le_antisymm hle (List.getElem?_eq_none_iff.mp hnone)
    obtain rfl : points = 0 := h.eq_zero_of_highest hlevel
    rw [if_pos rfl]
  · rename_i needed hneeded
    have hlt : points < needed := h.lt_of_needed needed hneeded
    rw [if_pos ⟨h.nonneg, hlt⟩]

theorem isProper_spent (hpos : ∀ cost ∈ schedule, 0 < cost) (n : Nat) :
    (spent schedule n).schedule = schedule ∧ (spent schedule n).IsProper :=
  (isProper_start schedule hpos).after hpos _

/-- A proper track is where as many points lead as were spent on it. -/
theorem IsProper.eq_spent (hpos : ∀ cost ∈ t.schedule, 0 < cost) (h : t.IsProper) :
    t = spent t.schedule t.total.toNat := by
  obtain ⟨hschedule, hproper⟩ := isProper_spent hpos t.total.toNat
  refine h.eq_of_total_eq hpos hproper hschedule.symm ?_
  have hstart := (isProper_start t.schedule hpos).total_after_replicate_add hpos t.total.toNat
  have hnonneg := h.total_nonneg hpos
  have hle := h.total_le_sum hpos
  rw [total_start] at hstart
  simp only [start] at hstart
  simp only [spent, start, hstart]
  omega

/-- Level and points can be set just if spending points leads there. -/
theorem set?_eq_ok_iff (hpos : ∀ cost ∈ t.schedule, 0 < cost) :
    t.set? level points = .ok next ↔
      next.Stands level points ∧ ∃ n, next = spent t.schedule n := by
  constructor
  · intro h
    have hproper := isProper_of_set? h
    have hschedule := schedule_of_set? h
    refine ⟨stands_of_set? h, next.total.toNat, ?_⟩
    rw [← hschedule]
    exact hproper.eq_spent (hschedule ▸ hpos)
  · rintro ⟨⟨rfl, rfl⟩, n, rfl⟩
    obtain ⟨hschedule, hproper⟩ := isProper_spent hpos n
    exact hproper.set?_eq_ok hschedule.symm

end Track

namespace Session

variable {σ : Type}

/-- Whatever was asked of a track whose levels all cost something, level and points can be set on it
just if spending points on a new track leads there. On a sheet that has the track, it is moved there
and nothing else is; where level and points cannot be set, the session stays as it is, with all that
listeners were told. -/
theorem setProgress_iff_spent {schedule : List Int} (hpos : ∀ cost ∈ schedule, 0 < cost)
    (requests : List TrackRequest) (level points : Int) :
    let t := (Track.start schedule).after requests
    ((∃ next, t.set? level points = .ok next) ↔
      ∃ n, (Track.spent schedule n).Stands level points) ∧
    ∀ (roller : Roller σ) (s : Session σ) (id : String), s.sheet.track? id = some t →
      (∀ next, t.set? level points = .ok next →
        (next.Stands level points ∧ ∃ n, next = Track.spent schedule n) ∧
        ∃ after, s.setProgress roller id t level points = .ok after ∧
          after.sheet = s.sheet.setTrack id next ∧ after.sheet.track? id = some next) ∧
      ∀ e, t.set? level points = .error e →
        s.setProgress roller id t level points = .error e ∧
          s.askTrack roller id (.set level points) = s := by
  intro t
  have hschedule : t.schedule = schedule :=
    ((Track.isProper_start schedule hpos).after hpos requests).1
  have hset (next : Track) : t.set? level points = .ok next ↔
      next.Stands level points ∧ ∃ n, next = Track.spent schedule n := by
    rw [Track.set?_eq_ok_iff (hschedule.symm ▸ hpos), hschedule]
  refine ⟨?_, fun roller s id htrack => ⟨fun next hnext => ?_, fun e he => ?_⟩⟩
  · constructor
    · rintro ⟨next, hnext⟩
      obtain ⟨hstands, n, rfl⟩ := (hset next).mp hnext
      exact ⟨n, hstands⟩
    · rintro ⟨n, hstands⟩
      exact ⟨_, (hset _).mpr ⟨hstands, n, rfl⟩⟩
  · refine ⟨(hset next).mp hnext, s.moveTo roller id t next, ?_, sheet_moveTo .., ?_⟩
    · rw [setProgress, hnext]
      rfl
    · rw [sheet_moveTo, Sheet.track?_setTrack, if_pos rfl, htrack]
      rfl
  · have hrefused : s.setProgress roller id t level points = .error e := by
      rw [setProgress, he]
      rfl
    refine ⟨hrefused, ?_⟩
    simp only [askTrack, htrack, hrefused]
    rfl

/-- The fighter is at the highest level and can be put one point below it, where 29 points lead. A
point more does not fit, and the squire hears nothing of it. -/
theorem setProgress_iff_spent_ofFighter :
    let t := (Track.start [10, 20]).after [.set 2 0]
    (∀ cost ∈ ([10, 20] : List Int), 0 < cost) ∧ ofFighter.sheet.track? "STR" = some t ∧
      (∃ n, (Track.spent [10, 20] n).Stands 1 19) ∧
      (∃ after, ofFighter.setProgress (Roller.fixed 3) "STR" t 1 19 = .ok after ∧
        after.sheet.track? "STR" = some ⟨[10, 20], 1, 19, by decide⟩) ∧
      ofFighter.askTrack (Roller.fixed 3) "STR" (.set 1 20) = ofFighter := by
  have hpos : ∀ cost ∈ ([10, 20] : List Int), 0 < cost := by decide
  have htrack : ofFighter.sheet.track? "STR" =
      some ((Track.start [10, 20]).after [.set 2 0]) := by decide +kernel
  obtain ⟨hreached, hset⟩ := setProgress_iff_spent hpos [.set 2 0] 1 19
  obtain ⟨hbelow, -⟩ := hset (Roller.fixed 3) ofFighter "STR" htrack
  obtain ⟨-, after, hafter, -, hmoved⟩ := hbelow _ rfl
  obtain ⟨-, hover⟩ := setProgress_iff_spent hpos [.set 2 0] 1 20
  obtain ⟨-, hrefused⟩ := hover (Roller.fixed 3) ofFighter "STR" htrack
  exact ⟨hpos, htrack, hreached.mp ⟨_, rfl⟩, ⟨after, hafter, hmoved⟩, (hrefused _ rfl).2⟩

end Session

end Tabletop
