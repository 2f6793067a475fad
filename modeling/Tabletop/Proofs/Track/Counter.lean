import Mathlib.Algebra.BigOperators.Group.List.Basic
import Mathlib.Algebra.Order.BigOperators.Group.List
import Mathlib.Algebra.Ring.Int.Defs
import Mathlib.Data.Set.Function
import Mathlib.Tactic.Common
import Tabletop.Track

/-!
# Tracks count points

Where every level costs something, a track is a counter from zero to what all levels cost together:
its total is the cost of the levels below it with the points collected since. Every total belongs to
one proper state. A point more raises it by one and a point less lowers it by one, up to the ends,
where nothing is changed.
-/
namespace Tabletop

/-- What can be asked of a track. -/
inductive TrackRequest where
  | add
  | remove
  | set (level points : Int)

namespace Track

/-- All points that were spent on the track. -/
def total (t : Track) : Int := (t.schedule.take t.level).sum + t.points

/-- The points have not reached the next level, and there are none at the highest level. -/
structure IsProper (t : Track) : Prop where
  nonneg : 0 ≤ t.points
  lt_of_needed : ∀ cost, t.needed? = some cost → t.points < cost
  eq_zero_of_highest : t.level = t.highest → t.points = 0

/-- What a granted move leads to, told apart from a refused one, which leads nowhere. -/
def granted (t : Track) : Option Track → Bool × Track
  | some next => (true, next)
  | none => (false, t)

/-- Whether a request is granted, and the track after it. -/
def answer (t : Track) : TrackRequest → Bool × Track
  | .add => t.granted t.add?
  | .remove => t.granted t.remove?
  | .set level points => t.granted (t.set? level points).toOption

/-- The track after requests, some of which may be refused. -/
def after (t : Track) (requests : List TrackRequest) : Track :=
  requests.foldl (fun t request => (t.answer request).2) t

section

variable {t u next : Track}

/-! ### Totals -/

theorem isProper_start (schedule : List Int) (hpos : ∀ cost ∈ schedule, 0 < cost) :
    (start schedule).IsProper where
  nonneg := le_rfl
  lt_of_needed cost h := hpos cost (List.mem_of_getElem? h)
  eq_zero_of_highest _ := rfl

@[simp] theorem total_start (schedule : List Int) : (start schedule).total = 0 := by
  simp [total, start]

theorem sum_take_succ_level (h : t.level < t.schedule.length) :
    (t.schedule.take (t.level + 1)).sum = (t.schedule.take t.level).sum + t.schedule[t.level] :=
  List.sum_take_succ t.schedule t.level h

/-- What the levels cost does not fall from one level to a later one. -/
theorem sum_take_le {schedule : List Int} (hpos : ∀ cost ∈ schedule, 0 < cost) {i j : Nat}
    (h : i ≤ j) : (schedule.take i).sum ≤ (schedule.take j).sum := by
  have hsub : List.Sublist (schedule.take i) (schedule.take j) :=
    (List.take_prefix_take_left h).sublist
  exact hsub.sum_le_sum fun cost hcost => (hpos cost (List.mem_of_mem_take hcost)).le

theorem sum_take_le_sum {schedule : List Int} (hpos : ∀ cost ∈ schedule, 0 < cost) (i : Nat) :
    (schedule.take i).sum ≤ schedule.sum :=
  (List.take_sublist i schedule).sum_le_sum fun cost hcost => (hpos cost hcost).le

theorem IsProper.total_nonneg (hpos : ∀ cost ∈ t.schedule, 0 < cost) (h : t.IsProper) :
    0 ≤ t.total := by
  have hsum := sum_take_le hpos (Nat.zero_le t.level)
  have := h.nonneg
  simp only [List.take_zero, List.sum_nil] at hsum
  simp only [total]
  omega

/-- Below the next level the total is below what that level costs. -/
theorem IsProper.total_lt (h : t.IsProper) (hlevel : t.level < t.schedule.length) :
    t.total < (t.schedule.take (t.level + 1)).sum := by
  have hpoints := h.lt_of_needed t.schedule[t.level] (List.getElem?_eq_getElem hlevel)
  rw [sum_take_succ_level hlevel]
  simp only [total]
  omega

theorem IsProper.total_of_highest (h : t.IsProper) (hlevel : t.level = t.schedule.length) :
    t.total = t.schedule.sum := by
  simp [total, hlevel, h.eq_zero_of_highest hlevel]

theorem IsProper.total_le_sum (hpos : ∀ cost ∈ t.schedule, 0 < cost) (h : t.IsProper) :
    t.total ≤ t.schedule.sum := by
  rcases Nat.lt_or_eq_of_le t.level_le with hlevel | hlevel
  · exact ((h.total_lt hlevel).trans_le (sum_take_le_sum hpos _)).le
  · exact (h.total_of_highest hlevel).le

/-- Only at the highest level is everything spent. -/
theorem IsProper.total_eq_sum_iff (hpos : ∀ cost ∈ t.schedule, 0 < cost) (h : t.IsProper) :
    t.total = t.schedule.sum ↔ t.level = t.schedule.length := by
  constructor
  · intro htotal
    by_contra hlevel
    have hlt : t.level < t.schedule.length := Nat.lt_of_le_of_ne t.level_le hlevel
    have := (h.total_lt hlt).trans_le (sum_take_le_sum hpos _)
    omega
  · exact h.total_of_highest

theorem IsProper.total_eq_zero_iff (hpos : ∀ cost ∈ t.schedule, 0 < cost) (h : t.IsProper) :
    t.total = 0 ↔ t.level = 0 ∧ t.points = 0 := by
  constructor
  · intro htotal
    have hpoints := h.nonneg
    rcases Nat.eq_zero_or_pos t.level with hlevel | hlevel
    · simp only [total, hlevel, List.take_zero, List.sum_nil] at htotal
      exact ⟨hlevel, by omega⟩
    · -- the first level is among those that were paid for
      have hfirst : 0 < t.schedule.length := hlevel.trans_le t.level_le
      have hone := List.sum_take_succ t.schedule 0 hfirst
      have hcost := hpos t.schedule[0] (List.getElem_mem hfirst)
      have hsum := sum_take_le hpos (i := 0 + 1) hlevel
      simp only [List.take_zero, List.sum_nil] at hone
      simp only [total] at htotal
      omega
  · rintro ⟨hlevel, hpoints⟩
    simp [total, hlevel, hpoints]

/-- A lower level means a lower total. -/
theorem IsProper.total_lt_total (hpos : ∀ cost ∈ t.schedule, 0 < cost) (ht : t.IsProper)
    (hu : u.IsProper) (hs : t.schedule = u.schedule) (hlevel : t.level < u.level) :
    t.total < u.total := by
  have hhigh : t.level < t.schedule.length := hlevel.trans_le (hs ▸ u.level_le)
  have hsum := sum_take_le hpos (i := t.level + 1) hlevel
  have hlow := ht.total_lt hhigh
  have hpoints := hu.nonneg
  rw [hs] at hsum hlow
  calc
    t.total < (u.schedule.take (t.level + 1)).sum := hlow
    _ ≤ (u.schedule.take u.level).sum := hsum
    _ ≤ u.total := by simp only [total]; omega

/-- A total belongs to one proper state. -/
theorem IsProper.eq_of_total_eq (hpos : ∀ cost ∈ t.schedule, 0 < cost) (ht : t.IsProper)
    (hu : u.IsProper) (hs : t.schedule = u.schedule) (htotal : t.total = u.total) : t = u := by
  have hlevel : t.level = u.level := by
    rcases Nat.lt_trichotomy t.level u.level with hlt | heq | hlt
    · exact absurd htotal (ht.total_lt_total hpos hu hs hlt).ne
    · exact heq
    · exact absurd htotal (hu.total_lt_total (hs ▸ hpos) ht hs.symm hlt).ne'
  have hpoints : t.points = u.points := by
    simp only [total, hlevel, hs] at htotal
    omega
  obtain ⟨_, _, _, _⟩ := t
  obtain ⟨_, _, _, _⟩ := u
  cases hs
  cases hlevel
  cases hpoints
  rfl

/-! ### Moves -/

/-- Below the highest level a point can be spent. -/
theorem IsProper.exists_add? (hpos : ∀ cost ∈ t.schedule, 0 < cost) (h : t.IsProper)
    (hlevel : t.level < t.schedule.length) :
    ∃ next, t.add? = some next ∧ next.IsProper ∧ next.total = t.total + 1 := by
  have hneeded := h.lt_of_needed t.schedule[t.level] (List.getElem?_eq_getElem hlevel)
  have hnonneg := h.nonneg
  simp only [add?, dif_pos hlevel]
  split
  · -- the next level is reached, so the points were one short of it
    refine ⟨_, rfl, ⟨le_rfl, ?_, fun _ => rfl⟩, ?_⟩
    · intro cost hcost
      exact hpos cost (List.mem_of_getElem? hcost)
    · simp only [total, List.sum_take_succ t.schedule t.level hlevel]
      omega
  · refine ⟨_, rfl, ⟨?_, ?_, ?_⟩, ?_⟩
    · simp only
      omega
    · intro cost hcost
      simp only [needed?, List.getElem?_eq_getElem hlevel, Option.some.injEq] at hcost
      simp only
      omega
    · intro hhighest
      exact absurd hhighest hlevel.ne
    · simp only [total]
      omega

theorem add?_eq_none_iff : t.add? = none ↔ t.level = t.schedule.length := by
  have := t.level_le
  unfold add?
  split
  · dsimp only
    split <;> simp <;> omega
  · simp
    omega

/-- Above nothing a point can be taken back. -/
theorem IsProper.exists_remove? (h : t.IsProper) (hsome : ¬ (t.level = 0 ∧ t.points = 0))
    (hpos : ∀ cost ∈ t.schedule, 0 < cost) :
    ∃ next, t.remove? = some next ∧ next.IsProper ∧ next.total = t.total - 1 := by
  obtain ⟨schedule, level, points, hle⟩ := t
  have hnonneg := h.nonneg
  simp only at hnonneg hsome hpos
  by_cases hpoints : 0 < points
  · refine ⟨⟨schedule, level, points - 1, hle⟩, by simp [remove?, hpoints], ⟨?_, ?_, ?_⟩, ?_⟩
    · simp only
      omega
    · intro cost hcost
      have := h.lt_of_needed cost hcost
      simp only at this ⊢
      omega
    · intro hhighest
      have := h.eq_zero_of_highest hhighest
      simp only at this
      omega
    · simp only [total]
      omega
  · cases level with
    | zero => omega
    | succ level =>
      have hbelow : level < schedule.length := hle
      have hcost := hpos schedule[level] (List.getElem_mem hbelow)
      refine ⟨⟨schedule, level, schedule[level] - 1, hbelow.le⟩, by simp [remove?, hpoints],
        ⟨?_, ?_, ?_⟩, ?_⟩
      · simp only
        omega
      · intro cost hneeded
        simp only [needed?, List.getElem?_eq_getElem hbelow, Option.some.injEq] at hneeded
        simp only
        omega
      · intro hhighest
        exact absurd hhighest hbelow.ne
      · simp only [total, List.sum_take_succ schedule level hbelow]
        omega

theorem remove?_eq_none_of_empty (h : t.level = 0 ∧ t.points = 0) : t.remove? = none := by
  obtain ⟨schedule, level, points, hle⟩ := t
  obtain ⟨rfl, rfl⟩ := h
  simp [remove?]

/-- Only proper states can be set. -/
theorem isProper_of_set? {level points : Int} (h : t.set? level points = .ok next) :
    next.IsProper := by
  unfold set? at h
  split at h
  · dsimp only at h
    split at h
    · rename_i hnone
      split at h
      · cases h
        refine ⟨le_rfl, ?_, fun _ => rfl⟩
        intro cost hcost
        simp [needed?, hnone] at hcost
      · cases h
    · rename_i needed hneeded
      split at h
      · rename_i hpoints
        cases h
        refine ⟨hpoints.1, ?_, ?_⟩
        · intro cost hcost
          simp only [needed?, hneeded, Option.some.injEq] at hcost
          simp only
          omega
        · intro hhighest
          have := List.getElem?_eq_none (Nat.le_of_eq hhighest.symm)
          simp [hneeded] at this
      · cases h
  · cases h

/-! ### Requests -/

/-- What a request leaves alone, and what it keeps. -/
theorem IsProper.answer (h : t.IsProper) (hpos : ∀ cost ∈ t.schedule, 0 < cost)
    (request : TrackRequest) :
    (t.answer request).2.schedule = t.schedule ∧ (t.answer request).2.IsProper := by
  cases request with
  | add =>
    rcases Nat.lt_or_eq_of_le t.level_le with hlevel | hlevel
    · obtain ⟨next, hadd, hproper, _⟩ := h.exists_add? hpos hlevel
      simp only [Track.answer, hadd, granted]
      exact ⟨schedule_of_add? hadd, hproper⟩
    · simp only [Track.answer, add?_eq_none_iff.mpr hlevel, granted]
      exact ⟨trivial, h⟩
  | remove =>
    by_cases hempty : t.level = 0 ∧ t.points = 0
    · simp only [Track.answer, remove?_eq_none_of_empty hempty, granted]
      exact ⟨trivial, h⟩
    · obtain ⟨next, hremove, hproper, _⟩ := h.exists_remove? hempty hpos
      simp only [Track.answer, hremove, granted]
      exact ⟨schedule_of_remove? hremove, hproper⟩
  | set level points =>
    cases hset : t.set? level points with
    | ok next =>
      simp only [Track.answer, hset, Except.toOption, granted]
      exact ⟨schedule_of_set? hset, isProper_of_set? hset⟩
    | error e =>
      simp only [Track.answer, hset, Except.toOption, granted]
      exact ⟨trivial, h⟩

theorem IsProper.after (h : t.IsProper) (hpos : ∀ cost ∈ t.schedule, 0 < cost)
    (requests : List TrackRequest) :
    (t.after requests).schedule = t.schedule ∧ (t.after requests).IsProper := by
  induction requests generalizing t with
  | nil => exact ⟨rfl, h⟩
  | cons request requests ih =>
    obtain ⟨hs, hproper⟩ := h.answer hpos request
    obtain ⟨hs', hproper'⟩ := ih hproper (hs ▸ hpos)
    exact ⟨hs'.trans hs, hproper'⟩

/-- A point more raises the total by one until everything is spent. -/
theorem IsProper.answer_add (h : t.IsProper) (hpos : ∀ cost ∈ t.schedule, 0 < cost) :
    if t.total = t.schedule.sum then t.answer .add = (false, t)
    else (t.answer .add).1 = true ∧ (t.answer .add).2.total = t.total + 1 := by
  split
  · rename_i htotal
    have hlevel := (h.total_eq_sum_iff hpos).mp htotal
    simp only [Track.answer, add?_eq_none_iff.mpr hlevel, granted]
  · rename_i htotal
    have hlevel := mt (h.total_eq_sum_iff hpos).mpr htotal
    obtain ⟨next, hadd, _, htotal⟩ := h.exists_add? hpos (Nat.lt_of_le_of_ne t.level_le hlevel)
    simp only [Track.answer, hadd, granted]
    exact ⟨trivial, htotal⟩

/-- A point less lowers the total by one until nothing is left. -/
theorem IsProper.answer_remove (h : t.IsProper) (hpos : ∀ cost ∈ t.schedule, 0 < cost) :
    if t.total = 0 then t.answer .remove = (false, t)
    else (t.answer .remove).1 = true ∧ (t.answer .remove).2.total = t.total - 1 := by
  split
  · rename_i htotal
    have hempty := (h.total_eq_zero_iff hpos).mp htotal
    simp only [Track.answer, remove?_eq_none_of_empty hempty, granted]
  · rename_i htotal
    have hsome := mt (h.total_eq_zero_iff hpos).mpr htotal
    obtain ⟨next, hremove, _, htotal⟩ := h.exists_remove? hsome hpos
    simp only [Track.answer, hremove, granted]
    exact ⟨trivial, htotal⟩

/-- Taking back the point that was spent last changes nothing. -/
theorem IsProper.remove_add (h : t.IsProper) (hpos : ∀ cost ∈ t.schedule, 0 < cost)
    (hbelow : t.total ≠ t.schedule.sum) : (t.answer .add).2.answer .remove = (true, t) := by
  obtain ⟨hs, hproper⟩ := h.answer hpos .add
  have hadd := h.answer_add hpos
  rw [if_neg hbelow] at hadd
  obtain ⟨hs', hproper'⟩ := hproper.answer (hs ▸ hpos) .remove
  have hremove := hproper.answer_remove (hs ▸ hpos)
  have hnonneg := h.total_nonneg hpos
  rw [if_neg (by omega)] at hremove
  have htotal : ((t.answer .add).2.answer .remove).2.total = t.total := by omega
  refine Prod.ext hremove.1 ?_
  exact hproper'.eq_of_total_eq (by rw [hs', hs]; exact hpos) h (hs'.trans hs) htotal

/-- Spending the point that was taken back last changes nothing. -/
theorem IsProper.add_remove (h : t.IsProper) (hpos : ∀ cost ∈ t.schedule, 0 < cost)
    (habove : t.total ≠ 0) : (t.answer .remove).2.answer .add = (true, t) := by
  obtain ⟨hs, hproper⟩ := h.answer hpos .remove
  have hremove := h.answer_remove hpos
  rw [if_neg habove] at hremove
  obtain ⟨hs', hproper'⟩ := hproper.answer (hs ▸ hpos) .add
  have hadd := hproper.answer_add (hs ▸ hpos)
  have hle := h.total_le_sum hpos
  rw [if_neg (by rw [hs]; omega)] at hadd
  have htotal : ((t.answer .remove).2.answer .add).2.total = t.total := by omega
  refine Prod.ext hadd.1 ?_
  exact hproper'.eq_of_total_eq (by rw [hs', hs]; exact hpos) h (hs'.trans hs) htotal

/-- Points that are spent one after the other add up until everything is spent. -/
theorem IsProper.total_after_replicate_add (h : t.IsProper)
    (hpos : ∀ cost ∈ t.schedule, 0 < cost) (n : Nat) :
    (t.after (List.replicate n .add)).total = min (t.total + n) t.schedule.sum := by
  induction n generalizing t with
  | zero =>
    have := h.total_le_sum hpos
    simp only [List.replicate_zero, Track.after, List.foldl_nil]
    omega
  | succ n ih =>
    obtain ⟨hs, hproper⟩ := h.answer hpos .add
    have hrest := ih hproper (hs ▸ hpos)
    have hadd := h.answer_add hpos
    rw [hs] at hrest
    simp only [List.replicate_succ, Track.after, List.foldl_cons] at hrest ⊢
    rw [hrest]
    split at hadd
    · rename_i htotal
      rw [hadd]
      dsimp only
      omega
    · have := h.total_le_sum hpos
      omega

end

/-- Every total is that of a proper state. -/
theorem exists_total_eq {schedule : List Int} (hpos : ∀ cost ∈ schedule, 0 < cost) {n : Int}
    (hn : 0 ≤ n) (hle : n ≤ schedule.sum) :
    ∃ t : Track, t.schedule = schedule ∧ t.IsProper ∧ t.total = n := by
  have hstart := isProper_start schedule hpos
  refine ⟨(start schedule).after (List.replicate n.toNat .add), (hstart.after hpos _).1,
    (hstart.after hpos _).2, ?_⟩
  rw [hstart.total_after_replicate_add hpos, total_start]
  simp only [start]
  omega

/-- A track whose levels all cost something counts from zero to what they cost together. The total
tells its states apart and takes every value; whatever was asked of the track before, a point more
or less moves the total by one, or is refused at the end. -/
theorem counts_points (schedule : List Int) (hpos : ∀ cost ∈ schedule, 0 < cost) :
    Set.BijOn total {t | t.schedule = schedule ∧ t.IsProper} {n | 0 ≤ n ∧ n ≤ schedule.sum} ∧
    ∀ requests, let t := (start schedule).after requests
      (t.schedule = schedule ∧ t.IsProper) ∧
      (if t.total = schedule.sum then t.answer .add = (false, t)
        else (t.answer .add).1 = true ∧ (t.answer .add).2.total = t.total + 1) ∧
      (if t.total = 0 then t.answer .remove = (false, t)
        else (t.answer .remove).1 = true ∧ (t.answer .remove).2.total = t.total - 1) ∧
      (t.total ≠ schedule.sum → (t.answer .add).2.answer .remove = (true, t)) ∧
      (t.total ≠ 0 → (t.answer .remove).2.answer .add = (true, t)) ∧
      ∀ n : Nat, (t.after (List.replicate n .add)).total = min (t.total + n) schedule.sum := by
  refine ⟨⟨?_, ?_, ?_⟩, ?_⟩
  · rintro t ⟨rfl, ht⟩
    exact ⟨ht.total_nonneg hpos, ht.total_le_sum hpos⟩
  · rintro t ⟨rfl, ht⟩ u ⟨hs, hu⟩ htotal
    exact ht.eq_of_total_eq hpos hu hs.symm htotal
  · rintro n ⟨hn, hle⟩
    obtain ⟨t, hs, ht, htotal⟩ := exists_total_eq hpos hn hle
    exact ⟨t, ⟨hs, ht⟩, htotal⟩
  · intro requests t
    obtain ⟨hs, ht⟩ : t.schedule = schedule ∧ t.IsProper :=
      (isProper_start schedule hpos).after hpos requests
    have hpos' : ∀ cost ∈ t.schedule, 0 < cost := hs ▸ hpos
    refine ⟨⟨hs, ht⟩, ?_, ht.answer_remove hpos', ?_, ht.add_remove hpos', ?_⟩
    · exact hs ▸ ht.answer_add hpos'
    · exact hs ▸ ht.remove_add hpos'
    · exact hs ▸ ht.total_after_replicate_add hpos'

/-- Three levels, the second of which costs a single point: a run with a point back across it and
with a state that cannot be set, and more points than are left. -/
theorem counts_points_of_three :
    (∀ cost ∈ ([2, 1, 3] : List Int), 0 < cost) ∧
      Set.BijOn total {t | t.schedule = [2, 1, 3] ∧ t.IsProper} {n | 0 ≤ n ∧ n ≤ 6} ∧
      let t := (start [2, 1, 3]).after [.set 2 0, .remove, .set 1 5, .add]
      t.total = 3 ∧ (t.answer .remove).2.answer .add = (true, t) ∧
        (t.after (List.replicate 9 .add)).total = 6 := by
  obtain ⟨hbij, hruns⟩ := counts_points [2, 1, 3] (by decide)
  obtain ⟨_, _, _, _, hundo, hadds⟩ := hruns [.set 2 0, .remove, .set 1 5, .add]
  exact ⟨by decide, hbij, by decide, hundo (by decide), hadds 9⟩

end Track

end Tabletop
