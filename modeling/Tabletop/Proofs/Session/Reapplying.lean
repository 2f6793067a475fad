import Tabletop.Proofs.Session.Restoring
import Tabletop.Proofs.Session.RoundTrip

/-!
# Any snapshot on any sheet

What was saved need not fit the sheet on which it is restored. Every entry is set on a track or is
passed over, and for each one that is passed over there is one record that says why. The tracks stay
where additions and removals can lead, and restoring the snapshot once more leaves them where they
are: the last entry that could be set on a track is set on it last again.
-/
namespace Tabletop

/-! ### Tracks that stand alike -/

namespace Track

variable {t u : Track}

/-- A snapshot holds all of a state whose points are not negative. -/
theorem stands_progressOf (h : 0 ≤ t.points) :
    t.Stands (Snapshot.progressOf t).level (Snapshot.progressOf t).points :=
  ⟨rfl, (Int.toNat_of_nonneg h).symm⟩

theorem IsProper.eq_of_progressOf_eq (ht : t.IsProper) (hu : u.IsProper)
    (hschedule : t.schedule = u.schedule)
    (h : Snapshot.progressOf t = Snapshot.progressOf u) : t = u := by
  obtain ⟨hlevel, hpoints⟩ := stands_progressOf ht.nonneg
  obtain ⟨hlevel', hpoints'⟩ := stands_progressOf hu.nonneg
  rw [h] at hlevel hpoints
  obtain ⟨_, _, _, _⟩ := t
  obtain ⟨_, _, _, _⟩ := u
  cases hschedule
  cases Int.ofNat_inj.mp (hlevel.trans hlevel'.symm)
  cases hpoints.trans hpoints'.symm
  rfl

/-- Only the schedule of a track decides what can be set on it. -/
theorem set?_start (t : Track) (level points : Int) :
    (start t.schedule).set? level points = t.set? level points := rfl

end Track

/-! ### Tracks that are restored -/

/-- The last thing that entries say of an id and that the schedule admits. -/
def Snapshot.lastOf? (schedule : List Int) (entries : List (String × Progress)) (id : String) :
    Option Progress :=
  ((saidOf entries id).filter (Progress.isAdmitted schedule)).getLast?

namespace Content

variable {c : Content} {tracks : String → Track} {kind : SavedKind} {id : String}

/-- A track is where the last admitted entry says, and stays as it was if there is none. -/
theorem restoringAll_stands (hc : c.IsValid) (h : Sheet.AreProper c tracks) (s : Snapshot)
    (hid : id ∈ c.keys kind) :
    match Snapshot.lastOf? (c.schedule kind) (s.entries kind) id with
    | some p => (c.restoringAll s tracks id).Stands p.level p.points
    | none => c.restoringAll s tracks id = tracks id := by
  have hprogress := progressOf_restoringAll hc h s hid
  rw [List.getLastD_eq_getLast?, ← Snapshot.lastOf?] at hprogress
  have hproper := (c.restoringAll_isProper hc h s).isProper (mem_keys hid)
  split
  · rename_i p hlast
    rw [hlast, Option.getD_some] at hprogress
    rw [← hprogress]
    exact Track.stands_progressOf hproper.nonneg
  · rename_i hlast
    rw [hlast, Option.getD_none] at hprogress
    exact hproper.eq_of_progressOf_eq (h.isProper (mem_keys hid))
      ((c.restoringAll_isProper hc h s).schedule_eq h (mem_keys hid)) hprogress

/-- The same entries lead each track to the same place again. -/
theorem restoringAll_restoringAll (hc : c.IsValid) (h : Sheet.AreProper c tracks) (s : Snapshot)
    (hid : id ∈ c.attributeKeys ++ c.skillKeys) :
    c.restoringAll s (c.restoringAll s tracks) id = c.restoringAll s tracks id := by
  obtain ⟨kind, hkind⟩ := exists_mem_keys hid
  have honce := c.restoringAll_isProper hc h s
  have htwice := c.restoringAll_isProper hc honce s
  refine (htwice.isProper hid).eq_of_progressOf_eq (honce.isProper hid)
    (htwice.schedule_eq honce hid) ?_
  -- the last admitted entry decides both times; without one the track is left alone twice
  rw [progressOf_restoringAll hc honce s hkind, progressOf_restoringAll hc h s hkind,
    List.getLastD_eq_getLast?, List.getLastD_eq_getLast?]
  cases ((Snapshot.saidOf (s.entries kind) id).filter
      (Progress.isAdmitted (c.schedule kind))).getLast? with
  | none => rfl
  | some p => rfl

end Content

/-! ### Entries that are passed over -/

/-- From the first journal to the second, records were only added, and these are the ones among them
that say that a saved entry was passed over. -/
def Journal.Skips (j j' : Journal) (skips : List Record) : Prop :=
  ∃ new, j'.records = j.records ++ new ∧ new.filter Record.isSkip = skips

namespace Journal.Skips

variable {j j' j'' : Journal} {skips more : List Record}

theorem trans (h : j.Skips j' skips) (k : j'.Skips j'' more) : j.Skips j'' (skips ++ more) := by
  obtain ⟨new, hnew, rfl⟩ := h
  obtain ⟨newer, hnewer, rfl⟩ := k
  exact ⟨new ++ newer, by rw [hnewer, hnew, List.append_assoc], List.filter_append new newer⟩

theorem of_growsWithoutSkip (h : j.GrowsWithoutSkip j') : j.Skips j' [] := by
  obtain ⟨new, hnew, hskip⟩ := h
  exact ⟨new, hnew, List.filter_eq_nil_iff.mpr fun r hr => by simp [hskip r hr]⟩

theorem add {r : Record} (h : r.isSkip) (j : Journal) : j.Skips (j.add r) [r] :=
  ⟨[r], Journal.records_add j r, by simp [h]⟩

end Journal.Skips

/-- What is recorded of a saved entry that is passed over; nothing of one that is set. -/
def Content.skip? (c : Content) (kind : SavedKind) (entry : String × Progress) : Option Record :=
  let (saved, p) := entry
  let id := Text.upper saved
  if id ∈ c.keys kind then
    match (Track.start (c.schedule kind)).set? p.level p.points with
    | .ok _ => none
    | .error e => some (.savedUnreachable kind saved (e.message id))
  else some (.savedUnknown kind saved)

/-- What is recorded of all entries that are passed over, those of attributes first. -/
def Snapshot.skips (s : Snapshot) (c : Content) : List Record :=
  s.attributes.filterMap (c.skip? .attributes) ++ s.skills.filterMap (c.skip? .skills)

/-- An entry is passed over if its id is not known, which is no more than worth a note, or if its
progress is not admitted, which is worth a warning. -/
theorem Content.level_skip? (c : Content) (kind : SavedKind) (e : String × Progress) :
    (c.skip? kind e).map Record.level =
      if Text.upper e.1 ∈ c.keys kind then
        if e.2.isAdmitted (c.schedule kind) then none else some .warning
      else some .info := by
  unfold skip?
  dsimp only
  split
  · cases hset : (Track.start (c.schedule kind)).set? e.2.level e.2.points with
    | ok next =>
      have hadmitted : e.2.isAdmitted (c.schedule kind) :=
        ((Track.start (c.schedule kind)).exists_set?_iff e.2).mp ⟨next, hset⟩
      rw [if_pos hadmitted]
      rfl
    | error cause =>
      have hrefused : ¬ e.2.isAdmitted (c.schedule kind) := Track.not_isAdmitted_of_set? hset
      rw [if_neg hrefused]
      rfl
  · rfl

namespace Session

variable {σ : Type} {roller : Roller σ} {s : Session σ} {c : Content}

/-- An entry that is passed over is recorded once, and one that is set is not. -/
theorem skips_restoreOne (roller : Roller σ) (hs : s.sheet.IsPlayed c) (kind : SavedKind)
    (e : String × Progress) :
    s.journal.Skips (restoreOne roller kind s e).journal (c.skip? kind e).toList := by
  obtain ⟨saved, p⟩ := e
  obtain ⟨tracks, hproper, hsheet⟩ := hs
  by_cases hkey : Text.upper saved ∈ c.keys kind
  · have hset := (tracks (Text.upper saved)).set?_start p.level p.points
    rw [hproper.schedule_eq_of_mem hkey] at hset
    simp only [restoreOne_of_mem roller hsheet hkey, Content.skip?, if_pos hkey, hset]
    cases (tracks (Text.upper saved)).set? p.level p.points with
    | ok next => exact .of_growsWithoutSkip (growsWithoutSkip_moveTo roller s _ _ next)
    | error cause => exact .add rfl s.journal
  · simp only [restoreOne_of_not_mem roller hsheet hkey, Content.skip?, if_neg hkey]
    exact .add rfl s.journal

/-- The entries of a kind are recorded in their order. -/
theorem skips_foldl_restoreOne (roller : Roller σ) (hc : c.IsValid) (kind : SavedKind)
    (entries : List (String × Progress)) (hs : s.sheet.IsPlayed c) :
    s.journal.Skips (entries.foldl (restoreOne roller kind) s).journal
      (entries.filterMap (c.skip? kind)) := by
  induction entries generalizing s with
  | nil => exact .of_growsWithoutSkip (.refl _)
  | cons e entries ih =>
    have hfirst := skips_restoreOne roller hs kind e
    have hrest := ih (isPlayed_of_acts hc (acts_restoreOne roller kind s e) hs)
    have hcons : (e :: entries).filterMap (c.skip? kind) =
        (c.skip? kind e).toList ++ entries.filterMap (c.skip? kind) := by
      cases h : c.skip? kind e <;> simp [h]
    rw [hcons]
    exact hfirst.trans hrest

theorem skips_restore (roller : Roller σ) (hc : c.IsValid) (snapshot : Snapshot)
    (hs : s.sheet.IsPlayed c) :
    s.journal.Skips (s.restore roller snapshot).journal (snapshot.skips c) := by
  let named : Session σ := { s with sheet := { s.sheet with identity := snapshot.identity } }
  have hidentity : Acts roller s named :=
    .edit snapshot.identity s.sheet.modifiers s.sheet.history
  have hnamed : named.sheet.IsPlayed c := hidentity.isPlayed hc hs
  have hattributes := skips_foldl_restoreOne roller hc .attributes snapshot.attributes hnamed
  have hbetween := isPlayed_of_acts hc
    (acts_foldl (acts_restoreOne roller .attributes) snapshot.attributes named) hnamed
  exact hattributes.trans (skips_foldl_restoreOne roller hc .skills snapshot.skills hbetween)

/-- Any snapshot can be restored on a sheet, whatever was asked of it before. The sheet is then in
play for the one who was saved; every track stands where the last admitted entry of its own kind
says, or where it stood if there is none. Each entry that is passed over is recorded once, in order,
and to restore the same snapshot again changes nothing. -/
theorem restore_after (hc : c.IsValid) (roller : Roller σ) (hs : s.sheet = .ofContent c)
    (requests : List SheetRequest) (snapshot : Snapshot) :
    let before := s.after roller requests
    let restored := before.restore roller snapshot
    (restored.sheet.IsPlayed c ∧ restored.sheet.identity = snapshot.identity ∧
      restored.sheet.modifiers = before.sheet.modifiers ∧
      restored.sheet.history = before.sheet.history) ∧
    (∀ kind, ∀ id ∈ c.keys kind, ∃ t u, before.sheet.track? id = some t ∧
      restored.sheet.track? id = some u ∧ u.schedule = c.schedule kind ∧ u.IsProper ∧
      match Snapshot.lastOf? (c.schedule kind) (snapshot.entries kind) id with
      | some p => u.Stands p.level p.points
      | none => u = t) ∧
    (before.journal.Skips restored.journal (snapshot.skips c) ∧
      ∀ kind e, (c.skip? kind e).map Record.level =
        if Text.upper e.1 ∈ c.keys kind then
          if e.2.isAdmitted (c.schedule kind) then none else some .warning
        else some .info) ∧
    (restored.restore roller snapshot).sheet = restored.sheet := by
  intro before restored
  have hplayed : before.sheet.IsPlayed c := isPlayed_after hc hs requests
  have hkept := isPlayed_of_acts hc (acts_restore roller before snapshot) hplayed
  have hskips := skips_restore roller hc snapshot hplayed
  obtain ⟨tracks, hproper, hbefore⟩ := hplayed
  obtain ⟨honce, -⟩ := restore_spec roller snapshot hbefore
  obtain ⟨htwice, -⟩ := restore_spec roller snapshot honce
  have hsheet : restored.sheet = (Sheet.ofTracks c snapshot.identity
      (c.restoringAll snapshot tracks)).edit snapshot.identity before.sheet.modifiers
        before.sheet.history := honce
  have hrestored := c.restoringAll_isProper hc hproper snapshot
  refine ⟨⟨hkept, ?_⟩, fun kind id hid => ?_, ⟨hskips, c.level_skip?⟩, ?_⟩
  · rw [hsheet]
    exact ⟨rfl, rfl, rfl⟩
  · have hkey := Content.mem_keys hid
    refine ⟨tracks id, c.restoringAll snapshot tracks id, ?_, ?_, hrestored.schedule_eq_of_mem hid,
      hrestored.isProper hkey, Content.restoringAll_stands hc hproper snapshot hid⟩
    · rw [hbefore]
      exact Sheet.track?_edit_ofTracks hkey
    · rw [hsheet]
      exact Sheet.track?_edit_ofTracks hkey
  · have htracks : Sheet.ofTracks c snapshot.identity
          (c.restoringAll snapshot (c.restoringAll snapshot tracks)) =
        .ofTracks c snapshot.identity (c.restoringAll snapshot tracks) :=
      Sheet.ofTracks_congr fun id hid =>
        Content.restoringAll_restoringAll hc hproper snapshot hid
    rw [htracks] at htwice
    exact htwice.trans hsheet.symm

/-- A snapshot that knows strength by three spellings, and things that are nowhere. -/
def scrambled : Snapshot :=
  ⟨1, ann.identity, [("str", ⟨1, 1⟩), ("Str", ⟨2, 0⟩), ("STR", ⟨9, 0⟩), ("CHA", ⟨1, 0⟩)],
    [("STR", ⟨0, 0⟩)]⟩

/-- The second spelling has its way, since the schedule does not reach as far as the third one says;
among the skills there is no strength. -/
theorem restore_after_scrambled :
    let restored := (ofSmallContent.after (Roller.fixed 1) annRequests).restore (Roller.fixed 1)
      scrambled
    Command.smallContent.IsValid ∧ ofSmallContent.sheet = .ofContent Command.smallContent ∧
      (∃ u, restored.sheet.track? "STR" = some u ∧ u.Stands 2 0) ∧
      (∃ skips, (ofSmallContent.after (Roller.fixed 1) annRequests).journal.Skips
          restored.journal skips ∧ skips.map Record.level = [.warning, .info, .info]) ∧
      (restored.restore (Roller.fixed 1) scrambled).sheet = restored.sheet := by
  have hentries : Snapshot.lastOf? (Command.smallContent.schedule .attributes)
        (scrambled.entries .attributes) "STR" = some ⟨2, 0⟩ ∧
      "STR" ∈ Command.smallContent.keys .attributes ∧
      (scrambled.skips Command.smallContent).map Record.level = [.warning, .info, .info] := by
    decide +kernel
  obtain ⟨hlast, hkey, hlevels⟩ := hentries
  obtain ⟨-, htracks, ⟨hskips, -⟩, hagain⟩ := restore_after isValid_smallContent (Roller.fixed 1)
    sheet_ofSmallContent annRequests scrambled
  have hstrength := htracks .attributes "STR" hkey
  rw [hlast] at hstrength
  obtain ⟨t, u, -, hu, -, -, hstands⟩ := hstrength
  exact ⟨isValid_smallContent, sheet_ofSmallContent, ⟨u, hu, hstands⟩, ⟨_, hskips, hlevels⟩,
    hagain⟩

end Session

end Tabletop
