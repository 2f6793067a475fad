import Tabletop.Proofs.Session

/-!
# Snapshots of other content

A snapshot may have been taken on a sheet of other content than the one on which it is restored. An
entry for an id that has no track of its kind here is passed over, and so is progress that the
schedule does not admit. Every other entry is set on the track of its id, whatever the letter case
of the id, so that the last one counts.
-/
namespace Tabletop

/-- A track of the schedule can stand there. -/
def Progress.isAdmitted (schedule : List Int) (p : Progress) : Bool :=
  match schedule[p.level]? with
  | some needed => (p.points : Int) < needed
  | none => p.level = schedule.length && p.points = 0

/-- To be set. -/
def Progress.request (p : Progress) : TrackRequest := .set p.level p.points

/-! ### Tracks -/

namespace Track

variable {t next : Track} {p : Progress}

theorem exists_set?_iff (t : Track) (p : Progress) :
    (∃ next, t.set? p.level p.points = .ok next) ↔ p.isAdmitted t.schedule := by
  have hpoints : (0 : Int) ≤ p.points := Int.natCast_nonneg _
  unfold set? Progress.isAdmitted
  by_cases hlevel : p.level ≤ t.schedule.length
  · rw [dif_pos ⟨Int.natCast_nonneg _, Int.ofNat_le.mpr hlevel⟩]
    simp only [Int.toNat_natCast]
    cases hneeded : t.schedule[p.level]? with
    | none =>
      have hhighest : p.level = t.schedule.length :=
        Nat.le_antisymm hlevel (List.getElem?_eq_none_iff.mp hneeded)
      by_cases hzero : p.points = 0 <;> simp [hhighest, hzero]
    | some needed => by_cases hless : (p.points : Int) < needed <;> simp [hpoints, hless]
  · rw [dif_neg fun h => hlevel (Int.ofNat_le.mp h.2),
      List.getElem?_eq_none (Nat.le_of_not_le hlevel)]
    simp [Nat.ne_of_gt (Nat.lt_of_not_le hlevel)]

theorem not_isAdmitted_of_set? {e : TrackError} (h : t.set? p.level p.points = .error e) :
    ¬ p.isAdmitted t.schedule := by
  intro hadmitted
  obtain ⟨next, hnext⟩ := (t.exists_set?_iff p).mpr hadmitted
  cases h.symm.trans hnext

theorem progressOf_of_set? (h : t.set? p.level p.points = .ok next) :
    Snapshot.progressOf next = p := by
  obtain ⟨hlevel, hpoints⟩ := stands_of_set? h
  rw [Snapshot.progressOf, Int.ofNat_inj.mp hlevel, hpoints, Int.toNat_natCast]

theorem schedule_answer_request (t : Track) (p : Progress) :
    (t.answer p.request).2.schedule = t.schedule := by
  rw [Progress.request, answer]
  cases hset : t.set? p.level p.points with
  | ok next => exact schedule_of_set? hset
  | error e => rfl

/-- A track goes where it can stand, and stays where it is if it is sent elsewhere. -/
theorem progressOf_answer_request (t : Track) (p : Progress) :
    Snapshot.progressOf (t.answer p.request).2 =
      if p.isAdmitted t.schedule then p else Snapshot.progressOf t := by
  rw [Progress.request, answer]
  cases hset : t.set? p.level p.points with
  | ok next =>
    rw [if_pos ((t.exists_set?_iff p).mp ⟨next, hset⟩)]
    exact progressOf_of_set? hset
  | error e =>
    rw [if_neg (not_isAdmitted_of_set? hset)]
    rfl

/-- A track that is sent to one place after the other ends where it was last able to go. -/
theorem progressOf_after_requests (t : Track) (ps : List Progress) :
    Snapshot.progressOf (t.after (ps.map Progress.request)) =
      (ps.filter fun p => p.isAdmitted t.schedule).getLastD (Snapshot.progressOf t) := by
  induction ps generalizing t with
  | nil => rfl
  | cons p ps ih =>
    have hnext := ih (t.answer p.request).2
    rw [schedule_answer_request, progressOf_answer_request] at hnext
    rw [List.map_cons, after, List.foldl_cons, ← after, hnext, List.filter_cons]
    split
    · rw [List.getLastD_cons]
    · rfl

end Track

/-! ### Entries and contents by kind -/

/-- The entries of a kind. -/
def Snapshot.entries (s : Snapshot) : SavedKind → List (String × Progress)
  | .attributes => s.attributes
  | .skills => s.skills

/-- What entries say of an id, in whatever letter case they have it. -/
def Snapshot.saidOf (entries : List (String × Progress)) (id : String) : List Progress :=
  (entries.filter fun e => Text.upper e.1 == id).map Prod.snd

/-- The ids of a kind in upper case. -/
def Content.keys (c : Content) : SavedKind → List String
  | .attributes => c.attributeKeys
  | .skills => c.skillKeys

/-- The schedule of a kind. -/
def Content.schedule (c : Content) : SavedKind → List Int
  | .attributes => c.attributeSchedule
  | .skills => c.skillSchedule

/-- How far the track of an id is on a new sheet of the content on which the snapshot is restored:
as far as the last of its entries says that the schedule admits. -/
def Snapshot.restored (s : Snapshot) (c : Content) (kind : SavedKind) (id : String) : Progress :=
  ((saidOf (s.entries kind) id).filter (Progress.isAdmitted (c.schedule kind))).getLastD ⟨0, 0⟩

/-- An entry is restored if no later one for its id can be set. -/
theorem Snapshot.restored_eq {s : Snapshot} {c : Content} {kind : SavedKind}
    {earlier later : List (String × Progress)} {e : String × Progress}
    (hentries : s.entries kind = earlier ++ e :: later) (he : e.2.isAdmitted (c.schedule kind))
    (hlater : ∀ x ∈ later, Text.upper x.1 = Text.upper e.1 → ¬ x.2.isAdmitted (c.schedule kind)) :
    s.restored c kind (Text.upper e.1) = e.2 := by
  have hnone : (saidOf later (Text.upper e.1)).filter (Progress.isAdmitted (c.schedule kind)) =
      [] := by
    refine List.filter_eq_nil_iff.mpr fun p hp => ?_
    obtain ⟨x, hx, rfl⟩ := List.mem_map.mp hp
    obtain ⟨hmem, hsame⟩ := List.mem_filter.mp hx
    exact hlater x hmem (by simpa using hsame)
  have hsaid : saidOf (s.entries kind) (Text.upper e.1) =
      saidOf earlier (Text.upper e.1) ++ e.2 :: saidOf later (Text.upper e.1) := by
    simp [saidOf, hentries]
  rw [restored, hsaid, List.filter_append, List.filter_cons_of_pos he, hnone]
  simp

namespace Content

variable {c : Content} {tracks : String → Track}

/-- The tracks of a table after all entries of a kind have been set on them. -/
def restoring (c : Content) (kind : SavedKind) (entries : List (String × Progress))
    (tracks : String → Track) (id : String) : Track :=
  if id ∈ c.keys kind then
    (tracks id).after ((Snapshot.saidOf entries id).map Progress.request)
  else tracks id

theorem restoring_nil (c : Content) (kind : SavedKind) (tracks : String → Track) :
    c.restoring kind [] tracks = tracks := by
  funext id
  exact ite_self _

theorem restoring_cons (c : Content) (kind : SavedKind) (e : String × Progress)
    (entries : List (String × Progress)) (tracks : String → Track) :
    c.restoring kind (e :: entries) tracks =
      c.restoring kind entries (c.restoring kind [e] tracks) := by
  funext id
  simp only [restoring]
  split
  · rw [← List.singleton_append, Snapshot.saidOf, List.filter_append, List.map_append,
      List.map_append, Track.after, List.foldl_append]
    rfl
  · rfl

/-- One entry is set on the track of its id and changes no other. -/
theorem restoring_singleton (c : Content) (kind : SavedKind) (e : String × Progress)
    (tracks : String → Track) :
    c.restoring kind [e] tracks =
      if Text.upper e.1 ∈ c.keys kind then
        Function.update tracks (Text.upper e.1) ((tracks (Text.upper e.1)).answer e.2.request).2
      else tracks := by
  funext id
  by_cases hsame : Text.upper e.1 = id
  · subst hsame
    by_cases hkey : Text.upper e.1 ∈ c.keys kind <;>
      simp [restoring, Snapshot.saidOf, hkey, Track.after]
  · have hother : Function.update tracks (Text.upper e.1)
        ((tracks (Text.upper e.1)).answer e.2.request).2 id = tracks id :=
      Function.update_of_ne (Ne.symm hsame) _ _
    split <;> simp [restoring, Snapshot.saidOf, hsame, Track.after, hother]

theorem mem_keys {kind : SavedKind} {id : String} (h : id ∈ c.keys kind) :
    id ∈ c.attributeKeys ++ c.skillKeys := by
  cases kind with
  | attributes => exact List.mem_append_left _ h
  | skills => exact List.mem_append_right _ h

theorem exists_mem_keys {id : String} (h : id ∈ c.attributeKeys ++ c.skillKeys) :
    ∃ kind, id ∈ c.keys kind := by
  rcases List.mem_append.mp h with hattribute | hskill
  · exact ⟨.attributes, hattribute⟩
  · exact ⟨.skills, hskill⟩

/-- Tracks stay proper while entries are set on them. -/
theorem restoring_isProper (hc : c.IsValid) (h : Sheet.AreProper c tracks) (kind : SavedKind)
    (entries : List (String × Progress)) : Sheet.AreProper c (c.restoring kind entries tracks) := by
  have hkept (id : String) (hid : id ∈ c.attributeKeys ++ c.skillKeys) :
      (c.restoring kind entries tracks id).schedule = (tracks id).schedule ∧
        (c.restoring kind entries tracks id).IsProper := by
    unfold restoring
    split
    · exact (h.isProper hid).after (h.costs hc hid) _
    · exact ⟨rfl, h.isProper hid⟩
  constructor
  · intro id hid
    obtain ⟨hschedule, hproper⟩ := hkept id (List.mem_append_left _ hid)
    exact ⟨hschedule.trans (h.attributes id hid).1, hproper⟩
  · intro id hid
    obtain ⟨hschedule, hproper⟩ := hkept id (List.mem_append_right _ hid)
    exact ⟨hschedule.trans (h.skills id hid).1, hproper⟩

/-- The tracks of a table after all entries of a snapshot have been set on them. -/
def restoringAll (c : Content) (s : Snapshot) (tracks : String → Track) : String → Track :=
  c.restoring .skills s.skills (c.restoring .attributes s.attributes tracks)

theorem restoringAll_isProper (hc : c.IsValid) (h : Sheet.AreProper c tracks) (s : Snapshot) :
    Sheet.AreProper c (c.restoringAll s tracks) :=
  restoring_isProper hc (restoring_isProper hc h .attributes s.attributes) .skills s.skills

/-- No id is of both kinds, so only the entries of its own kind are set on the track of an id. -/
theorem restoringAll_of_mem (hc : c.IsValid) (s : Snapshot) (tracks : String → Track)
    {kind : SavedKind} {id : String} (hid : id ∈ c.keys kind) :
    c.restoringAll s tracks id =
      (tracks id).after ((Snapshot.saidOf (s.entries kind) id).map Progress.request) := by
  have hdisjoint := List.disjoint_of_nodup_append hc.keys_nodup
  cases kind with
  | attributes =>
    have hskill : id ∉ c.keys .skills := fun hmem => hdisjoint hid hmem
    rw [restoringAll, restoring, if_neg hskill, restoring, if_pos hid, Snapshot.entries]
  | skills =>
    have hattribute : id ∉ c.keys .attributes := fun hmem => hdisjoint hmem hid
    rw [restoringAll, restoring, if_pos hid, restoring, if_neg hattribute, Snapshot.entries]

end Content

theorem Sheet.AreProper.schedule_eq_of_mem {c : Content} {tracks : String → Track}
    (h : AreProper c tracks) {kind : SavedKind} {id : String} (hid : id ∈ c.keys kind) :
    (tracks id).schedule = c.schedule kind := by
  cases kind with
  | attributes => exact (h.attributes id hid).1
  | skills => exact (h.skills id hid).1

/-- A track goes as far as the last admitted entry of its kind leads it. -/
theorem Content.progressOf_restoringAll {c : Content} {tracks : String → Track} (hc : c.IsValid)
    (h : Sheet.AreProper c tracks) (s : Snapshot) {kind : SavedKind} {id : String}
    (hid : id ∈ c.keys kind) :
    Snapshot.progressOf (c.restoringAll s tracks id) =
      ((Snapshot.saidOf (s.entries kind) id).filter
        (Progress.isAdmitted (c.schedule kind))).getLastD (Snapshot.progressOf (tracks id)) := by
  rw [restoringAll_of_mem hc s tracks hid, Track.progressOf_after_requests,
    h.schedule_eq_of_mem hid]

/-- The sheet has a track for every id of its content, whatever else is on it. -/
theorem Sheet.track?_edit_ofTracks {c : Content} {who : Identity} {tracks : String → Track}
    {modifiers : List Modifier} {history : List Check} {id : String}
    (h : id ∈ c.attributeKeys ++ c.skillKeys) :
    ((ofTracks c who tracks).edit who modifiers history).track? id = some (tracks id) := by
  have htrack : (ofTracks c who tracks).track? id = some (tracks id) := by
    rw [track?_ofTracks, if_pos h]
  exact htrack

/-- What a snapshot holds of a kind are its tracks in the order of the content. -/
theorem Sheet.entries_ofSheet {c : Content} (who : Identity) (tracks : String → Track)
    (kind : SavedKind) :
    (Snapshot.ofSheet (.ofTracks c who tracks)).entries kind =
      (c.keys kind).map fun id => (id, Snapshot.progressOf (tracks id)) := by
  rw [ofSheet_ofTracks]
  cases kind with
  | attributes => rfl
  | skills => rfl

/-! ### Sheets -/

namespace Session

variable {σ : Type} {roller : Roller σ} {s : Session σ} {c : Content} {who : Identity}
  {tracks : String → Track} {kind : SavedKind} {modifiers : List Modifier} {history : List Check}

theorem savedIds_ofTracks (who : Identity) (tracks : String → Track) (kind : SavedKind) :
    savedIds (.ofTracks c who tracks) kind = c.keys kind := by
  cases kind with
  | attributes => exact savedIds_attributes
  | skills => exact savedIds_skills

theorem savedIds_edit_ofTracks (who : Identity) (tracks : String → Track)
    (modifiers : List Modifier) (history : List Check) (kind : SavedKind) :
    savedIds ((Sheet.ofTracks c who tracks).edit who modifiers history) kind = c.keys kind :=
  savedIds_ofTracks who tracks kind

/-- An entry for an id of its kind is set on the track of this id, if it can be. -/
theorem restoreOne_of_mem (roller : Roller σ) {saved : String} {p : Progress}
    (hs : s.sheet = (Sheet.ofTracks c who tracks).edit who modifiers history)
    (hkey : Text.upper saved ∈ c.keys kind) :
    restoreOne roller kind s (saved, p) =
      match (tracks (Text.upper saved)).set? p.level p.points with
      | .ok next => s.moveTo roller (Text.upper saved) (tracks (Text.upper saved)) next
      | .error e => s.record (.savedUnreachable kind saved (e.message (Text.upper saved))) := by
  have hkind : (savedIds s.sheet kind).contains (Text.upper saved) = true := by
    rw [hs, savedIds_edit_ofTracks]
    exact List.contains_iff_mem.mpr hkey
  have htrack : s.sheet.track? (Text.upper saved) = some (tracks (Text.upper saved)) := by
    rw [hs]
    exact Sheet.track?_edit_ofTracks (Content.mem_keys hkey)
  simp only [restoreOne, hkind, htrack, setProgress]
  cases (tracks (Text.upper saved)).set? p.level p.points with
  | ok next => rfl
  | error e => rfl

/-- An entry for an id that no statistic of its kind has is passed over. -/
theorem restoreOne_of_not_mem (roller : Roller σ) {saved : String} {p : Progress}
    (hs : s.sheet = (Sheet.ofTracks c who tracks).edit who modifiers history)
    (hkey : Text.upper saved ∉ c.keys kind) :
    restoreOne roller kind s (saved, p) = s.record (.savedUnknown kind saved) := by
  have hkind : (savedIds s.sheet kind).contains (Text.upper saved) = false := by
    rw [hs, savedIds_edit_ofTracks, List.contains_eq_mem, decide_eq_false hkey]
  simp only [restoreOne, hkind]

/-- One entry, on the sheet and for those who listen. -/
theorem restoreOne_spec (roller : Roller σ)
    (hs : s.sheet = (Sheet.ofTracks c who tracks).edit who modifiers history)
    (kind : SavedKind) (e : String × Progress) :
    (restoreOne roller kind s e).sheet =
        (Sheet.ofTracks c who (c.restoring kind [e] tracks)).edit who modifiers history ∧
      ∀ n ∈ (restoreOne roller kind s e).told, n ∈ s.told ∨ n.change.stat ∈ c.keys kind := by
  obtain ⟨saved, p⟩ := e
  rw [Content.restoring_singleton]
  by_cases hkey : Text.upper saved ∈ c.keys kind
  · rw [restoreOne_of_mem roller hs hkey, if_pos hkey, Progress.request, Track.answer]
    cases (tracks (Text.upper saved)).set? p.level p.points with
    | ok next =>
      refine ⟨?_, fun n hn => ?_⟩
      · rw [← Sheet.setTrack_ofTracks]
        exact (sheet_moveTo ..).trans (congrArg (Sheet.setTrack · (Text.upper saved) next) hs)
      · rcases mem_told_moveTo hn with hbefore | hstat
        · exact .inl hbefore
        · exact .inr (hstat ▸ hkey)
    | error cause =>
      have hsame : ((tracks (Text.upper saved)).granted (Except.error cause).toOption).2 =
          tracks (Text.upper saved) := rfl
      rw [hsame, Function.update_eq_self]
      exact ⟨hs, fun n hn => .inl hn⟩
  · rw [restoreOne_of_not_mem roller hs hkey, if_neg hkey]
    exact ⟨hs, fun n hn => .inl hn⟩

/-- All entries of a kind, one after the other. -/
theorem foldl_restoreOne_spec (roller : Roller σ) (kind : SavedKind)
    (entries : List (String × Progress))
    (hs : s.sheet = (Sheet.ofTracks c who tracks).edit who modifiers history) :
    (entries.foldl (restoreOne roller kind) s).sheet =
        (Sheet.ofTracks c who (c.restoring kind entries tracks)).edit who modifiers history ∧
      ∀ n ∈ (entries.foldl (restoreOne roller kind) s).told,
        n ∈ s.told ∨ n.change.stat ∈ c.keys kind := by
  induction entries generalizing s tracks with
  | nil =>
    rw [Content.restoring_nil]
    exact ⟨hs, fun n hn => .inl hn⟩
  | cons e entries ih =>
    obtain ⟨hone, htold⟩ := restoreOne_spec roller hs kind e
    obtain ⟨hsheet, hrest⟩ := ih hone
    rw [List.foldl_cons, Content.restoring_cons]
    exact ⟨hsheet, fun n hn => (hrest n hn).elim (htold n) .inr⟩

/-- All entries of a snapshot, those of attributes before those of skills. -/
theorem restore_spec (roller : Roller σ) (snapshot : Snapshot)
    (hs : s.sheet = (Sheet.ofTracks c who tracks).edit who modifiers history) :
    (s.restore roller snapshot).sheet =
        (Sheet.ofTracks c snapshot.identity (c.restoringAll snapshot tracks)).edit
          snapshot.identity modifiers history ∧
      ∀ n ∈ (s.restore roller snapshot).told,
        n ∈ s.told ∨ n.change.stat ∈ c.attributeKeys ++ c.skillKeys := by
  have hidentity : { s.sheet with identity := snapshot.identity } =
      (Sheet.ofTracks c snapshot.identity tracks).edit snapshot.identity modifiers history :=
    congrArg (fun sheet : Sheet => { sheet with identity := snapshot.identity }) hs
  obtain ⟨hattributes, htold⟩ := foldl_restoreOne_spec
    (s := { s with sheet := { s.sheet with identity := snapshot.identity } })
    roller .attributes snapshot.attributes hidentity
  obtain ⟨hskills, hrest⟩ := foldl_restoreOne_spec roller .skills snapshot.skills hattributes
  refine ⟨hskills, fun n hn => ?_⟩
  rcases hrest n hn with hbefore | hskill
  · exact (htold n hbefore).imp_right (List.mem_append_left _)
  · exact .inr (List.mem_append_right _ hskill)

/-- Any snapshot that is restored on a new sheet gives it its identity and leaves every track as far
as the last of its entries says that can be set; only tracks are told of. -/
theorem restored_spec (roller : Roller σ) (dice : σ) (journal : Journal) (hc : c.IsValid)
    (snapshot : Snapshot) :
    let s := CharacterFile.restored roller c snapshot dice journal
    (∃ tracks, Sheet.AreProper c tracks ∧ s.sheet = .ofTracks c snapshot.identity tracks ∧
      ∀ kind, ∀ id ∈ c.keys kind,
        Snapshot.progressOf (tracks id) = snapshot.restored c kind id) ∧
      ∀ n ∈ s.told, n.change.stat ∈ c.attributeKeys ++ c.skillKeys := by
  intro s
  have hnew := Sheet.areProper_newTracks hc
  have hs : (start (Sheet.ofContent c) dice journal).sheet =
      (Sheet.ofTracks c .blank (Sheet.newTracks c)).edit .blank [] [] :=
    Sheet.ofContent_eq_ofTracks hc .blank
  obtain ⟨hsheet, htold⟩ := restore_spec roller snapshot hs
  refine ⟨⟨_, c.restoringAll_isProper hc hnew snapshot, hsheet, fun kind id hid => ?_⟩,
    fun n hn => (htold n hn).resolve_left List.not_mem_nil⟩
  have hstart : Snapshot.progressOf (Sheet.newTracks c id) = ⟨0, 0⟩ := by
    unfold Sheet.newTracks
    split <;> rfl
  rw [Content.progressOf_restoringAll hc hnew snapshot hid, hstart, Snapshot.restored]

end Session

end Tabletop
