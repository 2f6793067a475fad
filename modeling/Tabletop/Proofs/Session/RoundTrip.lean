import Tabletop.Proofs.Command.Saving
import Tabletop.Proofs.Evaluation.Circularity
import Tabletop.Proofs.Session

/-!
# Characters saved and restored

Whatever was asked of two sessions on sheets of the same content, their tracks stand where additions
and removals can lead. So the snapshot of one sheet can be restored on the other in full: no entry
is passed over, and it then has the identity and all tracks of the first, whatever it had before.
The same goes for a new sheet if the snapshot went through a file.
-/
namespace Tabletop

/-! ### What is recorded -/

/-- The record says that a saved entry was passed over. -/
def Record.isSkip : Record → Bool
  | savedUnknown .. => true
  | savedUnreachable .. => true
  | _ => false

/-- From the first journal to the second, records were only added, and none of them says that a
saved entry was passed over. -/
def Journal.GrowsWithoutSkip (j j' : Journal) : Prop :=
  ∃ new, j'.records = j.records ++ new ∧ ∀ r ∈ new, r.isSkip = false

namespace Journal.GrowsWithoutSkip

variable {j j' j'' : Journal}

theorem refl (j : Journal) : j.GrowsWithoutSkip j := ⟨[], (List.append_nil _).symm, by simp⟩

theorem trans (h : j.GrowsWithoutSkip j') (k : j'.GrowsWithoutSkip j'') :
    j.GrowsWithoutSkip j'' := by
  obtain ⟨new, hnew, hskip⟩ := h
  obtain ⟨more, hmore, hskip'⟩ := k
  refine ⟨new ++ more, by rw [hmore, hnew, List.append_assoc], fun r hr => ?_⟩
  rcases List.mem_append.mp hr with hr | hr
  · exact hskip r hr
  · exact hskip' r hr

theorem add {r : Record} (h : r.isSkip = false) (j : Journal) : j.GrowsWithoutSkip (j.add r) :=
  ⟨[r], Journal.records_add j r, fun _ hr => List.mem_singleton.mp hr ▸ h⟩

theorem addAll {rs : List Record} (h : ∀ r ∈ rs, r.isSkip = false) (j : Journal) :
    j.GrowsWithoutSkip (j.addAll rs) := ⟨rs, Journal.records_addAll j rs, h⟩

end Journal.GrowsWithoutSkip

open Journal.GrowsWithoutSkip in
/-- Evaluation knows nothing of what was saved. -/
theorem Evaluates.growsWithoutSkip {σ : Type} {sheet : Sheet} {roller : Roller σ} {task : Task}
    {found : Finding} {c c' : Course σ} (h : Evaluates sheet roller task c found c') :
    c.journal.GrowsWithoutSkip c'.journal := by
  induction h with
  | literal => exact refl _
  | dice => exact add rfl _
  | unknown _ => exact refl _
  | circular _ _ => exact add rfl _
  | known _ _ _ ih => exact ih
  | negation _ ih => exact ih
  | binary _ _ ihl ihr => exact ihl.trans ihr
  | unparsed _ => exact add rfl _
  | parsed _ _ ih => exact (add rfl _).trans ih
  | noLines => exact refl _
  | skip _ _ _ ihf ihs =>
    rw [Course.journal_enter] at ihf
    exact (ihf.trans (add rfl _)).trans ihs
  | line _ _ _ ihf ihs =>
    rw [Course.journal_enter] at ihf
    exact ihf.trans ihs
  | level _ _ ih => exact ih
  | derived _ _ iht ihs =>
    rw [Course.journal_enter] at iht
    exact iht.trans ihs

/-- Building a sheet passes nothing over. -/
theorem Sheet.isSkip_of_mem_buildRecords {sheet : Sheet} {r : Record}
    (h : r ∈ sheet.buildRecords) : r.isSkip = false := by
  rcases List.mem_append.mp h with h | h
  · obtain ⟨d, -, h⟩ := List.mem_flatMap.mp h
    rcases List.mem_cons.mp h with rfl | h
    · rfl
    · split at h
      · cases h
      · rw [List.mem_singleton.mp h]
        rfl
  · rw [List.mem_singleton.mp h]
    rfl

namespace Session

variable {σ τ : Type} {roller : Roller σ} {s : Session σ} {c : Content}

theorem growsWithoutSkip_tell (roller : Roller σ) (change : Change) (s : Session σ)
    (l : Listener) : s.journal.GrowsWithoutSkip (tell roller change s l).journal := by
  unfold tell
  split
  · exact .refl _
  · rename_i name _
    unfold Session.evaluate
    cases hf : s.sheet.find? name with
    | none =>
      have he : s.sheet.evaluate roller name s.course = (Sheet.noBreakdown, s.course) := by
        simp only [Sheet.evaluate, hf]
      rw [he]
      exact .refl _
    | some stat => exact (Sheet.evaluates_evaluate roller hf s.course).growsWithoutSkip

theorem growsWithoutSkip_announce (roller : Roller σ) (s : Session σ) (change : Change) :
    s.journal.GrowsWithoutSkip (announce roller s change).journal :=
  announce_induction (P := fun t => s.journal.GrowsWithoutSkip t.journal) (.add rfl _)
    fun t l ht => ht.trans (growsWithoutSkip_tell roller change t l)

theorem growsWithoutSkip_moveTo (roller : Roller σ) (s : Session σ) (id : String)
    (old new : Track) : s.journal.GrowsWithoutSkip (s.moveTo roller id old new).journal :=
  moveTo_induction (P := fun t => s.journal.GrowsWithoutSkip t.journal) (.refl _)
    fun t e _ ht => ht.trans (growsWithoutSkip_announce roller t e)

theorem growsWithoutSkip_foldl_put (roller : Roller σ) (tracks : String → Track)
    (ids : List String) (s : Session σ) :
    s.journal.GrowsWithoutSkip (ids.foldl (put roller tracks) s).journal := by
  refine List.foldlRecOn (motive := fun t : Session σ => s.journal.GrowsWithoutSkip t.journal)
    ids (put roller tracks) (.refl _) ?_
  exact fun t ht id _ => ht.trans (growsWithoutSkip_moveTo roller t id _ _)

end Session

/-! ### Sheets in play -/

/-- The sheet has the statistics of the content, with all tracks where additions and removals can
lead. -/
def Sheet.IsPlayed (c : Content) (sheet : Sheet) : Prop :=
  ∃ tracks, AreProper c tracks ∧ sheet = (ofTracks c sheet.identity tracks).edit sheet.identity
    sheet.modifiers sheet.history

/-- The snapshot of a sheet holds nothing of its modifiers and checks. -/
theorem Sheet.ofSheet_eq {c : Content} {sheet : Sheet} {tracks : String → Track}
    (h : sheet = (ofTracks c sheet.identity tracks).edit sheet.identity sheet.modifiers
      sheet.history) : Snapshot.ofSheet sheet = .ofSheet (ofTracks c sheet.identity tracks) := by
  have hsnapshot := congrArg Snapshot.ofSheet h
  exact hsnapshot

theorem Sheet.isPlayed_ofContent {c : Content} (hc : c.IsValid) : IsPlayed c (ofContent c) :=
  ⟨newTracks c, areProper_newTracks hc, ofContent_eq_ofTracks hc .blank⟩

namespace Session

variable {σ τ : Type} {roller : Roller σ} {s t : Session σ} {c : Content}

/-- Whatever a session does, its sheet stays in play. -/
theorem Acts.isPlayed (hc : c.IsValid) (h : Acts roller s t) (hs : s.sheet.IsPlayed c) :
    t.sheet.IsPlayed c := by
  obtain ⟨tracks, hproper, hsheet⟩ := hs
  cases h with
  | @grant id old request htrack _ =>
    have hfound : (Sheet.ofTracks c s.sheet.identity tracks).track? id = some old := by
      rw [hsheet] at htrack
      exact htrack
    rw [Sheet.track?_ofTracks] at hfound
    split at hfound
    · rename_i hid
      obtain rfl := Option.some.inj hfound
      have hanswer := (hproper.isProper hid).answer (hproper.costs hc hid) request
      refine ⟨_, hproper.update hanswer.1 hanswer.2, ?_⟩
      rw [sheet_moveTo, ← Sheet.setTrack_ofTracks]
      exact congrArg (Sheet.setTrack · id _) hsheet
    · cases hfound
  | record r => exact ⟨tracks, hproper, hsheet⟩
  | edit who modifiers history =>
    have hedited := congrArg (Sheet.edit · who modifiers history) hsheet
    exact ⟨tracks, hproper, hedited⟩

theorem isPlayed_of_acts (hc : c.IsValid) (h : Relation.ReflTransGen (Acts roller) s t)
    (hs : s.sheet.IsPlayed c) : t.sheet.IsPlayed c := by
  induction h with
  | refl => exact hs
  | tail _ hlast ih => exact hlast.isPlayed hc ih

/-- Whatever was asked of a session on a new sheet, its sheet is in play. -/
theorem isPlayed_after (hc : c.IsValid) (hs : s.sheet = .ofContent c)
    (requests : List SheetRequest) : (s.after roller requests).sheet.IsPlayed c := by
  refine isPlayed_of_acts hc (acts_after roller s requests) ?_
  rw [hs]
  exact Sheet.isPlayed_ofContent hc

/-- A snapshot of a sheet in play is restored on another one in full. -/
theorem restore_ofSheet_of_isPlayed (roller : Roller σ) {saved : Sheet} (hc : c.IsValid)
    (hs : s.sheet.IsPlayed c) (hsaved : saved.IsPlayed c) :
    let restored := s.restore roller (.ofSheet saved)
    restored.sheet = saved.edit saved.identity s.sheet.modifiers s.sheet.history ∧
      s.journal.GrowsWithoutSkip restored.journal := by
  obtain ⟨current, hcurrent, hsheet⟩ := hs
  obtain ⟨tracks, htracks, hsavedsheet⟩ := hsaved
  rw [Sheet.ofSheet_eq hsavedsheet]
  refine ⟨?_, ?_⟩
  · rw [sheet_restore_ofSheet roller hc hcurrent htracks hsheet]
    exact (congrArg (Sheet.edit · saved.identity s.sheet.modifiers s.sheet.history)
      hsavedsheet).symm
  · rw [restore_ofSheet roller hc hcurrent htracks hsheet]
    exact growsWithoutSkip_foldl_put roller tracks _ _

end Session

/-! ### Through a file -/

/-- All numbers of the snapshot can be read back. -/
structure Snapshot.NumbersFit (s : Snapshot) : Prop where
  identity : ∀ n ∈ [s.identity.level, s.identity.age, s.identity.wealthWeekly,
    s.identity.wealthRemaining], Decimal.fits n
  progress : s.ProgressFits

theorem Sheet.IsPlayed.isLegible {c : Content} {sheet : Sheet} (hc : c.IsValid)
    (h : sheet.IsPlayed c) (hwhole : (Snapshot.ofSheet sheet).hasHalf = false)
    (hfit : (Snapshot.ofSheet sheet).NumbersFit) : (Snapshot.ofSheet sheet).IsLegible := by
  obtain ⟨tracks, hproper, hsheet⟩ := h
  have hprogress := hfit.progress
  rw [ofSheet_eq hsheet] at hprogress ⊢
  have hreached : IsReached c sheet.identity (.ofTracks c sheet.identity tracks) :=
    ⟨tracks, hproper, rfl⟩
  exact hreached.isLegible hc ⟨Snapshot.hasHalf_eq_false_iff.mp hwhole, hfit.identity⟩ hprogress

namespace Session

variable {σ τ : Type} {s : Session σ} {t : Session τ} {c : Content}

/-- A sheet in play that was saved is loaded in full. -/
theorem exists_load_of_save (roller : Roller σ) (hc : c.IsValid) {saved : Sheet}
    (hsaved : saved.IsPlayed c) {tree after : FileTree} {path : Path}
    (hsave : CharacterFile.save tree path saved = (.ok (), after))
    (hfit : (Snapshot.ofSheet saved).NumbersFit) (dice : σ) (journal : Journal) :
    ∃ loaded, CharacterFile.load roller after path c dice journal = .ok loaded ∧
      loaded.sheet = saved.edit saved.identity [] [] ∧
        journal.GrowsWithoutSkip loaded.journal := by
  obtain ⟨hwritable, loc, hfile, -⟩ := CharacterFile.exists_isFileAt_of_save hsave
  have hload := CharacterFile.loadSnapshot_of_isFileAt hfile
    (hsaved.isLegible hc hwritable.hasHalf hfit)
    le_rfl
  obtain ⟨hsheet, hjournal⟩ := restore_ofSheet_of_isPlayed roller hc
    (s := start (Sheet.ofContent c) dice journal) (Sheet.isPlayed_ofContent hc) hsaved
  refine ⟨CharacterFile.restored roller c (.ofSheet saved) dice journal, ?_, hsheet, ?_⟩
  · rw [CharacterFile.load, hload]
    rfl
  · exact .trans (.addAll (fun _ => Sheet.isSkip_of_mem_buildRecords) journal) hjournal

/-- Whatever was asked of two sessions on new sheets of valid content, the snapshot of the first one
gives the second one its identity and all of its tracks, and nothing of it is passed over. So it is
with a new sheet if the snapshot was saved and its numbers can be read back. -/
theorem restore_ofSheet_after (hc : c.IsValid) (roller : Roller σ) (other : Roller τ)
    (hs : s.sheet = .ofContent c) (ht : t.sheet = .ofContent c)
    (requests requests' : List SheetRequest) :
    let saved := (s.after roller requests).sheet
    let target := t.after other requests'
    let restored := target.restore other (.ofSheet saved)
    (restored.sheet = saved.edit saved.identity target.sheet.modifiers target.sheet.history ∧
      target.journal.GrowsWithoutSkip restored.journal) ∧
    ∀ tree path after, CharacterFile.save tree path saved = (.ok (), after) →
      (Snapshot.ofSheet saved).NumbersFit → ∀ dice journal,
        ∃ loaded, CharacterFile.load other after path c dice journal = .ok loaded ∧
          loaded.sheet = saved.edit saved.identity [] [] ∧
            journal.GrowsWithoutSkip loaded.journal := by
  intro saved target restored
  have hsaved : saved.IsPlayed c := isPlayed_after hc hs requests
  refine ⟨restore_ofSheet_of_isPlayed other hc (isPlayed_after hc ht requests') hsaved, ?_⟩
  intro tree path after hsave hfit dice journal
  exact exists_load_of_save other hc hsaved hsave hfit dice journal

/-- A session on a new sheet of the small content. -/
def ofSmallContent : Session Unit :=
  start ⟨.blank, [⟨"STR", "STR", "", .start [1, 2], []⟩], [], [], []⟩ () .empty

theorem isValid_smallContent : Command.smallContent.IsValid :=
  ⟨by decide, by decide, by decide, List.nodup_singleton _⟩

theorem sheet_ofSmallContent : ofSmallContent.sheet = .ofContent Command.smallContent :=
  Command.ofContent_small.symm

/-- A character whose strength stands between two levels. -/
def ann : Sheet :=
  ⟨{ Identity.blank with name := "Ann", level := -3 },
    [⟨"STR", "STR", "", ⟨[1, 2], 1, 1, by decide⟩, []⟩], [], [], []⟩

/-- What makes Ann of a new sheet. -/
def annRequests : List SheetRequest :=
  [.edit ann.identity [] [], .track "STR" .add, .track "STR" .add]

/-- Ann is restored on a sheet of the highest strength, and from a file. -/
theorem restore_ofSheet_ann :
    Command.smallContent.IsValid ∧ ofSmallContent.sheet = .ofContent Command.smallContent ∧
      (ofSmallContent.after (Roller.fixed 1) annRequests).sheet = ann ∧
      ((ofSmallContent.after (Roller.fixed 2) [.track "STR" (.set 2 0)]).restore (Roller.fixed 2)
        (.ofSheet ann)).sheet = ann ∧
      ∃ after loaded,
        CharacterFile.save ⟨[]⟩ ⟨.root, ["ann.json"]⟩ ann = (.ok (), after) ∧
        (Snapshot.ofSheet ann).NumbersFit ∧
        CharacterFile.load (Roller.fixed 2) after ⟨.root, ["ann.json"]⟩ Command.smallContent ()
          .empty = .ok loaded ∧
        loaded.sheet = ann := by
  have hc := isValid_smallContent
  have hann : (ofSmallContent.after (Roller.fixed 1) annRequests).sheet = ann := rfl
  have hbare :
      let target := (ofSmallContent.after (Roller.fixed 2) [.track "STR" (.set 2 0)]).sheet
      target.modifiers = [] ∧ target.history = [] := ⟨rfl, rfl⟩
  obtain ⟨after, hsave⟩ :
      ∃ after, CharacterFile.save ⟨[]⟩ ⟨.root, ["ann.json"]⟩ ann = (.ok (), after) := by
    refine ⟨_, Prod.fst_eq_iff.mp ?_⟩
    rw [← Command.toOption_eq_some_iff]
    decide +kernel
  have hfit : (Snapshot.ofSheet ann).NumbersFit := by
    have hsmall : (∀ n ∈ [ann.identity.level, ann.identity.age, ann.identity.wealthWeekly,
        ann.identity.wealthRemaining], n.natAbs < 100) ∧
          ∀ e ∈ (Snapshot.ofSheet ann).attributes ++ (Snapshot.ofSheet ann).skills,
            (e.2.level : Int).natAbs < 100 ∧ (e.2.points : Int).natAbs < 100 := by decide
    exact ⟨fun n hn => Decimal.fits_of_natAbs_lt_hundred (hsmall.1 n hn), fun e he =>
      ⟨Decimal.fits_of_natAbs_lt_hundred (hsmall.2 e he).1,
        Decimal.fits_of_natAbs_lt_hundred (hsmall.2 e he).2⟩⟩
  obtain ⟨⟨hsheet, -⟩, hfile⟩ := restore_ofSheet_after hc (Roller.fixed 1) (Roller.fixed 2)
    sheet_ofSmallContent sheet_ofSmallContent annRequests [.track "STR" (.set 2 0)]
  rw [hann] at hsheet hfile
  rw [hbare.1, hbare.2] at hsheet
  obtain ⟨loaded, hload, hloaded, -⟩ := hfile ⟨[]⟩ ⟨.root, ["ann.json"]⟩ after hsave hfit () .empty
  exact ⟨hc, sheet_ofSmallContent, hann, hsheet, after, loaded, hsave, hfit, hload, hloaded⟩

end Session

end Tabletop
