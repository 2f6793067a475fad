import Tabletop.Proofs.Evaluation.Likeness
import Tabletop.Proofs.Evaluation.Valuation
import Tabletop.Proofs.Sheet.Mapping

/-!
# What the value of a statistic depends on

An evaluation follows references and looks at nothing but the statistics that it gets to: their
levels or formulas, and the modifiers on them. Sheets that agree on these give the same breakdown
and roll the same dice, however much they differ elsewhere. So whatever is changed elsewhere on a
sheet, the value of a statistic stays.
-/
namespace Tabletop

/-! ### Likeness of what is the same -/

theorem BreakdownLine.eq_of_alike {line line' : BreakdownLine}
    (h : BreakdownLine.Alike .same line line') : line = line' := by
  cases h with
  | mk h =>
    obtain rfl := h
    rfl

theorem Breakdown.Alike.eq {b b' : Breakdown} (h : b.Alike .same b') : b = b' := by
  obtain ⟨base, lines⟩ := b
  obtain ⟨base', lines'⟩ := b'
  obtain ⟨hbase, hlines⟩ := h
  have hsame : List.Forall₂ Eq lines lines' := hlines.imp fun _ _ => BreakdownLine.eq_of_alike
  rw [List.forall₂_eq_eq_eq] at hsame
  exact congrArg₂ Breakdown.mk hbase hsame

theorem Roller.alike_self {σ : Type} (roller : Roller σ) : roller.Alike .same Eq roller := by
  rintro sides s _ rfl
  exact ⟨rfl, rfl⟩

/-! ### Agreement of sheets -/

/-- What the value of a statistic starts from. -/
inductive Nature where
  | attribute (level : Nat)
  | skill (level ownerLevel : Nat)
  | derived (formula : String)
  deriving DecidableEq

namespace Statistic

/-- A skill has a level of its own and that of the attribute that owns it. -/
def nature : Statistic → Nature
  | ofAttribute a => .attribute a.track.level
  | ofSkill owner s => .skill s.track.level owner.track.level
  | ofDerived d => .derived d.formula

theorem level?_congr {x y : Statistic} (h : x.nature = y.nature) : x.level? = y.level? := by
  cases x <;> cases y <;> simp_all [nature, level?]

theorem formula?_congr {x y : Statistic} (h : x.nature = y.nature) : x.formula? = y.formula? := by
  cases x <;> cases y <;> simp_all [nature, formula?]

end Statistic

namespace Sheet

/-- The sheets have statistics of the same ids. -/
def SameIds (a b : Sheet) : Prop :=
  ∀ id, id ∈ a.statistics.map Statistic.id ↔ id ∈ b.statistics.map Statistic.id

/-- The statistics of an id have the same nature on both sheets, and the same modifiers are on them.
-/
structure AgreeOn (a b : Sheet) (id : String) : Prop where
  nature : (a.statistic? id).map Statistic.nature = (b.statistic? id).map Statistic.nature
  modifiers : a.modifiersOn id = b.modifiersOn id

/-- References lead from the statistic that a name stands for to the target, which may be the
statistic itself. -/
def Reaches (sheet : Sheet) (name : String) (target : Statistic) : Prop :=
  ∃ stat, sheet.find? name = some stat ∧ Relation.ReflTransGen sheet.Refers stat target

/-- The statistic of a name has the same breakdown on both sheets and rolls the same dice for it,
whatever the dice show and whichever statistics are marked. -/
def EvaluatesAs (a b : Sheet) (name : String) : Prop :=
  ∀ (σ : Type) (roller : Roller σ) (c : Course (Tally σ)),
    (a.evaluate roller.tallied name c).1 = (b.evaluate roller.tallied name c).1 ∧
      (a.evaluate roller.tallied name c).2.dice = (b.evaluate roller.tallied name c).2.dice

theorem EvaluatesAs.trans {a b c : Sheet} {name : String} (h : a.EvaluatesAs b name)
    (k : b.EvaluatesAs c name) : a.EvaluatesAs c name := by
  intro σ roller course
  obtain ⟨hbreakdown, hdice⟩ := h σ roller course
  obtain ⟨hbreakdown', hdice'⟩ := k σ roller course
  exact ⟨hbreakdown.trans hbreakdown', hdice.trans hdice'⟩

variable {a b : Sheet} {name : String}

theorem isSome_statistic? (sheet : Sheet) (id : String) :
    (sheet.statistic? id).isSome ↔ id ∈ sheet.statistics.map Statistic.id := by
  simp [statistic?, List.find?_isSome]

theorem SameIds.statistic?_eq_none (h : a.SameIds b) {id : String}
    (hid : a.statistic? id = none) : b.statistic? id = none := by
  rw [← Option.not_isSome_iff_eq_none, isSome_statistic?] at hid ⊢
  rwa [← h]

/-- Statistics of one id on sheets that agree on it have the same nature. -/
theorem AgreeOn.nature_eq {id : String} {x y : Statistic} (h : a.AgreeOn b id)
    (hx : a.statistic? id = some x) (hy : b.statistic? id = some y) : x.nature = y.nature := by
  have hnature := h.nature
  rw [hx, hy] at hnature
  exact Option.some.inj hnature

theorem AgreeOn.exists_statistic? {id : String} {x : Statistic} (h : a.AgreeOn b id)
    (hx : a.statistic? id = some x) : ∃ y, b.statistic? id = some y := by
  have hnature := h.nature
  rw [hx] at hnature
  obtain ⟨y, hy, -⟩ := Option.map_eq_some_iff.mp hnature.symm
  exact ⟨y, hy⟩

/-- What a name stands for on one sheet tells the id of what it stands for on another. -/
theorem find?_of_statistic? {x y : Statistic} (hx : a.find? name = some x)
    (hy : b.statistic? x.id = some y) : b.find? name = some y := by
  rwa [statistic?_id hx] at hy

theorem Reaches.statistic? {target : Statistic} (h : a.Reaches name target) :
    a.statistic? target.id = some target := by
  obtain ⟨stat, hf, hr⟩ := h
  cases hr with
  | refl => exact statistic?_of_find? hf
  | tail _ hlast => exact statistic?_of_refers hlast

theorem Reaches.tail {stat target : Statistic} (h : a.Reaches name stat)
    (hr : a.Refers stat target) : a.Reaches name target := by
  obtain ⟨first, hf, hwalk⟩ := h
  exact ⟨first, hf, hwalk.tail hr⟩

/-- Everything that a name reaches is in a list that has its statistic and all references of its
members. -/
theorem Reaches.mem_of_closed {stats : List Statistic} {target : Statistic}
    (h : a.Reaches name target) (hstart : ∀ stat, a.find? name = some stat → stat ∈ stats)
    (hclosed : ∀ stat ∈ stats, ∀ next ∈ a.references stat, next ∈ stats) : target ∈ stats := by
  obtain ⟨stat, hf, hwalk⟩ := h
  induction hwalk with
  | refl => exact hstart stat hf
  | tail _ hlast ih => exact hclosed _ ih _ (mem_references_iff.mpr hlast)

/-! ### Evaluation looks at nothing else -/

/-- A name in a formula of a statistic that is reached stands on both sheets for nothing or for
statistics of one id, which is reached. -/
theorem pairNames_of_reaches (hids : a.SameIds b)
    (hagree : ∀ target, a.Reaches name target → a.AgreeOn b target.id) {x : Statistic}
    (hx : a.Reaches name x) {source : String} (hsource : source ∈ a.formulasOf x) :
    a.PairNames b (fun x y => a.Reaches name x ∧ b.statistic? x.id = some y) (namesIn source) := by
  intro other hother
  cases hf : a.find? other with
  | none =>
    have hf' : b.find? other = none := hids.statistic?_eq_none hf
    rw [hf']
    exact .none
  | some z =>
    have hrefers : a.Refers x z := by
      refine ⟨source, hsource, ?_⟩
      cases hp : (parse source).term with
      | none => simp [namesIn, hp] at hother
      | some t =>
        rw [namesIn_of_parse hp] at hother
        exact ⟨t, hp, other, hother, hf⟩
    have hz := hx.tail hrefers
    obtain ⟨y, hy⟩ := (hagree z hz).exists_statistic? hz.statistic?
    rw [find?_of_statistic? hf hy]
    exact .some ⟨hz, hy⟩

/-- Where sheets agree on all that a name reaches, statistics that are reached are paired with those
of the same ids. -/
def pairingOfReaches (hids : a.SameIds b)
    (hagree : ∀ target, a.Reaches name target → a.AgreeOn b target.id) :
    a.Pairing .same b where
  rel x y := a.Reaches name x ∧ b.statistic? x.id = some y
  id_eq h := (statistic?_id h.2).symm
  level {x y} h := by
    rw [Statistic.level?_congr ((hagree x h.1).nature_eq h.1.statistic? h.2)]
    cases y.level? with
    | none => exact .none
    | some n => exact .some rfl
  formula_eq {x _} h :=
    Statistic.formula?_congr ((hagree x h.1).nature_eq h.1.statistic? h.2)
  modifiers_eq {x y} h := by
    rw [statistic?_id h.2]
    exact (hagree x h.1).modifiers
  names h _ hsource := pairNames_of_reaches hids hagree h.1 hsource

theorem evaluatesAs_of_agree (hids : a.SameIds b)
    (hagree : ∀ target, a.Reaches name target → a.AgreeOn b target.id) :
    a.EvaluatesAs b name := by
  intro σ roller c
  cases hf : a.find? name with
  | none =>
    have hf' : b.find? name = none := hids.statistic?_eq_none hf
    simp only [evaluate, hf, hf', and_self]
  | some x =>
    have hx : a.Reaches name x := ⟨x, hf, .refl⟩
    obtain ⟨y, hy⟩ := (hagree x hx).exists_statistic? hx.statistic?
    have hf' : b.find? name = some y := find?_of_statistic? hf hy
    obtain ⟨found, d, he, halike, hlead⟩ := (evaluates_evaluate roller.tallied hf c).hasAlike
      roller.tallied.alike_self (pairingOfReaches hids hagree) (.statistic ⟨hx, hy⟩)
      (d := c) ⟨rfl, rfl⟩
    obtain ⟨rfl, rfl⟩ := he.unique (evaluates_evaluate roller.tallied hf' c)
    cases halike with
    | statistic h => exact ⟨h.eq, hlead.ends.dice⟩

/-! ### Changes elsewhere -/

/-- No statistic that the name reaches has the id. -/
def Avoids (sheet : Sheet) (name id : String) : Prop :=
  ∀ target, sheet.Reaches name target → target.id ≠ id

/-- Changes of a sheet at statistics that the name does not reach, and of the order of modifiers on
different statistics. -/
inductive Elsewhere (name : String) : Sheet → Sheet → Prop
  | add {a b : Sheet} {other label formula : String} {m : Modifier}
      (h : a.addModifier? other label formula = some (m, b)) (hfar : a.Avoids name m.stat) :
      Elsewhere name a b
  | remove {a b : Sheet} {m : Modifier} (h : a.removeModifier? m = some b)
      (hfar : a.Avoids name m.stat) : Elsewhere name a b
  | clear {a : Sheet} {other : String} (hfar : a.Avoids name (Text.upper other)) :
      Elsewhere name a (a.clearModifiersOn other)
  | clearAll {a : Sheet} (hfar : ∀ m ∈ a.modifiers, a.Avoids name m.stat) :
      Elsewhere name a a.clearModifiers
  /-- The track of an attribute counts for the skills that it owns, too. -/
  | move {a : Sheet} {id : String} {track : Track} (hfar : a.Avoids name id)
      (howner : ∀ owner s, a.Reaches name (.ofSkill owner s) → owner.id ≠ id) :
      Elsewhere name a (a.setTrack id track)
  | swap {a : Sheet} {before after : List Modifier} {m n : Modifier}
      (h : a.modifiers = before ++ m :: n :: after) (hne : m.stat ≠ n.stat) :
      Elsewhere name a { a with modifiers := before ++ n :: m :: after }

theorem agreeOn_of_modifiersOn_eq {ms : List Modifier} {id : String}
    (h : (ms.filter fun m => m.stat == id) = a.modifiersOn id) :
    a.AgreeOn { a with modifiers := ms } id := ⟨rfl, h.symm⟩

/-- The nature of a statistic stays where neither its own track nor that of its owner is changed. -/
theorem nature_mapTracks {f : String → Track → Track} {stat : Statistic}
    (h : ∀ track, f stat.id track = track)
    (howner : ∀ owner s, stat = .ofSkill owner s → ∀ track, f owner.id track = track) :
    (stat.mapTracks f).nature = stat.nature := by
  cases stat with
  | ofAttribute a => exact congrArg (fun t : Track => Nature.attribute t.level) (h a.track)
  | ofSkill owner s =>
    have hown : f s.id s.track = s.track := h s.track
    have hits : f owner.id owner.track = owner.track := howner owner s rfl owner.track
    simp only [Statistic.mapTracks, Statistic.nature, mapFamily, hown, hits]
  | ofDerived d => rfl

theorem sameIds_mapTracks (f : String → Track → Track) : a.SameIds (a.mapTracks f) := by
  intro id
  rw [statistics_mapTracks, List.map_map]
  simp only [Function.comp_def, Statistic.id_mapTracks]

theorem modifiersOn_erase {m : Modifier} {id : String} (h : m.stat ≠ id) :
    ((a.modifiers.erase m).filter fun m => m.stat == id) = a.modifiersOn id := by
  unfold modifiersOn
  induction a.modifiers with
  | nil => rfl
  | cons first rest ih =>
    by_cases hfirst : first = m
    · subst hfirst
      simp [h]
    · rw [List.erase_cons_tail (by simpa using hfirst)]
      simp only [List.filter_cons, ih]

/-- Sheets that differ elsewhere agree on what the name reaches. -/
theorem Elsewhere.agree (h : Elsewhere name a b) :
    a.SameIds b ∧ ∀ target, a.Reaches name target → a.AgreeOn b target.id := by
  cases h with
  | @add _ other label formula m hadd hfar =>
    obtain ⟨stat, -, hm⟩ := Option.map_eq_some_iff.mp hadd
    cases hm
    refine ⟨fun _ => .rfl, fun target ht => agreeOn_of_modifiersOn_eq ?_⟩
    have hne : stat.id ≠ target.id := (hfar target ht).symm
    simp [modifiersOn, hne]
  | @remove _ m hremove hfar =>
    unfold removeModifier? at hremove
    split at hremove
    · cases hremove
      refine ⟨fun _ => .rfl, fun target ht => agreeOn_of_modifiersOn_eq ?_⟩
      exact modifiersOn_erase (hfar target ht).symm
    · cases hremove
  | @clear other hfar =>
    refine ⟨fun _ => .rfl, fun target ht => agreeOn_of_modifiersOn_eq ?_⟩
    rw [List.filter_filter]
    refine List.filter_congr fun m _ => ?_
    by_cases hm : m.stat = target.id <;> simp [hm, hfar target ht]
  | clearAll hfar =>
    refine ⟨fun _ => .rfl, fun target ht => agreeOn_of_modifiersOn_eq ?_⟩
    have hnone : a.modifiersOn target.id = [] := by
      refine List.filter_eq_nil_iff.mpr fun m hm => ?_
      simpa using (hfar m hm target ht).symm
    exact hnone.symm
  | @move id track hfar howner =>
    refine ⟨sameIds_mapTracks _, fun target ht => ⟨?_, rfl⟩⟩
    rw [setTrack, statistic?_mapTracks, ht.statistic?, Option.map_some, Option.map_some,
      Option.map_some, nature_mapTracks]
    · simp [hfar target ht]
    · rintro owner s rfl
      simp [howner owner s ht]
  | @swap before after m n hmodifiers hne =>
    refine ⟨fun _ => .rfl, fun target _ => agreeOn_of_modifiersOn_eq ?_⟩
    rw [modifiersOn, hmodifiers, List.filter_append, List.filter_append]
    congr 1
    by_cases hm : m.stat = target.id
    · have hn : n.stat ≠ target.id := fun hn => hne (hm.trans hn.symm)
      simp [hm, hn]
    · simp [List.filter_cons, hm]

/-- A statistic is evaluated in the same way on sheets with the same ids that agree on all that it
reaches, and so after any changes elsewhere. -/
theorem evaluatesAs_of_agreeOn_reached (name : String) :
    (∀ a b : Sheet, a.SameIds b →
      (∀ target, a.Reaches name target → a.AgreeOn b target.id) → a.EvaluatesAs b name) ∧
    ∀ a b : Sheet, Relation.ReflTransGen (Elsewhere name) a b → a.EvaluatesAs b name := by
  refine ⟨fun a b hids hagree => evaluatesAs_of_agree hids hagree, ?_⟩
  intro a b h
  induction h with
  | refl => exact fun _ _ _ => ⟨rfl, rfl⟩
  | tail _ hlast ih => exact ih.trans (evaluatesAs_of_agree hlast.agree.1 hlast.agree.2)

/-- The strength of the fighter refers to no other statistic. -/
theorem eq_strength_of_reaches {target : Statistic} (h : fighter.Reaches "str" target) :
    target = .ofAttribute strength := by
  have hfind : fighter.find? "str" = some (.ofAttribute strength) := by decide +kernel
  refine List.mem_singleton.mp (h.mem_of_closed (fun stat hstat => ?_) (by decide +kernel))
  rw [← Option.some.inj (hfind.symm.trans hstat)]
  exact List.mem_singleton_self _

/-- The belt of the fighter. -/
def belt : Modifier := ⟨"STR", "Belt", "1d4"⟩

/-- A sword to hit with. -/
def sword : Modifier := ⟨"HIT", "Sword", "1d6"⟩

/-- The fighter with another way to hit. -/
def archer : Sheet := { fighter with derived := [{ hit with formula := "1d6 - STR" }] }

/-- The fighter with a sword. -/
def swordsman : Sheet := { fighter with modifiers := [belt, sword] }

/-- Neither another way to hit nor a sword, wherever it stands among the modifiers, changes the
strength of the fighter. -/
theorem evaluatesAs_fighter :
    (fighter.SameIds archer ∧
      (∀ target, fighter.Reaches "str" target → fighter.AgreeOn archer target.id) ∧
      fighter.EvaluatesAs archer "str") ∧
    Relation.ReflTransGen (Elsewhere "str") fighter { swordsman with modifiers := [sword, belt] } ∧
      fighter.EvaluatesAs { swordsman with modifiers := [sword, belt] } "str" := by
  have hids : fighter.SameIds archer := fun _ => .rfl
  have hagree : ∀ target, fighter.Reaches "str" target → fighter.AgreeOn archer target.id := by
    intro target ht
    rw [eq_strength_of_reaches ht]
    exact ⟨by decide +kernel, by decide +kernel⟩
  have hfar : fighter.Avoids "str" "HIT" := by
    intro target ht
    rw [eq_strength_of_reaches ht]
    decide
  have hadd : fighter.addModifier? "hit" "Sword" "1d6" = some (sword, swordsman) := by
    decide +kernel
  have hmodifiers : swordsman.modifiers = [] ++ belt :: sword :: [] := rfl
  have hrun : Relation.ReflTransGen (Elsewhere "str") fighter
      { swordsman with modifiers := [sword, belt] } :=
    .tail (.single (.add hadd hfar)) (.swap hmodifiers (by decide))
  obtain ⟨hsame, helsewhere⟩ := evaluatesAs_of_agreeOn_reached "str"
  exact ⟨⟨hids, hagree, hsame _ _ hids hagree⟩, hrun, helsewhere _ _ hrun⟩

end Sheet

end Tabletop
