import Tabletop.Proofs.Evaluation.Warnings
import Tabletop.Proofs.Formula.Writing
import Tabletop.Proofs.Sheet.Tables

/-!
# Ids that formulas can name

Names in formulas are letters, while ids may have underscores too. An id without underscores is a
formula that names its statistic. An id with one is never named: a name stands for a statistic only
if both have the same uppercase form, and that has an underscore just where the id has one. So the
ids that are remarked on when content is read are those that no formula can name.
-/
namespace Tabletop

namespace Text

/-- Underscores have no letter case, and nothing else turns into one in upper case. -/
theorem underscore_mem_upper_iff {s : String} (h : s.toList.all fun c => c.toNat < 128) :
    '_' ∈ (upper s).toList ↔ '_' ∈ s.toList := by
  have hall : ∀ n < 128, (Char.ofNat n).toUpper = '_' ↔ Char.ofNat n = '_' := by decide +kernel
  rw [upper_eq_map h, List.mem_map]
  constructor
  · rintro ⟨c, hc, hupper⟩
    have hcode := hall c.toNat (of_decide_eq_true (List.all_eq_true.mp h c hc))
    rw [Char.ofNat_toNat] at hcode
    exact hcode.mp hupper ▸ hc
  · exact fun hmem => ⟨'_', hmem, by decide⟩

end Text

namespace Token

theorem toNat_lt_of_isLetter {c : Char} (h : isLetter c = true) : c.toNat < 128 :=
  Content.toNat_lt_of_isIdChar (by rw [Content.isIdChar, h, Bool.true_or])

theorem ne_underscore_of_isLetter {c : Char} (h : isLetter c = true) : c ≠ '_' := by
  rintro rfl
  exact absurd h (by decide)

end Token

/-! ### Names in formulas -/

theorem Term.name_mem_lexemes {t : Term} {place : Place} {name : String}
    (h : .stat place name ∈ t.nodes) : Lexeme.name name ∈ t.tree.lexemes := by
  induction t with
  | literal place n => cases List.mem_singleton.mp h
  | dice place d => cases List.mem_singleton.mp h
  | stat place name =>
    cases List.mem_singleton.mp h
    exact List.mem_singleton_self _
  | negation place sign t ih =>
    obtain h | h := List.mem_cons.mp h
    · cases h
    · exact List.mem_cons_of_mem _ (ih h)
  | binary place op sign t u iht ihu =>
    obtain h | h := List.mem_cons.mp h
    · cases h
    · simp only [tree, FormulaTree.lexemes, List.mem_cons, List.mem_append]
      obtain h | h := List.mem_append.mp h
      · exact .inr (.inl (.inl (iht h)))
      · exact .inr (.inl (.inr (.inr (ihu h))))

namespace Parse

/-- Names in formulas are letters. -/
theorem isLetter_of_mem_name {source : String} {t : Term} (h : (parse source).term = some t)
    {place : Place} {name : String} (hname : .stat place name ∈ t.nodes) :
    ∀ c ∈ name.toList, Token.isLetter c = true :=
  (isWritable_of_term (term_ofTokens_of_parse h) _ (Term.name_mem_lexemes hname)).2

/-- Letters are a formula that names them. -/
theorem exists_parse_name {name : String} (hne : name ≠ "")
    (h : ∀ c ∈ name.toList, Token.isLetter c = true) :
    ∃ place, parse name = ⟨name, some (.stat place name), []⟩ := by
  let x : Term := .stat ⟨⟨0, 0⟩, ""⟩ name
  have hwritable : ∀ l ∈ x.tree.lexemes, l.IsWritable :=
    List.forall_mem_singleton.mpr ⟨by rwa [Ne, String.toList_eq_nil_iff], h⟩
  obtain ⟨y, hy, htree⟩ := exists_parse_text hwritable id
  cases y with
  | stat place other =>
    obtain rfl : other = name := FormulaTree.stat.inj htree
    exact ⟨place, hy⟩
  | _ => cases htree

end Parse

/-! ### Statistics of ids -/

namespace Content

variable {c : Content} {id : String}

theorem exists_declares_of_mem_ids (h : id ∈ c.ids) : ∃ stat, c.Declares id stat := by
  simp only [ids, attributeIds, List.mem_append, List.mem_flatMap, List.mem_cons, List.mem_map] at h
  obtain ⟨a, ha, rfl | ⟨s, hs, rfl⟩⟩ | ⟨d, hd, rfl⟩ := h
  · exact ⟨_, .ofAttribute ha⟩
  · exact ⟨_, .ofSkill ha hs⟩
  · exact ⟨_, .ofDerived hd⟩

theorem isLetter_of_isId (h : isId id) (hbar : '_' ∉ id.toList) :
    ∀ c ∈ id.toList, Token.isLetter c = true := by
  intro c hc
  have hchar := List.all_eq_true.mp (Bool.and_eq_true_iff.mp h).2 c hc
  simp only [isIdChar, Bool.or_eq_true, beq_iff_eq] at hchar
  exact hchar.resolve_right fun heq => hbar (heq ▸ hc)

theorem ne_empty_of_isId (h : isId id) : id ≠ "" := by
  rintro rfl
  exact absurd h (by decide)

/-- What is remarked on an id is that it has an underscore. -/
theorem unnameable_mem_remarks_iff {source : String} (h : id ∈ c.ids) :
    Record.unnameable id source ∈ c.remarks source ↔ '_' ∈ id.toList := by
  simp [remarks, isUnnameable, h]

end Content

namespace Sheet

variable {sheet : Sheet} {c : Content} {id : String}

/-- A sheet that has the ids of content finds a statistic under each of them. -/
theorem exists_find?_of_ids
    (h : sheet.statistics.map Statistic.id = (ofContent c).statistics.map Statistic.id)
    (hid : id ∈ c.ids) : ∃ stat, sheet.find? id = some stat ∧ stat.id = Text.upper id := by
  obtain ⟨declared, hdeclared⟩ := Content.exists_declares_of_mem_ids hid
  have hmem : Text.upper id ∈ sheet.statistics.map Statistic.id := by
    rw [h, ← hdeclared.id_eq]
    exact List.mem_map_of_mem (Content.mem_statistics_ofContent.mpr ⟨id, hdeclared⟩)
  obtain ⟨stat, hstat, heq⟩ := List.mem_map.mp hmem
  have hsome : (sheet.statistics.find? fun s => s.id == Text.upper id).isSome :=
    List.find?_isSome.mpr ⟨stat, hstat, beq_iff_eq.mpr heq⟩
  obtain ⟨found, hfound⟩ := Option.isSome_iff_exists.mp hsome
  exact ⟨found, hfound, statistic?_id hfound⟩

end Sheet

/-! ### Reaching statistics -/

/-- A name in the tree of the formula stands for the statistic of the id. -/
def FormulaResult.Reaches (r : FormulaResult) (id : String) : Prop :=
  ∃ root value place name, r.root = some root ∧ .stat value place name (some id) ∈ root.nodes

namespace Sheet

variable {σ : Type} {sheet : Sheet} {roller : Roller σ} {course : Course σ} {id : String}

/-- What a formula reaches has the uppercase form of some letters as its id. -/
theorem exists_letters_of_reaches {source : String}
    (h : (sheet.evaluateFormula roller source course).1.Reaches id) :
    ∃ name : String, (∀ c ∈ name.toList, Token.isLetter c = true) ∧ id = Text.upper name := by
  obtain ⟨root, value, place, name, hroot, hnode⟩ := h
  have he := sheet.evaluates_evaluateFormula roller source course
  generalize sheet.evaluateFormula roller source course = outcome at he hroot
  obtain ⟨result, after⟩ := outcome
  dsimp only at he hroot
  cases he with
  | unparsed hnone => cases hroot
  | @parsed _ t x _ _ hterm he =>
    cases hroot
    obtain ⟨rfl, -⟩ : root.term = t ∧ _ := he.shows
    have hname : .stat place name ∈ root.term.nodes := by
      rw [Evaluated.nodes_term]
      exact List.mem_map_of_mem (f := Evaluated.term) hnode
    refine ⟨name, Parse.isLetter_of_mem_name hterm hname, ?_⟩
    -- a name that stands for nothing is not resolved
    have hresolved := he.resolves _ hnode
    cases hfind : sheet.find? name with
    | none => exact nomatch ((resolves_unknown_iff hfind).mp hresolved).1
    | some stat =>
      by_cases hmark : stat.id ∈ (course.record (.parsing source)).marks
      · exact nomatch ((resolves_marked_iff hfind hmark).mp hresolved).1
      · have heq := (resolves_known_iff hfind hmark).mp hresolved
        rw [Option.some.inj heq, statistic?_id hfind]

/-- Letters reach the statistic that is found under them, unless it is marked. -/
theorem reaches_of_letters {name : String} {stat : Statistic} (hne : name ≠ "")
    (h : ∀ c ∈ name.toList, Token.isLetter c = true) (hfind : sheet.find? name = some stat)
    (hmark : stat.id ∉ course.marks) :
    (sheet.evaluateFormula roller name course).1.Reaches stat.id := by
  obtain ⟨place, hparse⟩ := Parse.exists_parse_name hne h
  have he := sheet.evaluates_evaluateFormula roller name course
  generalize sheet.evaluateFormula roller name course = outcome at he ⊢
  obtain ⟨result, after⟩ := outcome
  dsimp only at he ⊢
  cases he with
  | unparsed hnone =>
    rw [hparse] at hnone
    cases hnone
  | @parsed _ t x _ _ hterm he =>
    rw [hparse] at hterm
    cases hterm
    obtain ⟨hx, -⟩ : x.term = .stat place name ∧ _ := he.shows
    obtain ⟨value, resolved, rfl⟩ := Evaluated.eq_stat_of_term hx
    have hresolved := he.resolves _ (List.mem_singleton_self _)
    obtain rfl := (resolves_known_iff hfind hmark).mp hresolved
    exact ⟨_, value, place, name, rfl, List.mem_singleton_self _⟩

/-- Of the ids of content that was read, just those without underscores are reached by formulas on a
sheet that has them while no statistic is being evaluated, and just the others are remarked on. -/
theorem reachable_iff_not_remarked (roller : Roller σ) {source : String} {d : Document}
    {c : Content} {remarks : List Record}
    (h : ContentFile.ofDocument source d = .ok (c, remarks))
    (hsheet : sheet.statistics.map Statistic.id = (ofContent c).statistics.map Statistic.id)
    (hmarks : course.marks = []) (hid : id ∈ c.ids) :
    ((∃ formula, (sheet.evaluateFormula roller formula course).1.Reaches (Text.upper id)) ↔
      '_' ∉ id.toList) ∧
    ('_' ∉ id.toList ↔ Record.unnameable id source ∉ remarks) := by
  obtain ⟨hread, rfl⟩ : Content.read d = .ok c ∧ c.remarks source = remarks := by
    unfold ContentFile.ofDocument at h
    split at h
    · cases h
    · rename_i hread
      cases h
      exact ⟨hread, rfl⟩
  have hisId := (Content.isValid_of_read hread).ids id hid
  refine ⟨⟨?_, fun hbar => ?_⟩, (Content.unnameable_mem_remarks_iff hid).not.symm⟩
  · rintro ⟨formula, hreaches⟩
    obtain ⟨name, hname, hupper⟩ := exists_letters_of_reaches hreaches
    have hascii : name.toList.all fun c => c.toNat < 128 :=
      List.all_eq_true.mpr fun c hc => decide_eq_true (Token.toNat_lt_of_isLetter (hname c hc))
    rw [← Text.underscore_mem_upper_iff (Content.ascii_of_isId hisId), hupper,
      Text.underscore_mem_upper_iff hascii]
    exact fun hmem => Token.ne_underscore_of_isLetter (hname _ hmem) rfl
  · obtain ⟨stat, hfind, hstat⟩ := exists_find?_of_ids hsheet hid
    refine ⟨id, hstat ▸ reaches_of_letters (Content.ne_empty_of_isId hisId)
      (Content.isLetter_of_isId hisId hbar) hfind ?_⟩
    rw [hmarks]
    exact List.not_mem_nil

/-- Content with an id that looks like the letter of dice, and one that no formula can name. -/
def rogueContent : Content :=
  { Content.empty with groups := [⟨"", [⟨"d", "", "", [⟨"sleight_of_hand", "", ""⟩]⟩]⟩] }

/-- The document of this content. -/
def rogueDocument : Document :=
  .table [("attributeGroups", .list [.table [("attributes",
    .table [("d", .table [("skills", .table [("sleight_of_hand", .table [])])])])]])]

theorem reachable_iff_not_remarked_rogue :
    ∃ remarks, ContentFile.ofDocument "rogue" rogueDocument = .ok (rogueContent, remarks) ∧
      ((∃ formula, ((ofContent rogueContent).evaluateFormula (.fixed 1) formula
          (.fresh () .empty)).1.Reaches "D") ∧ .unnameable "d" "rogue" ∉ remarks) ∧
      (¬∃ formula, ((ofContent rogueContent).evaluateFormula (.fixed 1) formula
          (.fresh () .empty)).1.Reaches "SLEIGHT_OF_HAND") ∧
        .unnameable "sleight_of_hand" "rogue" ∈ remarks := by
  have hd : Text.upper "d" = "D" := Text.upper_of_ascii (by decide)
  have hsleight : Text.upper "sleight_of_hand" = "SLEIGHT_OF_HAND" :=
    Text.upper_of_ascii (by decide)
  have hkeys : rogueContent.ids.map Text.upper = ["D", "SLEIGHT_OF_HAND"] := by
    simp only [rogueContent, Content.ids, Content.attributes, Content.attributeIds, Content.empty,
      List.flatMap_cons, List.flatMap_nil, List.map_cons, List.map_nil, List.append_nil, hd,
      hsleight]
  have hrepeat : Content.repeatRefusal? rogueContent = none := by
    rw [Content.repeatRefusal?, hkeys]
    decide
  have hread : Content.read rogueDocument = .ok rogueContent :=
    Checked.guarded_eq_ok_iff.mpr ⟨by decide +kernel, hrepeat⟩
  have hload : ContentFile.ofDocument "rogue" rogueDocument =
      .ok (rogueContent, rogueContent.remarks "rogue") := by
    rw [ContentFile.ofDocument, hread]
  refine ⟨_, hload, ?_⟩
  have hmarks : (Course.fresh () .empty).marks = [] := rfl
  obtain ⟨hreach, hsaid⟩ := reachable_iff_not_remarked (.fixed 1) hload rfl hmarks
    (by decide : "d" ∈ rogueContent.ids)
  obtain ⟨hnever, hremark⟩ := reachable_iff_not_remarked (.fixed 1) hload rfl hmarks
    (by decide : "sleight_of_hand" ∈ rogueContent.ids)
  rw [hd] at hreach
  rw [hsleight] at hnever
  have hplain : '_' ∉ "d".toList := by decide
  have hbar : '_' ∈ "sleight_of_hand".toList := by decide
  exact ⟨⟨hreach.mpr hplain, hsaid.mp hplain⟩, fun h => hnever.mp h hbar,
    not_not.mp fun h => hremark.mpr h hbar⟩

end Sheet

end Tabletop
