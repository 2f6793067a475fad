import Mathlib.Data.List.Chain
import Mathlib.Data.List.DropRight
import Mathlib.Data.List.Infix
import Tabletop.CharacterFile
import Tabletop.Proofs.Text.LetterCase

/-!
# Names of character files

A file is named after the runs of letters and digits in the lowercase name of its character, with
one underscore between two of them. Everything else in a name only tells where a run ends, so the
name of a file is a plain part of a path, whatever the character is called, and two characters share
a file just if their runs spell the same.
-/
namespace Tabletop

/-! ### Trimming -/

namespace Text

variable {p : Char → Bool} {cs : List Char} {c : Char}

/-- What is trimmed away stands at the two ends. -/
theorem exists_append_trimWhere (p : Char → Bool) (cs : List Char) :
    ∃ front back, cs = front ++ trimWhere p cs ++ back ∧ (∀ c ∈ front, p c = true) ∧
      ∀ c ∈ back, p c = true := by
  refine ⟨cs.takeWhile p, (cs.dropWhile p).rtakeWhile p, ?_, fun _ => List.mem_takeWhile_imp,
    fun _ => List.mem_rtakeWhile_imp⟩
  have hback : trimWhere p cs ++ (cs.dropWhile p).rtakeWhile p = cs.dropWhile p :=
    List.rdropWhile_append_rtakeWhile
  rw [List.append_assoc, hback, List.takeWhile_append_dropWhile]

theorem eq_false_of_mem_head?_trimWhere (h : c ∈ (trimWhere p cs).head?) : p c = false := by
  obtain ⟨rest, hrest⟩ : trimWhere p cs <+: cs.dropWhile p := List.rdropWhile_prefix p _
  have hhead : (cs.dropWhile p).head? = some c := by
    rw [← hrest, List.head?_append, Option.mem_def.mp h, Option.some_or]
  have hnot := List.head?_dropWhile_not p cs
  rwa [hhead] at hnot

theorem eq_false_of_mem_getLast?_trimWhere (h : c ∈ (trimWhere p cs).getLast?) : p c = false := by
  rw [trimWhere, List.getLast?_reverse, Option.mem_def] at h
  have hnot := List.head?_dropWhile_not p (cs.dropWhile p).reverse
  rwa [h] at hnot

/-- The code points of all blanks. -/
def blankCodes : List Nat :=
  List.range' 9 5 ++ List.range' 0x1C 5 ++ [0x85, 0xA0, 0x1680] ++ List.range' 0x2000 11 ++
    [0x2028, 0x2029, 0x202F, 0x205F, 0x3000]

/-- Blanks have no letter case. -/
theorem lowerChar_of_isBlank (h : isBlank c = true) : lowerChar c = [c] := by
  have hall : ∀ n ∈ blankCodes, lowerChar (Char.ofNat n) = [Char.ofNat n] := by decide +kernel
  have hmem : c.toNat ∈ blankCodes := by
    simp only [isBlank, isSpace, Bool.or_eq_true, Bool.and_eq_true, decide_eq_true_eq,
      beq_iff_eq] at h
    simp only [blankCodes, List.mem_append, List.mem_range'_1, List.mem_cons, List.not_mem_nil,
      or_false]
    omega
  have hc := hall _ hmem
  rwa [Char.ofNat_toNat] at hc

end Text

namespace CharacterFile

variable {cs r : List Char} {c : Char}

theorem isKept_iff :
    isKept c = true ↔ (97 ≤ c.toNat ∧ c.toNat ≤ 122) ∨ (48 ≤ c.toNat ∧ c.toNat ≤ 57) := by
  simp only [isKept, Bool.or_eq_true, Bool.and_eq_true, decide_eq_true_eq, Char.le_def,
    UInt32.le_iff_toNat_le]
  exact Iff.rfl

theorem isKept_of_isBlank (h : Text.isBlank c = true) : isKept c = false := by
  rw [← Bool.not_eq_true, isKept_iff]
  simp only [Text.isBlank, Text.isSpace, Bool.or_eq_true, Bool.and_eq_true, decide_eq_true_eq,
    beq_iff_eq] at h
  omega

/-! ### Runs -/

/-- The maximal runs of kept characters, from left to right: all that is not empty between two
characters that are not kept. -/
def runs (cs : List Char) : List (List Char) :=
  (cs.splitOnP fun c => !isKept c).filter fun run => !run.isEmpty

/-- A character that is not kept ends a run and is in none. -/
theorem runs_append_cons (h : isKept c = false) (front rest : List Char) :
    runs (front ++ c :: rest) = runs front ++ runs rest := by
  rw [runs, List.splitOnP_append_cons _ _ (by rw [h]; rfl), List.filter_append]
  rfl

theorem runs_eq_singleton (hne : r ≠ []) (h : ∀ c ∈ r, isKept c = true) : runs r = [r] := by
  rw [runs, List.splitOnP_eq_singleton fun c hc => by rw [h c hc]; rfl]
  simp [hne]

/-- The text is a run that cannot be made longer. -/
def IsRun (r cs : List Char) : Prop :=
  r ≠ [] ∧ (∀ c ∈ r, isKept c = true) ∧ ∃ front back, cs = front ++ r ++ back ∧
    (∀ c ∈ front.getLast?, isKept c = false) ∧ ∀ c ∈ back.head?, isKept c = false

/-- A run of what follows a character that is not kept is a run of the whole. -/
theorem IsRun.append_cons (h : IsRun r cs) (hc : isKept c = false) (front : List Char) :
    IsRun r (front ++ c :: cs) := by
  obtain ⟨hne, hr, before, back, rfl, hbefore, hback⟩ := h
  refine ⟨hne, hr, front ++ c :: before, back, by simp, fun d hd => ?_, hback⟩
  rw [List.getLast?_append, List.getLast?_cons] at hd
  cases hlast : before.getLast? with
  | none =>
    rw [hlast] at hd
    cases hd
    exact hc
  | some e =>
    rw [hlast] at hd
    cases hd
    exact hbefore _ hlast

/-- The runs found are the maximal ones. -/
theorem mem_runs_iff : r ∈ runs cs ↔ IsRun r cs := by
  constructor
  · -- by induction on what is still to be cut, behind the run that has begun
    suffices h : ∀ begun, (∀ c ∈ begun, isKept c = true) → r ∈ runs (begun ++ cs) →
        IsRun r (begun ++ cs) from h [] nofun
    induction cs with
    | nil =>
      intro begun hbegun hmem
      rw [List.append_nil] at hmem ⊢
      obtain rfl | hne := eq_or_ne begun []
      · cases hmem
      · rw [runs_eq_singleton hne hbegun, List.mem_singleton] at hmem
        subst hmem
        exact ⟨hne, hbegun, [], [], by simp, nofun, nofun⟩
    | cons c rest ih =>
      intro begun hbegun hmem
      by_cases hc : isKept c = true
      · have hmore := ih (begun ++ [c]) (by simpa [or_imp, forall_and] using ⟨hbegun, hc⟩)
        rw [List.append_assoc, List.singleton_append] at hmore
        exact hmore hmem
      · rw [Bool.not_eq_true] at hc
        rw [runs_append_cons hc, List.mem_append] at hmem
        obtain hmem | hmem := hmem
        · obtain rfl | hne := eq_or_ne begun []
          · cases hmem
          · rw [runs_eq_singleton hne hbegun, List.mem_singleton] at hmem
            subst hmem
            exact ⟨hne, hbegun, [], c :: rest, rfl, nofun, fun d hd => by cases hd; exact hc⟩
        · exact (ih [] nofun hmem).append_cons hc begun
  · rintro ⟨hne, hr, front, back, rfl, hfront, hback⟩
    -- what follows the run does not change it
    have hright : r ∈ runs (r ++ back) := by
      cases back with
      | nil => rw [List.append_nil, runs_eq_singleton hne hr]; exact List.mem_singleton_self r
      | cons d back =>
        rw [runs_append_cons (hback d rfl), runs_eq_singleton hne hr]
        exact List.mem_append_left _ (List.mem_singleton_self r)
    obtain rfl | ⟨front, c, rfl⟩ := List.eq_nil_or_concat front
    · exact hright
    · rw [List.concat_eq_append, List.append_assoc, List.append_assoc, List.singleton_append,
        runs_append_cons (hfront c (by simp))]
      exact List.mem_append_right _ hright

/-- Nothing in front of a text begins a run unless it is kept. -/
theorem runs_append_of_left {gap : List Char} (h : ∀ c ∈ gap, isKept c = false) (cs : List Char) :
    runs (gap ++ cs) = runs cs := by
  induction gap with
  | nil => rfl
  | cons c gap ih =>
    have hrest := runs_append_cons (h c List.mem_cons_self) [] (gap ++ cs)
    exact hrest.trans (ih fun d hd => h d (List.mem_cons_of_mem c hd))

theorem runs_append_of_right {gap : List Char} (h : ∀ c ∈ gap, isKept c = false)
    (cs : List Char) : runs (cs ++ gap) = runs cs := by
  cases gap with
  | nil => rw [List.append_nil]
  | cons c gap =>
    have hgap := runs_append_of_left (fun d hd => h d (List.mem_cons_of_mem c hd)) []
    rw [List.append_nil] at hgap
    rw [runs_append_cons (h c List.mem_cons_self), hgap]
    exact List.append_nil _

/-- Making underscores of everything between runs changes no run, whatever stands in front. -/
theorem runs_append_underscored (front cs : List Char) :
    runs (front ++ underscored cs) = runs (front ++ cs) := by
  have hbar : isKept '_' = false := by decide
  induction cs generalizing front with
  | nil => rfl
  | cons c rest ih =>
    rw [underscored]
    split
    · -- the kept character is moved to what stands in front
      have hrest := ih (front ++ [c])
      rwa [List.append_assoc, List.append_assoc] at hrest
    · rename_i hc
      have hrest : runs (underscored rest) = runs rest := ih []
      rw [runs_append_cons (Bool.not_eq_true _ ▸ hc), ← hrest]
      split
      · rename_i more heq
        have hmore := runs_append_cons hbar [] more
        rw [runs_append_cons hbar, heq]
        exact congrArg _ hmore.symm
      · rw [runs_append_cons hbar]

/-! ### Tidy names -/

/-- Kept characters, with single underscores among them but not at the ends. -/
structure IsTidy (cs : List Char) : Prop where
  spelled : ∀ c ∈ cs, isKept c = true ∨ c = '_'
  apart : cs.IsChain fun c d => isKept c = true ∨ isKept d = true
  head : ∀ c ∈ cs.head?, isKept c = true
  last : ∀ c ∈ cs.getLast?, isKept c = true

theorem spelled_underscored (cs : List Char) : ∀ c ∈ underscored cs, isKept c = true ∨ c = '_' := by
  fun_induction underscored cs with
  | case1 => exact nofun
  | case2 c rest hc ih => exact List.forall_mem_cons.mpr ⟨.inl hc, ih⟩
  | case3 c rest hc more heq ih => rwa [← heq]
  | case4 c rest hc _ ih => exact List.forall_mem_cons.mpr ⟨.inr rfl, ih⟩

/-- No two underscores are left next to each other. -/
theorem apart_underscored (cs : List Char) :
    (underscored cs).IsChain fun c d => isKept c = true ∨ isKept d = true := by
  fun_induction underscored cs with
  | case1 => exact .nil
  | case2 c rest hc ih => exact List.isChain_cons.mpr ⟨fun _ _ => .inl hc, ih⟩
  | case3 c rest hc more heq ih => rwa [← heq]
  | case4 c rest hc hno ih =>
    refine List.isChain_cons.mpr ⟨fun d hd => .inr ?_, ih⟩
    obtain ⟨more, hmore⟩ := List.head?_eq_some_iff.mp hd
    refine (spelled_underscored rest d (List.mem_of_mem_head? hd)).resolve_right ?_
    rintro rfl
    exact hno more hmore

/-- What is left of a name is tidy. -/
theorem isTidy_slug (name : String) : IsTidy (slug name).toList := by
  rw [slug, String.toList_ofList]
  generalize (Text.lower (Text.strip name)).toList = cs
  obtain ⟨front, back, hcs, -, -⟩ := Text.exists_append_trimWhere (· == '_') (underscored cs)
  have hwithin : Text.trimWhere (· == '_') (underscored cs) <:+: underscored cs :=
    ⟨front, back, hcs.symm⟩
  have hspelled := fun c hc => spelled_underscored cs c (hwithin.subset hc)
  have hapart := List.IsChain.infix (apart_underscored cs) hwithin
  refine ⟨hspelled, hapart, fun c hc => ?_, fun c hc => ?_⟩
  · have hne := Text.eq_false_of_mem_head?_trimWhere hc
    exact (hspelled c (List.mem_of_mem_head? hc)).resolve_right (by simpa using hne)
  · have hne := Text.eq_false_of_mem_getLast?_trimWhere hc
    exact (hspelled c (List.mem_of_mem_getLast? hc)).resolve_right (by simpa using hne)

/-- What stands after an underscore of a tidy name is tidy. -/
theorem IsTidy.of_append_cons (h : IsTidy (r ++ '_' :: cs)) : cs ≠ [] ∧ IsTidy cs := by
  have hbar : isKept '_' = false := by decide
  have hne : cs ≠ [] := by
    rintro rfl
    have hlast := h.last '_' (by simp)
    rw [hbar] at hlast
    cases hlast
  refine ⟨hne, fun c hc => h.spelled c (by simp [hc]), ?_, fun c hc => ?_, fun c hc => ?_⟩
  · exact List.IsChain.infix h.apart ⟨r ++ ['_'], [], by simp⟩
  · obtain ⟨rest, rfl⟩ := List.head?_eq_some_iff.mp hc
    have hnext := (List.isChain_append.mp h.apart).2.1.rel
    exact hnext.resolve_left (by rw [hbar]; exact Bool.false_ne_true)
  · refine h.last c ?_
    rw [List.getLast?_append, List.getLast?_cons, Option.mem_def.mp hc]
    rfl

/-- A tidy name is its runs, joined by underscores. -/
theorem IsTidy.intercalate_runs (h : IsTidy cs) : ['_'].intercalate (runs cs) = cs := by
  -- by induction on what is still to be cut, behind the run that has begun
  suffices hrun : ∀ r, (∀ c ∈ r, isKept c = true) → IsTidy (r ++ cs) →
      ['_'].intercalate (runs (r ++ cs)) = r ++ cs from hrun [] nofun h
  clear h
  induction cs with
  | nil =>
    intro r hr _
    rw [List.append_nil]
    cases r with
    | nil => rfl
    | cons c r => rw [runs_eq_singleton (List.cons_ne_nil c r) hr, List.intercalate_singleton]
  | cons c rest ih =>
    intro r hr h
    by_cases hc : isKept c = true
    · have hmore := ih (r ++ [c]) (by simpa [or_imp, forall_and] using ⟨hr, hc⟩)
      rw [List.append_assoc, List.singleton_append] at hmore
      exact hmore h
    · obtain rfl : c = '_' := (h.spelled c (by simp)).resolve_left hc
      obtain ⟨hne, hrest⟩ := h.of_append_cons
      have hr0 : r ≠ [] := by
        rintro rfl
        exact hc (h.head '_' rfl)
      have hjoined : ['_'].intercalate (runs rest) = rest := ih [] nofun hrest
      have hruns : runs rest ≠ [] := by
        intro hnil
        rw [hnil] at hjoined
        exact hne hjoined.symm
      rw [runs_append_cons (Bool.eq_false_iff.mpr hc), runs_eq_singleton hr0 hr,
        List.singleton_append, List.intercalate_cons_of_ne_nil hruns, hjoined,
        List.append_assoc, List.singleton_append]

/-- Stripping, trimming and underscores leave the runs of a name as they are. -/
theorem runs_slug (name : String) : runs (slug name).toList = runs (Text.lower name).toList := by
  have hbar : isKept '_' = false := by decide
  have htrim : ∀ cs : List Char, runs (Text.trimWhere (· == '_') (underscored cs)) = runs cs := by
    intro cs
    obtain ⟨front, back, hcs, hfront, hback⟩ :=
      Text.exists_append_trimWhere (· == '_') (underscored cs)
    replace hfront : ∀ c ∈ front, isKept c = false := fun c hc => eq_of_beq (hfront c hc) ▸ hbar
    replace hback : ∀ c ∈ back, isKept c = false := fun c hc => eq_of_beq (hback c hc) ▸ hbar
    rw [← runs_append_of_right hback, ← runs_append_of_left hfront, ← List.append_assoc, ← hcs]
    exact runs_append_underscored [] cs
  -- blanks are no letters in lower case either
  have hgap : ∀ gap : List Char, (∀ c ∈ gap, Text.isBlank c = true) →
      ∀ c ∈ gap.flatMap Text.lowerChar, isKept c = false := by
    intro gap hblank c hc
    rw [Text.flatMap_eq_self fun d hd => Text.lowerChar_of_isBlank (hblank d hd)] at hc
    exact isKept_of_isBlank (hblank c hc)
  obtain ⟨front, back, hname, hfront, hback⟩ :=
    Text.exists_append_trimWhere Text.isBlank name.toList
  rw [slug, String.toList_ofList, htrim, Text.strip, Text.lower, Text.lower, String.toList_ofList,
    String.toList_ofList, String.toList_ofList]
  conv_rhs => rw [hname]
  rw [List.flatMap_append, List.flatMap_append, runs_append_of_right (hgap back hback),
    runs_append_of_left (hgap front hfront)]

/-! ### Stems -/

/-- The runs of a name in lower case, joined by underscores, or a word for a name without any. -/
def stem (name : String) : String :=
  match runs (Text.lower name).toList with
  | [] => "character"
  | found => String.ofList (['_'].intercalate found)

/-- The stem is what is left of the name, unless nothing is. -/
theorem stem_cases (name : String) :
    (slug name = "" ∧ stem name = "character") ∨ (slug name ≠ "" ∧ stem name = slug name) := by
  have hslug := (isTidy_slug name).intercalate_runs
  rw [runs_slug] at hslug
  rw [stem]
  split
  · rename_i hnil
    rw [hnil] at hslug
    exact .inl ⟨String.toList_inj.mp hslug.symm, rfl⟩
  · rename_i hne
    refine .inr ⟨fun hempty => hne ?_, by rw [hslug, String.ofList_toList]⟩
    rw [← runs_slug, hempty]
    rfl

theorem fileName_eq (name : String) : fileName name = stem name ++ ".json" := by
  rw [fileName]
  obtain ⟨hslug, hstem⟩ | ⟨hslug, hstem⟩ := stem_cases name
  · rw [hslug, hstem]
    rfl
  · rw [if_neg (by rwa [String.isEmpty_iff]), hstem]

/-- A stem is tidy, and there is something to it. -/
theorem isTidy_stem (name : String) : IsTidy (stem name).toList ∧ stem name ≠ "" := by
  obtain ⟨-, hstem⟩ | ⟨hslug, hstem⟩ := stem_cases name
  · have hkept : ∀ c ∈ "character".toList, isKept c = true :=
      List.all_eq_true.mp (by decide : "character".toList.all isKept = true)
    rw [hstem]
    exact ⟨⟨fun c hc => .inl (hkept c hc), by decide,
      fun c hc => hkept c (List.mem_of_mem_head? hc),
      fun c hc => hkept c (List.mem_of_mem_getLast? hc)⟩, by decide⟩
  · rw [hstem]
    exact ⟨isTidy_slug name, hslug⟩

/-- A stem is its own stem. -/
theorem stem_stem (name : String) : stem (stem name) = stem name := by
  obtain ⟨htidy, hne⟩ := isTidy_stem name
  have hlower : Text.lower (stem name) = stem name := by
    refine Text.lower_eq_self fun c hc => ?_
    have hcode : c.toNat < 128 ∧ ¬(65 ≤ c.toNat ∧ c.toNat ≤ 90) := by
      obtain h | rfl := htidy.spelled c hc
      · rw [isKept_iff] at h
        omega
      · decide
    rw [Text.lowerChar_of_ascii hcode.1, if_neg hcode.2]
  have hruns := htidy.intercalate_runs
  rw [stem, hlower]
  split
  · rename_i hnil
    rw [hnil] at hruns
    exact absurd (String.toList_inj.mp hruns.symm) hne
  · rw [hruns, String.ofList_toList]

/-! ### Paths -/

theorem splitSlashes_eq_singleton (h : '/' ∉ cs) : Path.splitSlashes cs = [cs] := by
  induction cs with
  | nil => rfl
  | cons c rest ih =>
    rw [List.mem_cons, not_or] at h
    rw [Path.splitSlashes, ih h.2]
    exact if_neg fun hc => h.1 (eq_of_beq hc).symm

/-- A text without slashes that stands for something is read as one part of a path. -/
theorem ofText_of_part {s : String} (h : '/' ∉ s.toList) (hidle : Path.isIdle s = false) :
    Path.ofText s = ⟨.here, [s]⟩ := by
  have hanchor : Anchor.ofChars s.toList = .here := by
    cases hcs : s.toList with
    | nil => rfl
    | cons c rest =>
      have hc : c ≠ '/' := fun hc => h (by rw [hcs, hc]; exact List.mem_cons_self)
      unfold Anchor.ofChars
      split <;> simp_all
  rw [Path.ofText]
  simp only [hanchor, splitSlashes_eq_singleton h, List.map_cons, List.map_nil,
    String.ofList_toList, List.filter_cons, hidle, Bool.not_false, if_true, List.filter_nil]

/-- A part that is no double dot leads from a directory to something in it. -/
theorem resolve_child {part : String} (h : part ≠ "..") (base directory : Path) :
    Path.resolve base (directory.child part) = (Path.resolve base directory).child part := by
  have hcollapse : ∀ parts, Path.collapse (parts ++ [part]) = Path.collapse parts ++ [part] := by
    intro parts
    rw [Path.collapse, List.foldl_append, List.foldl_cons, List.foldl_nil,
      if_neg (by simpa using h)]
    rfl
  cases hanchor : directory.anchor <;>
    simp [Path.resolve, Path.join, Path.child, hanchor, ← List.append_assoc, hcollapse]

/-- No tidy name holds a slash, a backslash or a dot. -/
theorem IsTidy.not_mem (h : IsTidy cs) : '/' ∉ cs ∧ '\\' ∉ cs ∧ '.' ∉ cs := by
  refine ⟨fun hc => ?_, fun hc => ?_, fun hc => ?_⟩ <;>
    exact absurd (h.spelled _ hc) (by decide)

/-- There are no two underscores next to each other in a tidy name. -/
theorem IsTidy.not_isInfix (h : IsTidy cs) : ¬['_', '_'] <:+: cs := fun hwithin =>
  have hapart := List.IsChain.infix h.apart hwithin
  absurd hapart (by decide)

/-- The file of a character is named after its stem, which is all of letters, digits and single
underscores between them, so that it is one part of a path and leads to something in the directory
of all characters. The file of a stem is that of the name, and two names share a file just if they
have one stem. -/
theorem named_after_stem (name : String) :
    fileName name = stem name ++ ".json" ∧
    (stem name ≠ "" ∧ (stem name).toList.head?.any isKept = true ∧
      (stem name).toList.getLast?.any isKept = true) ∧
    ¬['_', '_'] <:+: (stem name).toList ∧
    ((∀ c ∈ (stem name).toList, isKept c = true ∨ c = '_') ∧ '/' ∉ (stem name).toList ∧
      '\\' ∉ (stem name).toList ∧ '.' ∉ (stem name).toList) ∧
    (∀ directory : Path, directory.join (.ofText (fileName name)) = pathOf directory name) ∧
    (∀ base directory : Path, Path.resolve base (pathOf directory name) =
      (Path.resolve base directory).child (fileName name)) ∧
    fileName (stem name) = fileName name ∧
    ∀ other, fileName name = fileName other ↔ stem name = stem other := by
  obtain ⟨htidy, hne⟩ := isTidy_stem name
  have hlist : (stem name).toList ≠ [] := by rwa [Ne, String.toList_eq_nil_iff]
  have hslash : '/' ∉ (fileName name).toList := by
    rw [fileName_eq, String.toList_append, List.mem_append, not_or]
    exact ⟨htidy.not_mem.1, by decide⟩
  have hlength : 5 < (fileName name).length := by
    rw [fileName_eq, String.length_append, ← String.length_toList]
    have := List.length_pos_iff.mpr hlist
    have hjson : ".json".length = 5 := rfl
    omega
  have hpart : ∀ part : String, part.length ≤ 5 → fileName name ≠ part := by
    rintro part hshort rfl
    omega
  have hidle : Path.isIdle (fileName name) = false := by
    have hempty := hpart "" (by decide)
    have hdot := hpart "." (by decide)
    simp [Path.isIdle, hempty, hdot]
  refine ⟨fileName_eq name, ⟨hne, ?_, ?_⟩, htidy.not_isInfix, ⟨htidy.spelled, htidy.not_mem⟩,
    fun directory => ?_, fun base directory => ?_, ?_, fun other => ?_⟩
  · rw [List.head?_eq_some_head hlist, Option.any_some]
    exact htidy.head _ (List.head?_eq_some_head hlist)
  · rw [List.getLast?_eq_some_getLast hlist, Option.any_some]
    exact htidy.last _ (List.getLast?_eq_some_getLast hlist)
  · rw [ofText_of_part hslash hidle, Path.join, if_pos rfl, pathOf, Path.child]
  · exact resolve_child (hpart ".." (by decide)) base directory
  · rw [fileName_eq, fileName_eq, stem_stem]
  · rw [fileName_eq, fileName_eq]
    constructor
    · intro h
      have hchars := congrArg String.toList h
      rw [String.toList_append, String.toList_append] at hchars
      exact String.toList_inj.mp (List.append_cancel_right hchars)
    · exact congrArg (· ++ ".json")

example : fileName "  Zoë's ../Übung_7. " = "zo_s_bung_7.json" := by decide +kernel

end CharacterFile

end Tabletop
