import Mathlib.Data.List.TakeWhile
import Tabletop.Proofs.Content
import Tabletop.Proofs.Number.Digits
import Tabletop.Proofs.Text.LetterCase
import Tabletop.Screen.Sheets

/-!
# Markup that can be shown

A text in markup can be shown if every tag in it is closed by the one that was opened last. Ids in
upper case and numbers are no markup, so what is said about changes can always be shown.
-/
namespace Tabletop.Markup

/-- Neither a tag nor anything that could be taken for a part of one. -/
def IsPlain (cs : List Char) : Prop := ∀ c ∈ cs, c ≠ '[' ∧ c ≠ '\\'

instance (cs : List Char) : Decidable (IsPlain cs) :=
  List.decidableBAll (fun c => c ≠ '[' ∧ c ≠ '\\') cs

theorem isPlain_append_iff {cs ds : List Char} : IsPlain (cs ++ ds) ↔ IsPlain cs ∧ IsPlain ds :=
  List.forall_mem_append

theorem isPlain_append {cs ds : List Char} (hcs : IsPlain cs) (hds : IsPlain ds) :
    IsPlain (cs ++ ds) := isPlain_append_iff.mpr ⟨hcs, hds⟩

/-! ### Pieces -/

theorem piecesAfter_of_ne {c : Char} (hc : c ≠ '[' ∧ c ≠ '\\') (b : Nat) (rest : List Char) :
    piecesAfter b (c :: rest) =
      prepend (List.replicate b '\\' ++ [c]) (piecesAfter 0 rest) := by
  rw [piecesAfter]
  simp [hc.1, hc.2]

theorem piecesAfter_bracket (b : Nat) (cs : List Char) :
    piecesAfter b ('[' :: cs) =
      match tag? cs with
      | some (inside, after) => .tag b inside :: piecesAfter 0 after
      | none => prepend (List.replicate b '\\' ++ ['[']) (piecesAfter 0 cs) := by
  rw [piecesAfter]
  simp only [beq_self_eq_true, if_true]
  rw [if_neg (by decide)]
  split
  · rename_i htag
    rw [htag]
  · rename_i htag
    rw [htag]

theorem piecesAfter_of_tag? {cs inside after : List Char} (h : tag? cs = some (inside, after))
    (b : Nat) : piecesAfter b ('[' :: cs) = .tag b inside :: piecesAfter 0 after := by
  rw [piecesAfter_bracket, h]

/-- What stands in tags: small letters, with blanks after the first of them. -/
structure IsTagText (w : List Char) : Prop where
  letter : ∃ c cs, w = c :: cs ∧ 'a' ≤ c ∧ c ≤ 'z'
  letters : ∀ c ∈ w, c = ' ' ∨ 'a' ≤ c ∧ c ≤ 'z'

theorem IsTagText.ne {w : List Char} (hw : IsTagText w) {c d : Char} (hc : c ∈ w)
    (hd : ¬ (d = ' ' ∨ 'a' ≤ d ∧ d ≤ 'z')) : c ≠ d := by
  rintro rfl
  exact hd (hw.letters _ hc)

theorem isTagText_of_all {w : List Char} (hfirst : w.head?.any fun c => 'a' ≤ c && c ≤ 'z')
    (hall : w.all fun c => c == ' ' || 'a' ≤ c && c ≤ 'z') : IsTagText w := by
  cases w with
  | nil => cases hfirst
  | cons c cs =>
    exact ⟨⟨c, cs, rfl, by simpa using hfirst⟩,
      fun c hc => by simpa using List.all_eq_true.mp hall c hc⟩

theorem toNat_bounds_of_letter {c : Char} (hc : 'a' ≤ c ∧ c ≤ 'z') :
    97 ≤ c.toNat ∧ c.toNat ≤ 122 :=
  ⟨UInt32.le_iff_toNat_le.mp hc.1, UInt32.le_iff_toNat_le.mp hc.2⟩

theorem isBlank_of_letter {c : Char} (hc : 'a' ≤ c ∧ c ≤ 'z') : Text.isBlank c = false := by
  have := toNat_bounds_of_letter hc
  simp only [Text.isBlank, Text.isSpace, Bool.or_eq_false_iff, Bool.and_eq_false_iff,
    decide_eq_false_iff_not, beq_eq_false_iff_ne]
  omega

theorem tagRest?_append {w : List Char} (hw : ∀ c ∈ w, c ≠ '[' ∧ c ≠ ']') (rest : List Char) :
    tagRest? (w ++ ']' :: rest) = some (w, rest) := by
  induction w with
  | nil => simp [tagRest?]
  | cons c w ih =>
    have hc := hw c List.mem_cons_self
    rw [List.cons_append, tagRest?]
    simp [hc.1, hc.2, ih fun d hd => hw d (List.mem_cons_of_mem c hd)]

theorem IsTagText.tag?_eq {w : List Char} (hw : IsTagText w) (rest : List Char) :
    tag? (w ++ ']' :: rest) = some (w, rest) ∧
      tag? ('/' :: w ++ ']' :: rest) = some ('/' :: w, rest) := by
  have hinside : ∀ c ∈ w, c ≠ '[' ∧ c ≠ ']' := fun c hc =>
    ⟨hw.ne hc (by decide), hw.ne hc (by decide)⟩
  constructor
  · obtain ⟨c, cs, rfl, hletter⟩ := hw.letter
    have hc : beginsTag c := by simp [beginsTag, hletter]
    rw [List.cons_append, tag?, if_pos hc,
      tagRest?_append fun d hd => hinside d (List.mem_cons_of_mem c hd)]
    rfl
  · rw [List.cons_append, tag?, if_pos (by decide), tagRest?_append hinside]
    rfl

/-! ### Names of styles -/

/-- The words of a text are made of its characters. -/
theorem mem_of_mem_words {cs w : List Char} (h : w ∈ Text.words cs) : ∀ c ∈ w, c ∈ cs := by
  let step := fun (read : List Char × List (List Char)) c =>
    if !Text.isBlank c then (c :: read.1, read.2)
    else if read.1.isEmpty then ([], read.2)
    else ([], read.1.reverse :: read.2)
  let made := fun (read : List Char × List (List Char)) =>
    (∀ c ∈ read.1, c ∈ cs) ∧ ∀ w ∈ read.2, ∀ c ∈ w, c ∈ cs
  obtain ⟨hword, hdone⟩ : made (cs.foldl step ([], [])) := by
    refine List.foldlRecOn cs step ⟨by simp, by simp⟩ fun read ⟨hword, hdone⟩ c hc => ?_
    dsimp only [step]
    split_ifs
    · exact ⟨List.forall_mem_cons.mpr ⟨hc, hword⟩, hdone⟩
    · exact ⟨by simp, hdone⟩
    · exact ⟨by simp, List.forall_mem_cons.mpr ⟨by simpa using hword, hdone⟩⟩
  have hwords : Text.words cs = (if (cs.foldl step ([], [])).1.isEmpty then
      (cs.foldl step ([], [])).2
      else (cs.foldl step ([], [])).1.reverse :: (cs.foldl step ([], [])).2).reverse := rfl
  rw [hwords, List.mem_reverse] at h
  split at h
  · exact hdone w h
  · rcases List.mem_cons.mp h with rfl | h
    · simpa using hword
    · exact hdone w h

/-- Only what stands in parentheses can have a part without digits. -/
theorem readColor_ne_emptyPart {word : String} (h : '(' ∉ (Text.lower word).toList) :
    Style.readColor word ≠ .error .emptyPart := by
  have hnone : Style.inParentheses? "rgb(".toList (Text.lower word).toList = none := by
    rw [Style.inParentheses?, if_neg]
    rw [Bool.and_eq_true, List.isPrefixOf_iff_prefix]
    rintro ⟨hbegins, -⟩
    exact h (hbegins.subset (by decide))
  unfold Style.readColor
  simp only
  split
  · rintro ⟨⟩
  · rw [Style.readParts, hnone]
    rintro ⟨⟩

theorem readWords_ne_emptyPart {ws : List String}
    (h : ∀ w ∈ ws, Text.lower w = w ∧ '(' ∉ w.toList) (s : Style) :
    Style.readWords ws s ≠ .error .emptyPart := by
  have hcolor {w : String} (hw : Text.lower w = w ∧ '(' ∉ w.toList)
      {rest : String → Except Style.Refusal Style}
      (hrest : ∀ color, rest color ≠ .error .emptyPart) :
      Style.readColor w >>= rest ≠ .error .emptyPart := by
    have hread : Style.readColor w ≠ .error .emptyPart :=
      readColor_ne_emptyPart (by rw [hw.1]; exact hw.2)
    cases hfound : Style.readColor w with
    | ok color => exact hrest color
    | error refusal =>
      intro heq
      cases heq
      exact hread hfound
  fun_induction Style.readWords ws s with
  | case1 | case2 | case4 | case6 | case7 => rintro ⟨⟩
  | case3 word s found hon color rest ih =>
    obtain ⟨-, hcolored, hrest⟩ := by simpa only [List.forall_mem_cons] using h
    exact hcolor hcolored fun background => ih background hrest
  | case5 word s found hon hnot trait rest _ _ ih =>
    exact ih fun w hw => h w (List.mem_cons_of_mem _ (List.mem_cons_of_mem _ hw))
  | case8 word s found hon hnot hlink target rest ih =>
    exact ih fun w hw => h w (List.mem_cons_of_mem _ (List.mem_cons_of_mem _ hw))
  | case9 word rest s found hon hnot hlink trait _ ih =>
    exact ih fun w hw => h w (List.mem_cons_of_mem _ hw)
  | case10 word rest s found hon hnot hlink _ ih =>
    obtain ⟨hword, hrest⟩ := List.forall_mem_cons.mp h
    have hfound : found = word := hword.1
    rw [hfound]
    exact hcolor hword fun color => ih color hrest

/-- What stands in a tag names a style. -/
theorem IsTagText.exists_styleName {w : List Char} (hw : IsTagText w) :
    ∃ style, styleName w = .ok style := by
  have hword : ∀ word ∈ (Text.words w).map String.ofList,
      Text.lower word = word ∧ '(' ∉ word.toList := by
    rintro _ hword
    obtain ⟨cs, hcs, rfl⟩ := List.mem_map.mp hword
    have hmem := mem_of_mem_words hcs
    constructor
    · refine Text.lower_eq_self fun c hc => ?_
      rw [String.toList_ofList] at hc
      rcases hw.letters c (hmem c hc) with rfl | hletter
      · exact Text.lowerChar_of_ascii (by decide)
      · have := toNat_bounds_of_letter hletter
        rw [Text.lowerChar_of_ascii (by omega), if_neg (by omega)]
    · rw [String.toList_ofList]
      exact fun hc => hw.ne (hmem _ hc) (by decide) rfl
  have hread := readWords_ne_emptyPart hword .blank
  rw [styleName, Style.nameOf, String.toList_ofList]
  cases hstyle : Style.readWords ((Text.words w).map String.ofList) .blank with
  | ok style => exact ⟨_, rfl⟩
  | error refusal =>
    cases refusal with
    | unknown => exact ⟨_, rfl⟩
    | emptyPart => exact absurd hstyle hread

/-! ### Showing -/

/-- The pieces can be shown while the given tags are open, wherever they stand. -/
def Shows (opened : List Opened) (ps : List Piece) : Prop :=
  ∀ position, ∃ shown, showPieces position opened ps = .ok shown

theorem shows_nil (opened : List Opened) : Shows opened [] := fun _ => ⟨[], rfl⟩

/-- Plain text can always be shown; what matters is what follows it. -/
theorem exists_showPieces_plain_iff {position : Nat} {opened : List Opened} {cs : List Char}
    {ps : List Piece} : (∃ shown, showPieces position opened (.plain cs :: ps) = .ok shown) ↔
      ∃ shown, showPieces (position + cs.length) opened ps = .ok shown := by
  rw [showPieces]
  simp only [Piece.width]
  cases showPieces (position + cs.length) opened ps with
  | error fault => simp [bind, Except.bind]
  | ok shown => simp [bind, Except.bind, pure, Except.pure]

theorem Shows.prepend {opened : List Opened} {ps : List Piece} (h : Shows opened ps)
    (cs : List Char) : Shows opened (prepend cs ps) := by
  intro position
  unfold Markup.prepend
  split
  · rename_i more ps
    have hlater := exists_showPieces_plain_iff.mp (h (position + cs.length))
    rw [exists_showPieces_plain_iff, List.length_append, ← Nat.add_assoc]
    exact hlater
  · split
    · exact h position
    · exact exists_showPieces_plain_iff.mpr (h _)

/-- A text can be shown while the given tags are open. -/
def ShowsText (opened : List Opened) (cs : List Char) : Prop := Shows opened (piecesAfter 0 cs)

theorem showsText_nil (opened : List Opened) : ShowsText opened [] := by
  rw [ShowsText, piecesAfter]
  exact Shows.prepend (shows_nil opened) _

theorem ShowsText.plain {opened : List Opened} {cs rest : List Char} (h : ShowsText opened rest)
    (hcs : IsPlain cs) : ShowsText opened (cs ++ rest) := by
  induction cs with
  | nil => exact h
  | cons c cs ih =>
    have hrest := ih fun d hd => hcs d (List.mem_cons_of_mem c hd)
    rw [ShowsText, List.cons_append, piecesAfter_of_ne (hcs c List.mem_cons_self)]
    exact Shows.prepend hrest [c]

/-- Where a tag leads to tags that are open and the rest can be shown, both can. -/
theorem exists_showPieces_tag {position : Nat} {opened opened' : List Opened} {inside : List Char}
    {ps : List Piece} (hturn : turn position inside opened = .ok opened')
    (h : Shows opened' ps) :
    ∃ shown, showPieces position opened (.tag 0 inside :: ps) = .ok shown := by
  obtain ⟨shown, hshown⟩ := h (position + (Piece.tag 0 inside).width)
  refine ⟨shown, ?_⟩
  rw [showPieces]
  simp [hturn, hshown, bind, Except.bind, pure, Except.pure]

theorem IsTagText.takeWhile {w : List Char} (hw : IsTagText w) :
    w.takeWhile (· != '=') = w ∧ w.dropWhile (· != '=') = [] := by
  have hall : ∀ c ∈ w, (c != '=') = true := fun c hc => by simpa using hw.ne hc (by decide)
  constructor
  · rw [List.takeWhile_eq_self_iff]
    exact hall
  · rw [List.dropWhile_eq_nil_iff]
    exact hall

/-- A tag opens a style. -/
theorem turn_open {position : Nat} {opened : List Opened} {w : List Char} {style : String}
    (hw : IsTagText w) (hstyle : styleName w = .ok style) :
    turn position w opened = .ok (⟨style, none⟩ :: opened) := by
  obtain ⟨c, cs, rfl, -⟩ := hw.letter
  have hslash : c ≠ '/' := hw.ne List.mem_cons_self (by decide)
  unfold turn
  rw [hw.takeWhile.1]
  split
  · rename_i name heq
    cases heq
    exact absurd rfl hslash
  · rw [hw.takeWhile.2, hstyle]
    rfl

/-- A tag with a slash closes the style that was opened last. -/
theorem turn_close {position : Nat} {opened : List Opened} {w : List Char} {style : String}
    (hw : IsTagText w) (hstyle : styleName w = .ok style) :
    turn position ('/' :: w) (⟨style, none⟩ :: opened) = .ok opened := by
  have hname : (Text.trimWhere Text.isBlank w).isEmpty = false := by
    obtain ⟨c, cs, rfl, hletter⟩ := hw.letter
    have hc : Text.isBlank c = false := isBlank_of_letter hletter
    rw [Text.trimWhere, List.dropWhile_cons_of_neg (by simp [hc]), List.isEmpty_reverse,
      List.isEmpty_eq_false_iff, Ne, List.dropWhile_eq_nil_iff]
    intro hall
    have := hall c (by simp)
    rw [hc] at this
    cases this
  unfold turn
  rw [List.takeWhile_cons_of_pos (by decide), hw.takeWhile.1]
  simp [hname, hstyle, close, bind, Except.bind, Except.map]

/-- A text in a style can be shown if what follows it can. -/
theorem ShowsText.styled {opened : List Opened} {w cs rest : List Char} (h : ShowsText opened rest)
    (hw : IsTagText w) (hcs : IsPlain cs) :
    ShowsText opened ('[' :: (w ++ ']' :: (cs ++ '[' :: ('/' :: w ++ ']' :: rest)))) := by
  obtain ⟨style, hstyle⟩ := hw.exists_styleName
  have hclose : ShowsText (⟨style, none⟩ :: opened) ('[' :: ('/' :: w ++ ']' :: rest)) := by
    intro position
    rw [piecesAfter_of_tag? (hw.tag?_eq rest).2]
    exact exists_showPieces_tag (turn_close hw hstyle) h
  intro position
  rw [piecesAfter_of_tag? (hw.tag?_eq _).1]
  exact exists_showPieces_tag (turn_open hw hstyle) (hclose.plain hcs)

/-- The text can be shown. -/
def IsShown (s : String) : Prop := ∃ shown, plain s = .ok shown

theorem ShowsText.isShown {s : String} (h : ShowsText [] s.toList) : IsShown s := by
  obtain ⟨shown, hshown⟩ := h 0
  unfold IsShown Markup.plain
  by_cases hbracket : s.toList.contains '['
  · simp only [hbracket, if_true, pieces, hshown]
    exact ⟨_, rfl⟩
  · simp only [hbracket]
    exact ⟨_, rfl⟩

/-- A text without markup can be shown. -/
theorem isShown_of_isPlain {s : String} (hs : IsPlain s.toList) : IsShown s := by
  have hshows := (showsText_nil []).plain hs
  rw [List.append_nil] at hshows
  exact hshows.isShown

theorem ShowsText.styledText {word s rest : String} (h : ShowsText [] rest.toList)
    (hw : IsTagText word.toList) (hs : IsPlain s.toList) :
    ShowsText [] (Screen.styled word s ++ rest).toList := by
  simpa [Screen.styled] using h.styled hw hs

/-- A text in a style with plain text behind it can be shown. -/
theorem isShown_styled {word s rest : String} (hw : IsTagText word.toList)
    (hs : IsPlain s.toList) (hrest : IsPlain rest.toList) :
    IsShown (Screen.styled word s ++ rest) := by
  have hnil := (showsText_nil []).plain hrest
  rw [List.append_nil] at hnil
  exact (hnil.styledText hw hs).isShown

/-! ### Numbers -/

theorem isPlain_digits (n : Nat) : IsPlain (Decimal.digits n) := by
  intro c hc
  have hdigit := Decimal.isDigit_of_mem_digits hc
  constructor
  · rintro rfl
    revert hdigit
    decide
  · rintro rfl
    revert hdigit
    decide

theorem isPlain_text (n : Int) : IsPlain (Decimal.text n).toList := by
  rw [Decimal.toList_text]
  split
  · rintro c (_ | ⟨_, hc⟩)
    · decide
    · exact isPlain_digits _ c hc
  · exact isPlain_digits _

/-! ### Changes -/

/-- The line on a new level can be shown. -/
theorem isShown_changeLine {change : Change} {line : String}
    (h : Screen.changeLine? change = some line) (hstat : IsPlain change.stat.toList) :
    IsShown line := by
  unfold Screen.changeLine? at h
  split at h
  · cases h
    rw [String.append_assoc, String.append_assoc, String.append_assoc]
    refine isShown_styled (isTagText_of_all (by decide) (by decide)) hstat ?_
    simp only [String.toList_append]
    exact isPlain_append (by decide) (isPlain_append (isPlain_text _)
      (isPlain_append (by decide) (isPlain_text _)))
  · cases h

/-- Ids in upper case are no markup. -/
theorem isPlain_of_isUpperId {id : String} (h : Content.IsUpperId id) : IsPlain id.toList := by
  intro c hc
  have hid := (h c hc).1
  constructor
  · rintro rfl
    revert hid
    decide
  · rintro rfl
    revert hid
    decide

/-- The line on points that were not applied can be shown. -/
theorem isShown_limitLine {id limit : String} {applied points : Int}
    (hid : IsPlain id.toList) (hlimit : IsPlain limit.toList) :
    IsShown (Screen.styled "yellow"
      (id ++ " reached " ++ limit ++ "; applied " ++ Decimal.text applied ++ " of " ++
        Decimal.text points ++ " points")) := by
  have hplain : IsPlain (id ++ " reached " ++ limit ++ "; applied " ++ Decimal.text applied ++
      " of " ++ Decimal.text points ++ " points").toList := by
    simp only [String.toList_append]
    have hstart := isPlain_append (isPlain_append hid (by decide : IsPlain " reached ".toList))
      (isPlain_append hlimit (by decide : IsPlain "; applied ".toList))
    have hcounts := isPlain_append (isPlain_text applied)
      (isPlain_append (by decide : IsPlain " of ".toList) (isPlain_text points))
    have hline := isPlain_append hstart
      (isPlain_append hcounts (by decide : IsPlain " points".toList))
    simpa only [List.append_assoc] using hline
  rw [← String.append_empty (s := Screen.styled _ _)]
  exact isShown_styled (isTagText_of_all (by decide) (by decide)) hplain (by decide)

/-- The line on how far a statistic has come can be shown. -/
theorem isShown_progressLine {id : String} {t : Track} (hid : IsPlain id.toList) :
    IsShown (Screen.progressLine id t) := by
  have hline (rest : String) (hrest : IsPlain rest.toList) :
      IsPlain (id ++ ": level " ++ Decimal.text t.level ++ ", " ++ Decimal.text t.points ++
        " points (" ++ rest ++ ")").toList := by
    simp only [String.toList_append]
    have hlevel := isPlain_append (isPlain_append hid (by decide : IsPlain ": level ".toList))
      (isPlain_text t.level)
    have hpoints := isPlain_append (isPlain_append hlevel (by decide : IsPlain ", ".toList))
      (isPlain_text t.points)
    exact isPlain_append (isPlain_append
      (isPlain_append hpoints (by decide : IsPlain " points (".toList)) hrest) (by decide)
  refine isShown_of_isPlain (hline _ ?_)
  split
  · decide
  · rw [String.toList_append]
    exact isPlain_append (isPlain_text _) (by decide)

/-- The line on a new character can be shown if its name and its path are no markup. -/
theorem isShown_createdLine (name path : String) (hname : IsPlain (escape name).toList)
    (hpath : IsPlain path.toList) :
    IsShown ("[green]Created[/green] " ++ escape name ++ " -> " ++ path) := by
  have hline : "[green]Created[/green] " = Screen.styled "green" "Created" ++ " " := by
    decide +kernel
  rw [hline, String.append_assoc, String.append_assoc, String.append_assoc]
  refine isShown_styled (isTagText_of_all (by decide) (by decide)) (by decide) ?_
  simp only [String.toList_append]
  exact isPlain_append (by decide) (isPlain_append hname (isPlain_append (by decide) hpath))

end Tabletop.Markup
