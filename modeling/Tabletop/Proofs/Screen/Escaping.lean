import Tabletop.Proofs.Screen.Markup

/-!
# Escaped texts

In an escaped text every tag has an odd number of backslashes in front of it, so nothing counts as a
tag and the text can be shown. This holds of each escaped text by itself. Where one follows another,
a bracket that is left open in the first may be closed in the second, and what stands between the
two is a tag that nobody has escaped.
-/
namespace Tabletop.Markup

/-! ### Brackets -/

/-- A tag reaches up to the first closing bracket, whatever follows that. -/
theorem tagRest?_eq_some {cs inside after : List Char} (h : tagRest? cs = some (inside, after)) :
    cs = inside ++ ']' :: after ∧
      ∀ rest, tagRest? (inside ++ ']' :: rest) = some (inside, rest) := by
  induction cs generalizing inside with
  | nil => cases h
  | cons c cs ih =>
    rw [tagRest?] at h
    split at h
    · rename_i hclose
      cases h
      exact ⟨by rw [beq_iff_eq.mp hclose]; rfl, fun rest => by simp [tagRest?]⟩
    · rename_i hclose
      split at h
      · cases h
      · rename_i hopen
        obtain ⟨⟨found, _⟩, hfound, heq⟩ := Option.map_eq_some_iff.mp h
        cases heq
        obtain ⟨rfl, hrest⟩ := ih hfound
        refine ⟨rfl, fun rest => ?_⟩
        rw [List.cons_append, tagRest?, if_neg hclose, if_neg hopen, hrest]
        rfl

theorem tag?_eq_some {cs inside after : List Char} (h : tag? cs = some (inside, after)) :
    cs = inside ++ ']' :: after ∧ ∀ rest, tag? (inside ++ ']' :: rest) = some (inside, rest) := by
  cases cs with
  | nil => cases h
  | cons c cs =>
    rw [tag?] at h
    split at h
    · rename_i hc
      obtain ⟨⟨found, _⟩, hfound, heq⟩ := Option.map_eq_some_iff.mp h
      cases heq
      obtain ⟨rfl, hrest⟩ := tagRest?_eq_some hfound
      refine ⟨rfl, fun rest => ?_⟩
      rw [List.cons_append, tag?, if_pos hc, hrest]
      rfl
    · cases h

/-- Without a closing bracket a tag does not end before the rest. -/
theorem tagRest?_append_eq_none {cs rest : List Char} (hcs : ']' ∉ cs)
    (hrest : tagRest? rest = none) : tagRest? (cs ++ rest) = none := by
  induction cs with
  | nil => exact hrest
  | cons c cs ih =>
    have hclose : c ≠ ']' := fun h => hcs (h ▸ List.mem_cons_self)
    rw [List.cons_append, tagRest?, if_neg (by simpa using hclose),
      ih fun h => hcs (List.mem_cons_of_mem c h)]
    simp

/-- If no tag ends before an opening bracket, there is no closing one. -/
theorem not_mem_of_tagRest?_append {cs rest : List Char} (h : tagRest? (cs ++ rest) = none)
    (hcs : '[' ∉ cs) : ']' ∉ cs := by
  induction cs with
  | nil => exact List.not_mem_nil
  | cons c cs ih =>
    have hopen : c ≠ '[' := fun h => hcs (h ▸ List.mem_cons_self)
    rw [List.cons_append, tagRest?] at h
    split at h
    · cases h
    · rename_i hclose
      rw [if_neg (by simpa using hopen), Option.map_eq_none_iff] at h
      simp only [List.mem_cons, not_or]
      exact ⟨fun h => hclose (by simp [← h]), ih h fun h => hcs (List.mem_cons_of_mem c h)⟩

theorem tag?_eq_none_of_tagRest? {cs : List Char} (h : tagRest? cs = none) : tag? cs = none := by
  cases cs with
  | nil => rfl
  | cons c cs =>
    rw [tagRest?] at h
    split at h
    · cases h
    · split at h
      · rename_i hopen
        rw [tag?, beq_iff_eq.mp hopen]
        rfl
      · rw [tag?, Option.map_eq_none_iff.mp h]
        simp

/-- If no tag ends before an opening bracket, none does with a rest in which none ends either. -/
theorem tag?_append_eq_none {cs more rest : List Char} (h : tag? (cs ++ more) = none)
    (hcs : '[' ∉ cs) (hrest : tagRest? rest = none) : tag? (cs ++ rest) = none := by
  cases cs with
  | nil => exact tag?_eq_none_of_tagRest? hrest
  | cons c cs =>
    rw [List.cons_append, tag?] at h ⊢
    split
    · rename_i hc
      rw [if_pos hc, Option.map_eq_none_iff] at h
      rw [Option.map_eq_none_iff]
      exact tagRest?_append_eq_none (not_mem_of_tagRest?_append h
        fun h => hcs (List.mem_cons_of_mem c h)) hrest
    · rfl

/-! ### Escaped characters -/

theorem not_mem_backslashes {c : Char} (hc : c ≠ '\\') (n : Nat) : c ∉ List.replicate n '\\' :=
  fun h => hc (List.eq_of_mem_replicate h)

theorem flatMap_prepend (cs : List Char) (ps : List Piece) :
    (prepend cs ps).flatMap escapePiece = cs ++ ps.flatMap escapePiece := by
  unfold prepend
  split
  · simp [escapePiece]
  · split <;> simp_all [escapePiece]

/-- The escaped text of characters that follow some backslashes. -/
def escaped (b : Nat) (cs : List Char) : List Char := (piecesAfter b cs).flatMap escapePiece

theorem escaped_nil (b : Nat) : escaped b [] = List.replicate b '\\' := by
  rw [escaped, piecesAfter, flatMap_prepend]
  simp

theorem escaped_backslash (b : Nat) (cs : List Char) :
    escaped b ('\\' :: cs) = escaped (b + 1) cs := by
  rw [escaped, piecesAfter]
  simp [escaped]

theorem escaped_of_tag? {cs inside after : List Char} (h : tag? cs = some (inside, after))
    (b : Nat) : escaped b ('[' :: cs) =
      List.replicate (2 * b + 1) '\\' ++ '[' :: (inside ++ ']' :: escaped 0 after) := by
  rw [escaped, piecesAfter_of_tag? h]
  simp [escapePiece, escaped]

theorem escaped_of_tag?_eq_none {cs : List Char} (h : tag? cs = none) (b : Nat) :
    escaped b ('[' :: cs) = List.replicate b '\\' ++ '[' :: escaped 0 cs := by
  rw [escaped, piecesAfter_bracket, h, flatMap_prepend]
  simp [escaped]

theorem escaped_of_ne {c : Char} (hc : c ≠ '[' ∧ c ≠ '\\') (b : Nat) (cs : List Char) :
    escaped b (c :: cs) = List.replicate b '\\' ++ c :: escaped 0 cs := by
  rw [escaped, piecesAfter_of_ne hc, flatMap_prepend]
  simp [escaped]

/-- Characters after some backslashes are taken one after the other, but for tags. -/
theorem escaped_induction {motive : Nat → List Char → Prop} (nil : ∀ b, motive b [])
    (backslash : ∀ b cs, motive (b + 1) cs → motive b ('\\' :: cs))
    (tag : ∀ b cs inside after, tag? cs = some (inside, after) → motive 0 after →
      motive b ('[' :: cs))
    (bracket : ∀ b cs, tag? cs = none → motive 0 cs → motive b ('[' :: cs))
    (other : ∀ b c cs, c ≠ '[' ∧ c ≠ '\\' → motive 0 cs → motive b (c :: cs))
    (b : Nat) (cs : List Char) : motive b cs := by
  induction b, cs using piecesAfter.induct with
  | case1 b => exact nil b
  | case2 b c cs hc ih =>
    obtain rfl := beq_iff_eq.mp hc
    exact backslash b cs ih
  | case3 b c cs hc hopen inside after htag hlt ih =>
    obtain rfl := beq_iff_eq.mp hopen
    exact tag b cs inside after htag ih
  | case4 b c cs hc hopen htag ih =>
    obtain rfl := beq_iff_eq.mp hopen
    exact bracket b cs htag ih
  | case5 b c cs hc hopen ih =>
    exact other b c cs ⟨by simpa using hopen, by simpa using hc⟩ ih

/-- Without an opening bracket nothing is put in before the rest, where the backslashes at the end
count. -/
theorem exists_escaped_append {cs : List Char} (hcs : '[' ∉ cs) (b : Nat) (rest : List Char) :
    ∃ front n, front ++ List.replicate n '\\' = List.replicate b '\\' ++ cs ∧
      escaped b (cs ++ rest) = front ++ escaped n rest := by
  induction cs generalizing b with
  | nil => exact ⟨[], b, by simp, rfl⟩
  | cons c cs ih =>
    have hopen : c ≠ '[' := fun h => hcs (h ▸ List.mem_cons_self)
    have htail : '[' ∉ cs := fun h => hcs (List.mem_cons_of_mem c h)
    by_cases hc : c = '\\'
    · subst hc
      obtain ⟨front, n, hfront, heq⟩ := ih htail (b + 1)
      refine ⟨front, n, ?_, by rw [List.cons_append, escaped_backslash, heq]⟩
      rw [hfront, List.replicate_succ']
      simp
    · obtain ⟨front, n, hfront, heq⟩ := ih htail 0
      refine ⟨List.replicate b '\\' ++ c :: front, n, by simp [hfront], ?_⟩
      rw [List.cons_append, escaped_of_ne ⟨hopen, hc⟩, heq]
      simp

theorem escaped_of_not_mem {cs : List Char} (hcs : '[' ∉ cs) : escaped 0 cs = cs := by
  obtain ⟨front, n, hfront, heq⟩ := exists_escaped_append hcs 0 []
  rw [List.append_nil, escaped_nil, hfront] at heq
  exact heq

theorem exists_escaped_bracket (b : Nat) (cs : List Char) :
    ∃ n after, escaped b ('[' :: cs) = List.replicate (b + n) '\\' ++ '[' :: after := by
  cases htag : tag? cs with
  | none => exact ⟨0, _, escaped_of_tag?_eq_none htag b⟩
  | some found =>
    obtain ⟨inside, after⟩ := found
    refine ⟨b + 1, inside ++ ']' :: escaped 0 after, ?_⟩
    rw [escaped_of_tag? htag, ← Nat.add_assoc, ← Nat.two_mul]

/-- What is put in closes no bracket. -/
theorem tag?_escaped_append_eq_none {cs rest : List Char} (h : tag? cs = none)
    (hrest : tagRest? rest = none) : tag? (escaped 0 cs ++ rest) = none := by
  by_cases hcs : '[' ∈ cs
  · obtain ⟨front, more, rfl, hfront⟩ := List.eq_append_cons_of_mem hcs
    obtain ⟨start, n, hstart, heq⟩ := exists_escaped_append hfront 0 ('[' :: more)
    obtain ⟨k, after, hbracket⟩ := exists_escaped_bracket n more
    have hescaped : escaped 0 (front ++ '[' :: more) ++ rest =
        front ++ (List.replicate k '\\' ++ '[' :: (after ++ rest)) := by
      rw [heq, hbracket, List.replicate_add, ← List.append_assoc, ← List.append_assoc, hstart]
      simp
    rw [hescaped]
    exact tag?_append_eq_none h hfront
      (tagRest?_append_eq_none (not_mem_backslashes (by decide) k) rfl)
  · rw [escaped_of_not_mem hcs]
    rw [← List.append_nil cs] at h
    exact tag?_append_eq_none h hcs hrest

/-! ### Showing -/

theorem piecesAfter_replicate (b n : Nat) (cs : List Char) :
    piecesAfter b (List.replicate n '\\' ++ cs) = piecesAfter (b + n) cs := by
  induction n generalizing b with
  | zero => rfl
  | succ n ih =>
    rw [List.replicate_succ, List.cons_append, piecesAfter]
    simp only [beq_self_eq_true, if_true]
    rw [ih, Nat.add_right_comm, Nat.add_assoc]

/-- A tag behind an odd number of backslashes is plain text. -/
theorem Shows.tag_odd {opened : List Opened} {ps : List Piece} (h : Shows opened ps) (b : Nat)
    (inside : List Char) : Shows opened (.tag (2 * b + 1) inside :: ps) := by
  intro position
  obtain ⟨shown, hshown⟩ := h (position + (Piece.tag (2 * b + 1) inside).width)
  have hodd : (2 * b + 1) % 2 = 1 := by omega
  rw [showPieces]
  simp [hodd, hshown, bind, Except.bind, pure, Except.pure]

/-- What can be shown behind any number of backslashes. -/
def ShowsBehind (opened : List Opened) (cs : List Char) : Prop :=
  ∀ n, ShowsText opened (List.replicate n '\\' ++ cs)

/-- Escaped characters can be shown where the rest can be shown behind backslashes and closes no
bracket that they leave open. -/
theorem ShowsBehind.escaped {opened : List Opened} {rest : List Char}
    (h : ShowsBehind opened rest) (b : Nat) {cs : List Char}
    (hcs : '[' ∈ cs → tagRest? rest = none) : ShowsText opened (escaped b cs ++ rest) := by
  induction b, cs using escaped_induction with
  | nil b =>
    rw [escaped_nil]
    exact h b
  | backslash b cs ih =>
    rw [escaped_backslash]
    exact ih fun h => hcs (List.mem_cons_of_mem _ h)
  | tag b cs inside after htag ih =>
    obtain ⟨rfl, hinside⟩ := tag?_eq_some htag
    rw [escaped_of_tag? htag, ShowsText, List.append_assoc, piecesAfter_replicate, List.cons_append,
      List.append_assoc, List.cons_append, piecesAfter_of_tag? (hinside _), Nat.zero_add]
    exact (ih fun _ => hcs List.mem_cons_self).tag_odd b inside
  | bracket b cs htag ih =>
    have hnone : tag? (Markup.escaped 0 cs ++ rest) = none :=
      tag?_escaped_append_eq_none htag (hcs List.mem_cons_self)
    rw [escaped_of_tag?_eq_none htag, ShowsText, List.append_assoc, piecesAfter_replicate,
      List.cons_append, piecesAfter_bracket, hnone]
    exact Shows.prepend (ih fun _ => hcs List.mem_cons_self) _
  | other b c cs hc ih =>
    rw [escaped_of_ne hc, ShowsText, List.append_assoc, piecesAfter_replicate, List.cons_append,
      piecesAfter_of_ne hc]
    exact Shows.prepend (ih fun h => hcs (List.mem_cons_of_mem _ h)) _

/-! ### Escaped texts -/

theorem toList_escape (s : String) :
    ∃ n, (escape s).toList = escaped 0 s.toList ++ List.replicate n '\\' := by
  have hescape : escape s = String.ofList (if endsInBackslash (escaped 0 s.toList) then
      escaped 0 s.toList ++ ['\\'] else escaped 0 s.toList) := rfl
  rw [hescape, String.toList_ofList]
  split
  · exact ⟨1, rfl⟩
  · exact ⟨0, (List.append_nil _).symm⟩

/-- An escaped text can be shown before a rest that closes no bracket. -/
theorem ShowsBehind.escape {opened : List Opened} {rest : List Char}
    (h : ShowsBehind opened rest) {s : String} (hs : '[' ∈ s.toList → tagRest? rest = none) :
    ShowsText opened ((escape s).toList ++ rest) := by
  obtain ⟨n, hn⟩ := toList_escape s
  have hrest : ShowsBehind opened (List.replicate n '\\' ++ rest) := by
    intro k
    rw [← List.append_assoc, ← List.replicate_add]
    exact h (k + n)
  rw [hn, List.append_assoc]
  exact hrest.escaped 0 fun hopen =>
    tagRest?_append_eq_none (not_mem_backslashes (by decide) n) (hs hopen)

end Tabletop.Markup
