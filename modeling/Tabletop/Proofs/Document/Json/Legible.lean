import Tabletop.Proofs.Document.Json.Scalars
import Tabletop.Text.Line

/-!
# Reading documents that were written

A document is legible if the reader gives it back from what the writer makes of it. Integers that
are not too long and texts without halves are legible, and so is a table with different keys if its
values are: what follows a value in a table cannot be taken for a part of it.
-/
namespace Tabletop

/-- Only carriage returns make line ends different. -/
theorem Text.unifyLines_eq_self {cs : List Char} (h : '\r' ∉ cs) : unifyLines cs = cs := by
  fun_induction unifyLines cs with
  | case1 => rfl
  | case2 rest ih => simp at h
  | case3 rest hne ih => simp at h
  | case4 c rest hc hne ih => rw [ih fun hmem => h (List.mem_cons_of_mem c hmem)]

namespace Entries

theorem put_of_notMem {entries : Entries} {key : String} (value : Document)
    (h : key ∉ entries.map Prod.fst) : put entries key value = entries ++ [(key, value)] := by
  induction entries with
  | nil => rfl
  | cons entry rest ih =>
    simp only [List.map_cons, List.mem_cons, not_or] at h
    rw [put, if_neg (by simpa using Ne.symm h.1), ih h.2, List.cons_append]

/-- Entries of different keys are a table as they are. -/
theorem ofList_eq_self {entries : List (String × Document)}
    (h : (entries.map Prod.fst).Nodup) : ofList entries = entries := by
  have hall : ∀ (more done : List (String × Document)), ((done ++ more).map Prod.fst).Nodup →
      more.foldl (fun table entry => put table entry.1 entry.2) done = done ++ more := by
    intro more
    induction more with
    | nil => simp
    | cons entry more ih =>
      intro done hkeys
      have hnew : entry.1 ∉ done.map Prod.fst := by
        intro hmem
        rw [List.map_append, List.nodup_append] at hkeys
        exact hkeys.2.2 _ hmem _ (by simp) rfl
      rw [List.foldl_cons, put_of_notMem entry.2 hnew, ih _ (by simpa using hkeys)]
      simp
  exact hall entries [] h

end Entries

namespace Json

/-- Written over several lines, the document is read back at any level, whatever follows it. -/
structure Legible (d : Document) : Prop where
  reads : ∀ (level fuel : Nat) (rest : List Char), (write prettyStyle level d).length ≤ fuel →
    EndsNumber rest → value fuel (write prettyStyle level d ++ rest) = .ok (d, rest)
  head : ∀ level, ∃ c cs, write prettyStyle level d = c :: cs ∧ isSpacing c = false ∧ c ≠ '\uFEFF'
  noReturn : ∀ level, '\r' ∉ write prettyStyle level d

/-! ### Integers and texts -/

theorem legible_int {n : Int} (hn : Decimal.fits n) : Legible (.int n) where
  reads level fuel rest hfuel hrest := by
    rw [write] at hfuel ⊢
    have hlength : 0 < (Decimal.text n).toList.length := by
      rw [Decimal.toList_text]
      have := List.length_pos_iff.mpr (Decimal.digits_ne_nil n.natAbs)
      split
      · simp
      · exact this
    obtain ⟨fuel, rfl⟩ : ∃ m, fuel = m + 1 := ⟨fuel - 1, by omega⟩
    exact value_text fuel hn hrest
  head level := by
    rw [write, Decimal.toList_text]
    split
    · exact ⟨_, _, rfl, by decide, by decide⟩
    · obtain ⟨c, cs, hcs⟩ := List.exists_cons_of_ne_nil (Decimal.digits_ne_nil n.natAbs)
      have hc := Decimal.isDigit_of_mem_digits (n := n.natAbs) (c := c) (by simp [hcs])
      refine ⟨c, cs, hcs, ?_, ne_of_isDigit hc (by decide)⟩
      simp [isSpacing, ne_of_isDigit hc (show Decimal.isDigit ' ' = false by decide),
        ne_of_isDigit hc (show Decimal.isDigit '\t' = false by decide),
        ne_of_isDigit hc (show Decimal.isDigit '\n' = false by decide),
        ne_of_isDigit hc (show Decimal.isDigit '\r' = false by decide)]
  noReturn level := by
    have hdigits : '\r' ∉ Decimal.digits n.natAbs := fun h =>
      absurd (Decimal.isDigit_of_mem_digits h) (by decide)
    rw [write, Decimal.toList_text]
    split
    · simp [hdigits]
    · exact hdigits

theorem notMem_writeText {s : String} (hs : IsWhole s) : '\r' ∉ writeText s := by
  have hescape : ∀ c ∈ s.toList, '\r' ∉ escapeChar c := by
    intro c hc hmem
    have hhex : ∀ m < 0x20, '\r' ∉ Text.hex 4 m := by decide
    rcases escapeChar_cases (hs c hc) with ⟨e, heq, he, -⟩ | ⟨heq, hlt⟩ | ⟨heq, -, -, hlt⟩
    · rw [heq] at hmem
      simp only [List.mem_cons, List.not_mem_nil, or_false] at hmem
      rcases hmem with h | rfl
      · cases h
      · cases he
    · rw [heq] at hmem
      simp only [List.mem_cons] at hmem
      rcases hmem with h | h | h
      · cases h
      · cases h
      · exact hhex _ hlt h
    · rw [heq, List.mem_singleton] at hmem
      exact hlt (hmem ▸ by decide)
  rw [writeText_eq hs]
  simp only [List.mem_cons, List.mem_append, List.mem_flatMap, List.not_mem_nil, or_false]
  rintro (h | ⟨c, hc, hmem⟩ | h)
  · cases h
  · exact hescape c hc hmem
  · cases h

theorem legible_text {s : String} (hs : IsWhole s) : Legible (.text s) where
  reads level fuel rest hfuel hrest := by
    rw [write] at hfuel ⊢
    obtain ⟨fuel, rfl⟩ : ∃ m, fuel = m + 1 := ⟨fuel - 1, by
      rw [writeText_eq hs, List.length_cons] at hfuel
      omega⟩
    obtain ⟨cs, hcs, htext⟩ := text_writeText hs fuel rest hfuel
    rw [hcs, List.cons_append, value, htext]
    rfl
  head level := by
    rw [write, writeText_eq hs]
    exact ⟨_, _, rfl, by decide, by decide⟩
  noReturn level := by
    rw [write]
    exact notMem_writeText hs

/-! ### Tables -/

theorem skip_cons {c : Char} {cs : List Char} (hc : isSpacing c = false) :
    skip (c :: cs) = c :: cs := by
  rw [skip, List.dropWhile_cons_of_neg (by simp [hc])]

/-- A reader gets past the end of a line to what begins the next one. -/
theorem skip_newline (level : Nat) {c : Char} {cs : List Char} (hc : isSpacing c = false) :
    skip (prettyStyle.newline level ++ c :: cs) = c :: cs := by
  have hblank : ∀ d ∈ prettyStyle.newline level, isSpacing d = true := by
    intro d hd
    simp only [prettyStyle, List.mem_cons, List.mem_replicate] at hd
    rcases hd with rfl | ⟨-, rfl⟩ <;> rfl
  rw [skip, List.dropWhile_append_of_pos hblank]
  exact skip_cons hc

theorem noReturn_newline (level : Nat) : '\r' ∉ prettyStyle.newline level := by
  simp [prettyStyle]

theorem endsNumber_writeEntries (level : Nat) (es : List (String × Document)) (rest : List Char) :
    EndsNumber (writeEntries prettyStyle level es ++ rest) := by
  intro c hc
  cases es with
  | nil =>
    obtain rfl : '\n' = c := by simpa [writeEntries, prettyStyle] using hc
    decide
  | cons e es =>
    obtain rfl : ',' = c := by simpa [writeEntries] using hc
    decide

/-- A key and its value are read, and what follows decides how it goes on. -/
theorem entries_entry {level fuel : Nat} {key : String} {d : Document}
    {read : List (String × Document)} {after : List Char} (hkey : IsWhole key) (hd : Legible d)
    (hafter : EndsNumber after)
    (hfuel : (writeText key ++ prettyStyle.colon ++ write prettyStyle (level + 1) d).length ≤
      fuel + 1) :
    entries (fuel + 1) read
        (writeText key ++ prettyStyle.colon ++ write prettyStyle (level + 1) d ++ after) =
      match skip after with
      | '}' :: rest => .ok (((key, d) :: read).reverse, rest)
      | ',' :: rest => entries fuel ((key, d) :: read) (skip rest)
      | rest => .error (.noComma, rest.length) := by
  simp only [List.length_append] at hfuel
  obtain ⟨cs, hcs, htext⟩ := text_writeText hkey fuel
    (prettyStyle.colon ++ write prettyStyle (level + 1) d ++ after) (by omega)
  obtain ⟨c, tail, hwrite, hc, -⟩ := hd.head (level + 1)
  have hvalue := hd.reads (level + 1) fuel after (by
    rw [hcs, List.length_cons] at hfuel
    omega) hafter
  have hskip : skip (' ' :: (write prettyStyle (level + 1) d ++ after)) =
      write prettyStyle (level + 1) d ++ after := by
    rw [skip, List.dropWhile_cons_of_pos (by decide), hwrite, List.cons_append]
    exact skip_cons hc
  have hcolon : skip (prettyStyle.colon ++ write prettyStyle (level + 1) d ++ after) =
      ':' :: ' ' :: (write prettyStyle (level + 1) d ++ after) := by
    rw [List.append_assoc]
    exact skip_cons (by decide)
  rw [hcs, List.cons_append, List.cons_append, List.cons_append, entries, List.append_assoc,
    List.append_assoc, ← List.append_assoc prettyStyle.colon, htext]
  simp only [bind, Except.bind, hcolon, hskip, hvalue]
  rfl

/-- The first of some entries with the others behind it, as a table writes them. -/
def entryText (level : Nat) (e : String × Document) (es : List (String × Document)) : List Char :=
  writeText e.1 ++ prettyStyle.colon ++ write prettyStyle (level + 1) e.2 ++
    writeEntries prettyStyle level es

theorem writeEntries_cons (level : Nat) (e : String × Document) (es : List (String × Document)) :
    writeEntries prettyStyle level (e :: es) =
      ',' :: (prettyStyle.newline (level + 1) ++ entryText level e es) := by
  simp [writeEntries, entryText]

theorem write_table_cons (level : Nat) (e : String × Document) (es : List (String × Document)) :
    write prettyStyle level (.table (e :: es)) =
      '{' :: (prettyStyle.newline (level + 1) ++ entryText level e es) := by
  simp [write, entryText]

theorem entryText_eq_cons (level : Nat) {e : String × Document} (es : List (String × Document))
    (he : IsWhole e.1) : ∃ cs, entryText level e es = '"' :: cs := by
  rw [entryText, writeText_eq he]
  exact ⟨_, rfl⟩

/-- Entries that are written are read back, up to the end of their table. -/
theorem entries_entryText (level fuel : Nat) {e : String × Document}
    {es : List (String × Document)} (read : List (String × Document)) (rest : List Char)
    (hkeys : ∀ x ∈ e :: es, IsWhole x.1) (hvalues : ∀ x ∈ e :: es, Legible x.2)
    (hfuel : (entryText level e es).length ≤ fuel) :
    entries fuel read (entryText level e es ++ rest) = .ok (read.reverse ++ e :: es, rest) := by
  induction es generalizing fuel e read with
  | nil =>
    obtain ⟨cs, hcs⟩ := entryText_eq_cons level [] (hkeys e List.mem_cons_self)
    obtain ⟨fuel, rfl⟩ : ∃ m, fuel = m + 1 := ⟨fuel - 1, by
      rw [hcs, List.length_cons] at hfuel
      omega⟩
    rw [entryText, List.length_append] at hfuel
    rw [entryText, List.append_assoc, entries_entry (hkeys e List.mem_cons_self)
      (hvalues e List.mem_cons_self) (endsNumber_writeEntries level [] rest) (by omega),
      writeEntries, List.append_assoc, List.singleton_append, skip_newline level (by decide)]
    simp
  | cons next es ih =>
    obtain ⟨cs, hcs⟩ := entryText_eq_cons level (next :: es) (hkeys e List.mem_cons_self)
    obtain ⟨fuel, rfl⟩ : ∃ m, fuel = m + 1 := ⟨fuel - 1, by
      rw [hcs, List.length_cons] at hfuel
      omega⟩
    rw [entryText, writeEntries_cons] at hfuel
    simp only [List.length_append, List.length_cons] at hfuel
    have hafter := endsNumber_writeEntries level (next :: es) rest
    rw [writeEntries_cons] at hafter
    have hnext := ih fuel ((e.1, e.2) :: read)
      (fun x hx => hkeys x (List.mem_cons_of_mem e hx))
      (fun x hx => hvalues x (List.mem_cons_of_mem e hx)) (by omega)
    obtain ⟨cs', hcs'⟩ := entryText_eq_cons level es
      (hkeys next (List.mem_cons_of_mem e List.mem_cons_self))
    rw [entryText, List.append_assoc, writeEntries_cons, entries_entry (hkeys e List.mem_cons_self)
      (hvalues e List.mem_cons_self) hafter (by simp only [List.length_append]; omega),
      List.cons_append, skip_cons (by decide)]
    simp only
    rw [List.append_assoc, hcs', List.cons_append, skip_newline (level + 1) (by decide),
      ← List.cons_append, ← hcs', hnext]
    simp

theorem noReturn_entry (level : Nat) {key : String} {d : Document} (hkey : IsWhole key)
    (hd : Legible d) :
    '\r' ∉ writeText key ++ prettyStyle.colon ++ write prettyStyle (level + 1) d := by
  simp only [List.mem_append, not_or]
  exact ⟨⟨notMem_writeText hkey, by decide⟩, hd.noReturn _⟩

theorem noReturn_entryText (level : Nat) {e : String × Document} {es : List (String × Document)}
    (hkeys : ∀ x ∈ e :: es, IsWhole x.1) (hvalues : ∀ x ∈ e :: es, Legible x.2) :
    '\r' ∉ entryText level e es := by
  induction es generalizing e with
  | nil =>
    rw [entryText, List.mem_append, not_or]
    refine ⟨noReturn_entry level (hkeys e List.mem_cons_self) (hvalues e List.mem_cons_self), ?_⟩
    simp [writeEntries, noReturn_newline]
  | cons next es ih =>
    have hnext := ih (fun x hx => hkeys x (List.mem_cons_of_mem e hx))
      (fun x hx => hvalues x (List.mem_cons_of_mem e hx))
    rw [entryText, List.mem_append, not_or, writeEntries_cons]
    refine ⟨noReturn_entry level (hkeys e List.mem_cons_self) (hvalues e List.mem_cons_self), ?_⟩
    simp [noReturn_newline, hnext]

/-- A table is legible if its keys are different texts without halves and its values are legible. -/
theorem legible_table {es : List (String × Document)} (hdistinct : (es.map Prod.fst).Nodup)
    (hkeys : ∀ x ∈ es, IsWhole x.1) (hvalues : ∀ x ∈ es, Legible x.2) : Legible (.table es) where
  reads level fuel rest hfuel hrest := by
    cases es with
    | nil =>
      rw [write] at hfuel ⊢
      obtain ⟨fuel, rfl⟩ : ∃ m, fuel = m + 1 := ⟨fuel - 1, by simp at hfuel; omega⟩
      simp [value, skip, isSpacing]
    | cons e es =>
      rw [write_table_cons, List.length_cons, List.length_append] at hfuel
      obtain ⟨fuel, rfl⟩ : ∃ m, fuel = m + 1 := ⟨fuel - 1, by omega⟩
      have hentries := entries_entryText level fuel [] rest
        hkeys hvalues (by omega)
      obtain ⟨cs, hcs⟩ := entryText_eq_cons level es (hkeys e List.mem_cons_self)
      rw [write_table_cons, List.cons_append, List.append_assoc, value]
      rw [hcs, List.cons_append] at hentries ⊢
      rw [skip_newline (level + 1) (by decide)]
      simp [hentries, bind, Except.bind, pure, Except.pure, Entries.ofList_eq_self hdistinct]
  head level := by
    cases es with
    | nil => exact ⟨_, _, rfl, by decide, by decide⟩
    | cons e es => exact ⟨_, _, rfl, by decide, by decide⟩
  noReturn level := by
    cases es with
    | nil => simp [write]
    | cons e es =>
      rw [write_table_cons, List.mem_cons, List.mem_append]
      rintro (h | h | h)
      · cases h
      · exact noReturn_newline _ h
      · exact noReturn_entryText level hkeys hvalues h

/-! ### Files -/

/-- A legible document is read back from what is written for it. -/
theorem Legible.read_pretty {d : Document} (h : Legible d) : read (pretty d) = .ok d := by
  obtain ⟨c, cs, hcs, hc, hmark⟩ := h.head 0
  have hvalue := h.reads 0 (2 * (write prettyStyle 0 d).length + 1) [] (by omega)
    (fun c hc => by cases hc)
  rw [List.append_nil, hcs] at hvalue
  have hchars : readChars (c :: cs) = .ok d := by
    rw [readChars]
    · rw [skip_cons hc, hvalue]
      rfl
    · rintro rest ⟨⟩
      exact hmark rfl
  rw [read, pretty, String.toList_ofList, hcs]
  simp only [hchars, Except.mapError]

/-- Reading a text file leaves what is written for a legible document as it is. -/
theorem Legible.unifyLines_pretty {d : Document} (h : Legible d) :
    Text.unifyLines (pretty d).toList = (pretty d).toList := by
  rw [pretty, String.toList_ofList]
  exact Text.unifyLines_eq_self (h.noReturn 0)

end Json

end Tabletop
