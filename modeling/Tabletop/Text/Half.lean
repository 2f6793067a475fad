/-!
# Halves of characters

In units of sixteen bits a character beyond the first 65536 is a pair: a high half and a low half. A
half is no character, yet a text can hold one, even a high one right in front of a low one, as long
as nobody joins them. A half is kept as a character from a part of the code space in which there are
no characters, so it counts as one and keeps its place. Halves are joined when a text is written.
-/
namespace Tabletop.Text

/-- The code point is a high half. -/
def isHighHalf (code : Nat) : Bool := 0xD800 ≤ code && code ≤ 0xDBFF

/-- The code point is a low half. -/
def isLowHalf (code : Nat) : Bool := 0xDC00 ≤ code && code ≤ 0xDFFF

/-- How far from its code point a half is kept. -/
def halfDistance : Nat := 0xD0000

/-- The character of a code point, or what a half is kept as. -/
def ofCode (code : Nat) : Char :=
  if isHighHalf code || isLowHalf code then Char.ofNat (halfDistance + code) else Char.ofNat code

/-- The code point of what is kept as the character, if that is a half. -/
def half? (c : Char) : Option Nat :=
  if 0xDD800 ≤ c.toNat && c.toNat ≤ 0xDDFFF then some (c.toNat - halfDistance) else none

/-- A text holds a half. -/
def hasHalf (s : String) : Bool := s.toList.any fun c => (half? c).isSome

/-- The character of a high half and a low half. -/
def ofHalves (high low : Nat) : Char :=
  Char.ofNat (0x10000 + (high - 0xD800) * 0x400 + (low - 0xDC00))

/-- The character that two characters are the halves of. -/
def paired? (a b : Char) : Option Char :=
  match half? a, half? b with
  | some high, some low =>
      if isHighHalf high && isLowHalf low then some (ofHalves high low) else none
  | _, _ => none

/-- Every high half joined with the low half that follows it. -/
def joinHalves : List Char → List Char
  | a :: b :: rest =>
      match paired? a b with
      | some c => c :: joinHalves rest
      | none => a :: joinHalves (b :: rest)
  | cs => cs

/-- What is shown of a text, for want of a character where a half is left alone. -/
def whole (s : String) : String :=
  String.ofList ((joinHalves s.toList).map fun c =>
    if (half? c).isSome then Char.ofNat 0xFFFD else c)

/-- What is left of a text whose bytes are read again: none of the three bytes of a half can be, and
each is replaced. -/
def withoutHalves (s : String) : String :=
  String.ofList (s.toList.flatMap fun c =>
    if (half? c).isSome then List.replicate 3 (Char.ofNat 0xFFFD) else [c])

/-- A half that is kept can be told. -/
theorem half?_ofCode {code : Nat} (h : isHighHalf code || isLowHalf code) :
    half? (ofCode code) = some code := by
  have bounds : 0xD800 ≤ code ∧ code ≤ 0xDFFF := by
    simp only [isHighHalf, isLowHalf, Bool.or_eq_true, Bool.and_eq_true, decide_eq_true_eq] at h
    omega
  have valid : (halfDistance + code).isValidChar := by
    simp only [halfDistance, Nat.isValidChar]
    omega
  have kept : (ofCode code).toNat = halfDistance + code := by
    rw [ofCode, if_pos h, Char.ofNat, dif_pos valid]
    rfl
  have distance : halfDistance = 0xD0000 := rfl
  have found : (decide (0xDD800 ≤ halfDistance + code) && decide (halfDistance + code ≤ 0xDDFFF)) =
      true :=
    Bool.and_eq_true_iff.2 ⟨decide_eq_true (by omega), decide_eq_true (by omega)⟩
  rw [half?, kept, if_pos found, Nat.add_sub_cancel_left]

/-- What is no half has no partner. -/
theorem paired?_eq_none {a : Char} (h : half? a = none) (b : Char) : paired? a b = none := by
  rw [paired?, h]

/-- A text without halves has nothing to join. -/
theorem joinHalves_of_all {cs : List Char} (h : ∀ c ∈ cs, half? c = none) : joinHalves cs = cs := by
  fun_induction joinHalves cs with
  | case1 a b rest c hc =>
      rw [paired?_eq_none (h a List.mem_cons_self)] at hc
      contradiction
  | case2 a b rest hc ih => rw [ih fun c hc => h c (List.mem_cons_of_mem a hc)]
  | case3 cs => rfl

end Tabletop.Text
