import Tabletop.Document.Yaml.Scalar

/-!
# Characters in their places

What a character means in YAML depends on where it stands: how far its line is indented, whether it
is the first of its line, and how far it is from the beginning of a key. So a text is read as a
list of characters that know their places.
-/
namespace Tabletop.Yaml

/-- A character and where it stands. -/
structure Spot where
  char : Char
  index : Nat
  line : Nat
  column : Nat
  deriving DecidableEq, Repr

/-- The characters that end a line. -/
def isBreak (c : Char) : Bool :=
  let n := c.toNat
  n == 0xA || n == 0x85 || n == 0x2028 || n == 0x2029

/-- What the end of a line is in a value: all ends are alike but the two separators of Unicode. -/
def breakChar (c : Char) : Char :=
  let n := c.toNat
  if n == 0x2028 || n == 0x2029 then c else '\n'

namespace Spot

/-- The place after a character; the mark of byte order takes up no column. -/
def next (s : Spot) (c : Char) : Spot :=
  if isBreak s.char then ⟨c, s.index + 1, s.line + 1, 0⟩
  else ⟨c, s.index + 1, s.line, if s.char.toNat == 0xFEFF then s.column else s.column + 1⟩

end Spot

/-- The characters of a text in their places. -/
def spots : List Char → List Spot
  | [] => []
  | first :: rest =>
      let start : Spot := ⟨first, 0, 0, 0⟩
      let (_, found) :=
        rest.foldl
          (fun (last, found) c =>
            let here := Spot.next last c
            (here, here :: found))
          (start, [start])
      found.reverse

/-- The characters without their places. -/
def chars (cs : List Spot) : List Char := cs.map Spot.char

/-- No character is lost, whatever stands before those that are left. -/
theorem chars_foldl_next (cs : List Char) (last : Spot) (found : List Spot) :
    chars (cs.foldl (fun (last, found) c => (Spot.next last c, Spot.next last c :: found))
      (last, found)).2.reverse = chars found.reverse ++ cs := by
  induction cs generalizing last found with
  | nil => simp
  | cons c rest ih =>
      rw [List.foldl_cons, ih]
      have here : (Spot.next last c).char = c := by unfold Spot.next; split <;> rfl
      simp [chars, here]

/-- The places do not change the text. -/
theorem chars_spots (cs : List Char) : chars (spots cs) = cs := by
  cases cs with
  | nil => rfl
  | cons first rest => exact chars_foldl_next rest ⟨first, 0, 0, 0⟩ [⟨first, 0, 0, 0⟩]

/-- The first character. -/
def first? (cs : List Spot) : Option Char := cs.head?.map Spot.char

/-- The column of the first character is the given one. -/
def isAtColumn (column : Nat) (cs : List Spot) : Bool :=
  match cs with
  | s :: _ => s.column == column
  | [] => false

/-- A blank, the end of a line or the end of the text. -/
def endsWord (c : Option Char) : Bool :=
  match c with
  | some c => isBlank c || isBreak c
  | none => true

/-- A space, the end of a line or the end of the text. -/
def endsPart (c : Option Char) : Bool := endsWord c && c != some '\t'

/-- The line begins with one of the marks between documents. -/
def isMarked (cs : List Spot) : Bool :=
  match cs with
  | a :: b :: c :: rest =>
      a.column == 0 && (a.char == '-' || a.char == '.') && b.char == a.char && c.char == a.char &&
        endsWord (first? rest)
  | _ => false

/-! ### Between words -/

/-- What lies between two words of a scalar. -/
structure Gap where
  /-- What it contributes to the scalar. -/
  inside : List Char
  /-- It goes on to another line. -/
  crosses : Bool
  /-- It ends before a mark between documents. -/
  meetsMark : Bool
  rest : List Spot

/-- Further ends of lines with the blanks between them, after the ends that were read, the last one
first; and whether a mark between documents comes then. -/
def furtherBreaks (isSpace : Char → Bool) :
    (read : List Char) → List Spot → List Char × Bool × List Spot
  | read, [] => (read.reverse, false, [])
  | read, s :: rest =>
      if isMarked (s :: rest) then (read.reverse, true, s :: rest)
      else if isSpace s.char then furtherBreaks isSpace read rest
      else if isBreak s.char then furtherBreaks isSpace (breakChar s.char :: read) rest
      else (read.reverse, false, s :: rest)

/-- Lines are folded: a single end of a line becomes a space, and of several the first one is
dropped. A separator of Unicode is never dropped. -/
def folded (first : Char) (further : List Char) : List Char :=
  if first != '\n' then first :: further
  else if further.isEmpty then [' ']
  else further

/-- The gap at the front. -/
def gap (isSpace : Char → Bool) (cs : List Spot) : Gap :=
  let (spaces, rest) := cs.span fun s => isSpace s.char
  match rest with
  | [] => ⟨chars spaces, false, false, []⟩
  | s :: after =>
      if isBreak s.char then
        let (further, meetsMark, rest) := furtherBreaks isSpace [] after
        ⟨if meetsMark then [] else folded (breakChar s.char) further, true, meetsMark, rest⟩
      else ⟨chars spaces, false, false, rest⟩

end Tabletop.Yaml
