import Tabletop.Text.Blank
import Tabletop.Text.LetterCase
import Tabletop.Text.Pictogram.Names

/-!
# Pictograms

A text may call a pictogram by its name between two colons. The name counts in any letter case. It
may be followed by a dash and a word that asks for the coloured or the plain variant, and a person
comes in the skin tone that the end of the name says. A call of a name that nothing has stays as it
is.
-/
namespace Tabletop.Text.Pictogram

/-! ### Names -/

/-- The value of a hexadecimal digit in small letters. -/
def digitValue (c : Char) : Nat := if c ≤ '9' then c.toNat - '0'.toNat else c.toNat - 'a'.toNat + 10

/-- The character of a code point in hexadecimal. -/
def ofHex (s : String) : Char := .ofNat (s.toList.foldl (fun n c => 16 * n + digitValue c) 0)

/-- The characters of code points in hexadecimal with dashes between them. -/
def ofCodePoints (s : String) : List Char := (s.splitOn "-").map ofHex

/-- The flag of a country in the letters that flags are made of. -/
def ofLetters (s : String) : List Char :=
  s.toList.map fun c => .ofNat (0x1F1E6 + (c.toNat - 'A'.toNat))

/-- Names with what stands behind each of them. -/
def paired (read : String → List Char) : List (List Char) → List (String × List Char)
  | name :: value :: rest => (String.ofList name, read (String.ofList value)) :: paired read rest
  | _ => []

/-- Read a list of names. -/
def listing (read : String → List Char) (names : String) : List (String × List Char) :=
  paired read (words names.toList)

def countries : List (String × List Char) := listing ofLetters countryNames

def flags : List (String × List Char) := listing ofLetters flagNames

def people : List (String × List Char) := listing ofCodePoints peopleNames

def signs : List (String × List Char) := listing ofCodePoints signNames

/-- The rest of characters that begin with others. -/
def after? : List Char → List Char → Option (List Char)
  | [], cs => some cs
  | _ :: _, [] => none
  | p :: ps, c :: cs => if p = c then after? ps cs else none

/-- The rest of characters that end in others. -/
def before? (ending cs : List Char) : Option (List Char) :=
  (after? ending.reverse cs.reverse).map List.reverse

theorem after?_eq_some_iff {ps cs rest : List Char} :
    after? ps cs = some rest ↔ cs = ps ++ rest := by
  induction ps generalizing cs with
  | nil => simp [after?, eq_comm]
  | cons p ps ih =>
      cases cs with
      | nil => simp [after?]
      | cons c cs => by_cases h : p = c <;> simp [after?, h, ih, eq_comm]

theorem before?_eq_some_iff {ending cs rest : List Char} :
    before? ending cs = some rest ↔ cs = rest ++ ending := by
  simp only [before?, Option.map_eq_some_iff, after?_eq_some_iff]
  constructor
  · rintro ⟨r, h, rfl⟩
    simpa using congrArg List.reverse h
  · rintro rfl
    exact ⟨rest.reverse, by simp⟩

/-- The flag of a country that is called for with the word for flags. -/
def flagOf? (name : String) : Option (List Char) :=
  (after? "flag_for_".toList name.toList).bind fun country =>
    countries.lookup (String.ofList country)

/-- Asks for the coloured variant. -/
def colored : Char := .ofNat 0xFE0F

/-- Asks for the plain variant. -/
def plain : Char := .ofNat 0xFE0E

/-- The skin tones, with the ends of names that ask for them. -/
def tones : List (String × Char) :=
  [("_light_skin_tone", .ofNat 0x1F3FB), ("_medium-light_skin_tone", .ofNat 0x1F3FC),
    ("_medium_skin_tone", .ofNat 0x1F3FD), ("_medium-dark_skin_tone", .ofNat 0x1F3FE),
    ("_dark_skin_tone", .ofNat 0x1F3FF)]

/-- A skin tone goes behind the first character, in place of a mark of the coloured variant. -/
def inTone (tone : Char) : List Char → List Char
  | [] => []
  | [c] => [c, tone]
  | c :: d :: rest => if d = colored then c :: tone :: rest else c :: tone :: d :: rest

/-- A person in the skin tone that the end of the name says. -/
def toned? (name : String) : Option (List Char) :=
  tones.findSome? fun (ending, tone) => do
    let person ← before? ending.toList name.toList
    let sign ← people.lookup (String.ofList person)
    some (inTone tone sign)

/-- The pictogram of a name in small letters. -/
def named? (name : String) : Option (List Char) :=
  ((signs ++ people ++ countries ++ flags).lookup name).or ((flagOf? name).or (toned? name))

/-! ### Calls -/

/-- The variants, with the ends of calls that ask for them. -/
def variants : List (String × Char) := [("-emoji", colored), ("-text", plain)]

/-- The name of a call and the variant that it asks for. -/
def readCall (call : List Char) : List Char × List Char :=
  let asked :=
    variants.findSome? fun (ending, variant) =>
      (before? ending.toList call).map fun name => (name, [variant])
  asked.getD (call, [])

/-- The pictogram of a call. -/
def called? (call : List Char) : Option (List Char) :=
  let (name, variant) := readCall call
  (named? (lower (String.ofList name))).map fun sign => sign ++ variant

/-- The call up to the next colon, and what follows it. -/
def call? (cs : List Char) : Option (List Char × List Char) :=
  let isCall (c : Char) := c != ':' && !isBlank c
  match cs.dropWhile isCall with
  | ':' :: after => some (cs.takeWhile isCall, after)
  | _ => none

theorem length_call? {cs call after : List Char} (h : call? cs = some (call, after)) :
    after.length < cs.length := by
  simp only [call?] at h
  split at h
  · next rest found =>
    simp only [Option.some.injEq, Prod.mk.injEq] at h
    have shorter : (cs.dropWhile fun c => c != ':' && !isBlank c).length ≤ cs.length :=
      (List.dropWhile_sublist _).length_le
    rw [found, List.length_cons, h.2] at shorter
    exact shorter
  · simp at h

/-- All calls in a text replaced by the pictograms that they call. -/
def replaceCalls (cs : List Char) : List Char :=
  match cs with
  | [] => []
  | c :: rest =>
      if c = ':' then
        match h : call? rest with
        | some (call, after) =>
            have := length_call? h
            (called? call).getD (':' :: call ++ [':']) ++ replaceCalls after
        | none => c :: replaceCalls rest
      else c :: replaceCalls rest
termination_by cs.length
decreasing_by all_goals simp_wf <;> omega

/-- A text without colons calls nothing. -/
theorem replaceCalls_of_not_mem {cs : List Char} (h : ':' ∉ cs) : replaceCalls cs = cs := by
  induction cs with
  | nil => rw [replaceCalls]
  | cons c rest ih =>
      have here : c ≠ ':' := fun e => h (by simp [e])
      rw [replaceCalls, if_neg here, ih fun m => h (by simp [m])]

end Tabletop.Text.Pictogram
