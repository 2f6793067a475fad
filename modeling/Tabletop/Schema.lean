import Tabletop.Document.Literal
import Tabletop.Text.Blank
import Tabletop.Text.Half

/-!
# Typed data from documents

A document is read as typed data field by field. Reading does not stop at the first violation: all
of them are collected, in the order of the fields, each with the path that leads to it.
-/
namespace Tabletop

/-- One step on the way to a value in a document. -/
inductive Step where
  | key (name : String)
  | index (n : Nat)
  deriving DecidableEq, Repr

/-- The step to the value under a name. -/
def Step.ofName (name : String) : Step := key (Text.withoutHalves name)

/-- The step to the value under a key: an integer or a truth value counts as an index. -/
def Step.ofKey : Document → Step
  | .text s => ofName s
  | .int (.ofNat n) => index n
  | .bool b => index (if b then 1 else 0)
  | d => key d.literal

/-- The rules that a value can violate. -/
inductive Violation where
  | missing
  | notText
  /-- A text from which a number should be read holds a half of a character. -/
  | brokenText
  | notInt
  | notList
  | notMapping
  | notModel
  | unreadableInt
  | oversizedInt
  | fractionalInt
  | notFinite
  | tooSmall
  | rejected (reason : String)
  deriving DecidableEq, Repr

namespace Violation

/-- The name under which the violation is reported. -/
def code : Violation → String
  | missing => "missing"
  | notText => "string_type"
  | brokenText => "string_unicode"
  | notInt => "int_type"
  | notList => "list_type"
  | notMapping => "dict_type"
  | notModel => "model_type"
  | unreadableInt => "int_parsing"
  | oversizedInt => "int_parsing_size"
  | fractionalInt => "int_from_float"
  | notFinite => "finite_number"
  | tooSmall => "greater_than_equal"
  | rejected _ => "value_error"

/-- The text that goes with a violation of a rule of the domain. -/
def reason? : Violation → Option String
  | rejected reason => some ("Value error, " ++ reason)
  | _ => none

end Violation

/-- A violation and where it stands. -/
structure Problem where
  path : List Step
  violation : Violation
  deriving DecidableEq, Repr

/-- Data that was read, or all that is wrong with the document. -/
abbrev Checked (α : Type) := Except (List Problem) α

namespace Checked

/-- What stands at the given step is to blame. -/
def under {α : Type} (step : Step) (x : Checked α) : Checked α :=
  x.mapError fun problems => problems.map fun p => { p with path := step :: p.path }

/-- A violation at the value itself. -/
def fail {α : Type} (v : Violation) : Checked α := .error [⟨[], v⟩]

/-- Two parts together, with the problems of both. -/
def both {α β : Type} (x : Checked α) (y : Checked β) : Checked (α × β) :=
  match x, y with
  | .ok a, .ok b => .ok (a, b)
  | .error p, .error q => .error (p ++ q)
  | .error p, .ok _ => .error p
  | .ok _, .error q => .error q

/-- All of a list, with the problems of every member. -/
def all {α : Type} : List (Checked α) → Checked (List α)
  | [] => .ok []
  | x :: rest => (both x (all rest)).map fun (a, as) => a :: as

theorem map_eq_ok_iff {α β : Type} {f : α → β} {x : Checked α} {b : β} :
    x.map f = .ok b ↔ ∃ a, x = .ok a ∧ f a = b := by
  cases x <;> simp [Except.map]

theorem both_eq_ok_iff {α β : Type} {x : Checked α} {y : Checked β} {p : α × β} :
    both x y = .ok p ↔ x = .ok p.1 ∧ y = .ok p.2 := by
  obtain ⟨a, b⟩ := p
  cases x <;> cases y <;> simp [both]

theorem all_eq_ok_iff {α : Type} {xs : List (Checked α)} {as : List α} :
    all xs = .ok as ↔ xs = as.map .ok := by
  induction xs generalizing as with
  | nil => cases as <;> simp [all]
  | cons x rest ih => cases as <;> simp [all, map_eq_ok_iff, both_eq_ok_iff, ih]

/-- Apply a function that was read to its next argument. -/
def apply {α β : Type} (f : Checked (α → β)) (x : Checked α) : Checked β :=
  (both f x).map fun (f, a) => f a

/-- Hold data that was read against a rule of the domain, which names its reason for refusing. -/
def guarded {α : Type} (refusal? : α → Option String) (x : Checked α) : Checked α :=
  x.bind fun a =>
    match refusal? a with
    | some reason => fail (.rejected reason)
    | none => .ok a

end Checked

/-- Reads a value as typed data. -/
abbrev Shape (α : Type) := Document → Checked α

namespace Shape

/-- Any text. -/
def text : Shape String
  | .text s => .ok s
  | _ => Checked.fail .notText

/-! ### Integers -/

/-- Zeros in front of a number dropped, and any underscores among them: a minus sign may still
follow them, and one zero stays where nothing or a fraction follows. -/
def dropZeros : List Char → Option (List Char)
  | '0' :: rest =>
      let (dropped, kept) := rest.span fun c => c == '0' || c == '_'
      let endsInZero := dropped.getLast? != some '_'
      match kept with
      | [] => if endsInZero then some ['0'] else none
      | '.' :: _ => if endsInZero then some ('0' :: kept) else none
      | c :: _ => if Decimal.isDigit c || c == '-' then some kept else none
  | cs@(c :: _) => if Decimal.isDigit c then some cs else none
  | [] => none

/-- Zeros dropped in front of a number and after its minus sign. -/
def dropSignedZeros : List Char → Option (List Char)
  | '-' :: rest => (dropZeros rest).map ('-' :: ·)
  | cs => dropZeros cs

/-- Without a fraction of one zero or more. -/
def dropFraction (cs : List Char) : List Char :=
  match cs.span (· != '.') with
  | (whole, '.' :: '0' :: places) => if places.all (· == '0') then whole else cs
  | _ => cs

/-- Without underscores, which may stand alone between other characters. -/
def dropUnderscores (cs : List Char) : List Char :=
  let doubled := (cs.zip (cs.drop 1)).any fun (a, b) => a == '_' && b == '_'
  if cs.head? == some '_' || cs.getLast? == some '_' || doubled then cs else cs.filter (· != '_')

/-- Digits with or without a minus sign and with no zero in front, of which there are too many
whatever comes after them. -/
def isOversized (cs : List Char) : Bool :=
  let (sign, unsigned) := cs.span (· == '-')
  sign.length ≤ 1 && unsigned.head? != some '0' &&
    Decimal.digitLimit < sign.length + (unsigned.takeWhile Decimal.isDigit).length

/-- The integer that plain digits spell, with or without a minus sign and with no zero in front. -/
def intOfDigits (cs : List Char) : Checked Int :=
  let (negative, digits) :=
    match cs with
    | '-' :: rest => (true, rest)
    | rest => (false, rest)
  let padded := digits.head? == some '0' && 1 < digits.length
  if digits.isEmpty || padded || !digits.all Decimal.isDigit || isOversized cs then
    Checked.fail .unreadableInt
  else
    let n : Int := Decimal.ofDigits digits
    .ok (if negative then -n else n)

/-- The integer that a text spells: blanks around it, a sign, zeros in front, a fraction of zeros
and single underscores between digits are allowed. Too many digits are a violation of their own if
the text begins with them. -/
def intOfText (s : String) : Checked Int :=
  let unsigned : Option (List Char) :=
    match Text.trimWhere Text.isSpace s.toList with
    | '+' :: '-' :: _ => none
    | '+' :: rest => some rest
    | rest => some rest
  if Text.hasHalf s then Checked.fail .brokenText
  else if isOversized s.toList then Checked.fail .oversizedInt
  else
    match unsigned.bind dropSignedZeros with
    | none => Checked.fail .unreadableInt
    | some cs => intOfDigits (dropUnderscores (dropFraction cs))

/-- The integer that a binary number is, strictly between the bounds of 64 bits. -/
def intOfReal (x : Binary64) : Checked Int :=
  if !x.isFinite then Checked.fail .notFinite
  else if !x.isWhole then Checked.fail .fractionalInt
  else
    let n := x.truncate
    if -(Nat.pow 2 63 : Int) < n && n < Nat.pow 2 63 then .ok n else Checked.fail .oversizedInt

/-- An integer, or what can be taken for one: a truth value counts as one or zero. -/
def int : Shape Int
  | .int n => .ok n
  | .bool b => .ok (if b then 1 else 0)
  | .real x => intOfReal x
  | .text s => intOfText s
  | _ => Checked.fail .notInt

/-- An integer of zero or more. -/
def count : Shape Nat := fun d =>
  (int d).bind fun n => if 0 ≤ n then .ok n.toNat else Checked.fail .tooSmall

/-! ### Containers -/

/-- A list of values of one shape. -/
def listOf {α : Type} (item : Shape α) : Shape (List α)
  | .list items => Checked.all (items.zipIdx.map fun (d, i) => (item d).under (.index i))
  | _ => Checked.fail .notList

/-- A table of values under any keys; the shape of a value may depend on its key. -/
def mappingOf {α : Type} (value : String → Shape α) : Shape (List (String × α))
  | .table entries =>
      Checked.all (entries.map fun (key, d) =>
        Checked.under (.ofName key) ((value key d).map (key, ·)))
  | .mixed entries =>
      Checked.all (entries.map fun (key, d) =>
        Checked.under (.ofKey key)
          (Checked.both (Checked.under (.key "[key]") (text key)) (value key.plain d)))
  | _ => Checked.fail .notMapping

/-- A table of named fields. What stands under other keys does not matter. -/
def model {α : Type} (fields : Entries → Checked α) : Shape α
  | .table entries => fields entries
  | .mixed entries =>
      fields (entries.filterMap fun (key, d) =>
        match key with
        | .text s => some (s, d)
        | _ => none)
  | _ => Checked.fail .notModel

end Shape

namespace Entries

/-- The value of the field under either of its names, the first of which wins. -/
def spelled? (entries : Entries) (name other : String) : Option (String × Document) :=
  match entries.find? name with
  | some d => some (name, d)
  | none => (entries.find? other).map (other, ·)

/-- A field that may be left out. -/
def optional {α : Type} (entries : Entries) (name other : String) (shape : Shape α) (default : α) :
    Checked α :=
  match entries.spelled? name other with
  | some (key, d) => (shape d).under (.key key)
  | none => .ok default

/-- A field that must be there. -/
def required {α : Type} (entries : Entries) (name other : String) (shape : Shape α) : Checked α :=
  match entries.spelled? name other with
  | some (key, d) => (shape d).under (.key key)
  | none => (Checked.fail .missing).under (.key name)

end Entries

end Tabletop
