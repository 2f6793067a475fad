import Tabletop.Document
import Tabletop.Document.Json.Reader

/-!
# Scalars of YAML

A scalar without quotes is nothing, a truth value, a number or a moment if it is spelled like one,
and a text otherwise. A tag in front of a scalar says what it has to be.
-/
namespace Tabletop.Yaml

/-- Why a text cannot be read. -/
inductive Fault where
  | malformed
  | tooManyDigits (count : Nat)
  /-- A prefix that tells the base of a number, and then only underscores. -/
  | noDigits (base : Nat)
  /-- An escape of a number that is no code point. -/
  | noCharacter (code : Nat)
  /-- A moment that no calendar has. -/
  | noMoment (reason : String)
  deriving DecidableEq, Repr

/-- The number of an escape is too large even for 32 bits with a sign. -/
def Fault.isFar : Fault → Bool
  | noCharacter code => Nat.pow 2 31 ≤ code
  | _ => false

/-- What is said about values that are spelled well and still cannot be read. -/
def Fault.message : Fault → String
  | malformed => ""
  | tooManyDigits count => (Json.Cause.tooManyDigits count).message
  | noDigits base => "invalid literal for int() with base " ++ Decimal.text base ++ ": ''"
  | noCharacter code =>
      if (noCharacter code).isFar then "Python int too large to convert to C int"
      else "chr() arg not in range(0x110000)"
  | noMoment reason => reason

/-! ### Integers -/

/-- A run of digits with underscores that starts with a digit. -/
def isDigits : List Char → Bool
  | c :: rest => Decimal.isDigit c && rest.all fun c => Decimal.isDigit c || c == '_'
  | [] => false

def withoutUnderscores (cs : List Char) : List Char := cs.filter (· != '_')

/-- A sign of its own in front of a number. -/
def hasSign (cs : List Char) : Bool := cs.head? == some '-' || cs.head? == some '+'

/-- Whether there is a minus sign, and what follows the sign. -/
def signed (cs : List Char) : Bool × List Char :=
  if hasSign cs then (cs.head? == some '-', cs.drop 1) else (false, cs)

/-- A digit of the given base, or an underscore. -/
def isInBase (base : Nat) (c : Char) : Bool :=
  c == '_' ||
    match Text.hexValue? c with
    | some v => v < base
    | none => false

/-- The number that digits of the given base spell. -/
def ofBase (base : Nat) (cs : List Char) : Nat :=
  cs.foldl (fun n c => n * base + (Text.hexValue? c).getD 0) 0

/-- The number after a prefix that tells its base. -/
def prefixed? (base : Nat) (cs : List Char) : Option (Except Fault Nat) :=
  if cs.isEmpty || !cs.all (isInBase base) then none
  else
    let digits := withoutUnderscores cs
    some (if digits.isEmpty then .error (.noDigits base) else .ok (ofBase base digits))

/-- A part of a number after a colon: one digit, or two up to `59`. -/
def isSixtieth : List Char → Bool
  | [a] => Decimal.isDigit a
  | [a, b] => Decimal.isDigit a && a.toNat ≤ '5'.toNat && Decimal.isDigit b
  | _ => false

/-- Decimal digits, of which there may be too many. -/
def decimal (cs : List Char) : Except Fault Nat :=
  let digits := withoutUnderscores cs
  if Decimal.digitLimit < digits.length then .error (.tooManyDigits digits.length)
  else .ok (Decimal.ofDigits digits)

/-- The natural number that is spelled in decimal digits or after a prefix for another base. A colon
multiplies what is before it by sixty. -/
def natural? (cs : List Char) : Option (Except Fault Nat) :=
  match cs with
  | ['0'] => some (.ok 0)
  | '0' :: 'b' :: rest => prefixed? 2 rest
  | '0' :: 'x' :: rest => prefixed? 16 rest
  | '0' :: rest =>
      if rest.all (isInBase 8) then some (.ok (ofBase 8 (withoutUnderscores rest))) else none
  | cs =>
      match cs.splitOn ':' with
      | [] => none
      | first :: parts =>
          if isDigits first && parts.all isSixtieth then
            some ((decimal first).map fun n =>
              parts.foldl (fun n part => n * 60 + Decimal.ofDigits part) n)
          else none

/-- The integer that the characters spell. -/
def int? (cs : List Char) : Option (Except Fault Int) :=
  let (negative, unsigned) := signed cs
  (natural? unsigned).map fun found => found.map fun n => if negative then -n else n

/-! ### Numbers with a point -/

/-- The exponent at the end of a number: a letter, a sign and digits. -/
def exponent? : List Char → Option Int
  | [] => some 0
  | e :: sign :: digits =>
      if (e == 'e' || e == 'E') && hasSign [sign] && !digits.isEmpty &&
          digits.all Decimal.isDigit then
        let n : Int := Decimal.ofDigits digits
        some (if sign == '-' then -n else n)
      else none
  | _ => none

/-- The sum of parts each of which counts sixty times as much as the one before it. -/
def ofSixtieths (parts : List Binary64) : Binary64 :=
  let (sum, _) :=
    parts.foldl
      (fun (sum, weight) x => (Binary64.add sum (Binary64.mul x (.ofInt weight)), weight * 60))
      (Binary64.zero false, (1 : Int))
  sum

/-- The number of decimal digits with a point in front of the last of them. -/
def pointed (whole places : List Char) (power : Int) : Binary64 :=
  let places := withoutUnderscores places
  Decimal.toBinary64 false
    ⟨Decimal.ofDigits (withoutUnderscores whole ++ places), power - places.length⟩

/-- The number without a sign that the characters spell around a point. Without digits in front of
the point there has to be one after it. -/
def magnitude? (mayBeginWithPoint : Bool) (cs : List Char) : Option Binary64 :=
  match cs.span (· != '.') with
  | (_, []) => none
  | (whole, _ :: rest) =>
      let (places, rest) := rest.span fun c => Decimal.isDigit c || c == '_'
      match whole.splitOn ':' with
      | [] | [_] =>
          if isDigits whole || (whole.isEmpty && mayBeginWithPoint && isDigits places) then
            (exponent? rest).map (pointed whole places)
          else none
      | first :: parts =>
          if isDigits first && parts.all isSixtieth && rest.isEmpty then
            match (first :: parts).reverse with
            | [] => none
            | last :: more =>
                some (ofSixtieths (pointed last places 0 :: more.map (pointed · [] 0)))
          else none

/-- The number with a point, or the number beyond all others or none at all, that the characters
spell. -/
def real? (cs : List Char) : Option Binary64 :=
  let (negative, unsigned) := signed cs
  let s := String.ofList unsigned
  if [".inf", ".Inf", ".INF"].contains s then some (.infinite negative)
  else if !hasSign cs && [".nan", ".NaN", ".NAN"].contains s then some .nan
  else (magnitude? (!hasSign cs) unsigned).map fun x => if negative then x.neg else x

/-! ### Moments -/

/-- The number of the digits at the front, as many as there are up to a bound. -/
def digitsAtFront? (least most : Nat) (cs : List Char) : Option (Nat × List Char) :=
  let found := (cs.take most).takeWhile Decimal.isDigit
  if found.length < least then none else some (Decimal.ofDigits found, cs.drop found.length)

/-- What follows the given character. -/
def after? (c : Char) (cs : List Char) : Option (List Char) :=
  if cs.head? == some c then some (cs.drop 1) else none

/-- Blanks within a line. -/
def isBlank (c : Char) : Bool := c == ' ' || c == '\t'

/-- What follows the letter or the blanks between a day and a time. -/
def afterDay? (cs : List Char) : Option (List Char) :=
  match cs with
  | c :: rest =>
      if c == 'T' || c == 't' then some rest
      else if isBlank c then some (cs.dropWhile isBlank)
      else none
  | [] => none

/-- How far a place is from Greenwich, in minutes, as it is written after a time, with blanks in
front; nothing may be written instead. -/
def offset? (cs : List Char) : Option (Option Int) :=
  match cs.dropWhile isBlank with
  | [] => if cs.isEmpty then some none else none
  | ['Z'] => some (some 0)
  | sign :: rest => do
      let (hours, rest) ← digitsAtFront? 1 2 rest
      let minutes ←
        match rest with
        | [] => some 0
        | ':' :: minutes =>
            if minutes.length == 2 && minutes.all Decimal.isDigit then
              some (Decimal.ofDigits minutes)
            else none
        | _ => none
      let distance : Int := (60 * hours + minutes : Nat)
      if sign == '-' then some (some (-distance))
      else if sign == '+' then some (some distance)
      else none

/-- The time of a day, with or without a fraction of its seconds, and the distance from Greenwich.
-/
def time? (cs : List Char) : Option (Clock × Option Int) := do
  let (hour, rest) ← digitsAtFront? 1 2 cs
  let (minute, rest) ← digitsAtFront? 2 2 (← after? ':' rest)
  let (second, rest) ← digitsAtFront? 2 2 (← after? ':' rest)
  let (places, rest) :=
    match rest with
    | '.' :: rest => rest.span Decimal.isDigit
    | _ => ([], rest)
  let offset ← offset? rest
  some (.ofParts hour minute second places, offset)

/-- The day or the moment that the characters spell. A day alone has all its zeros. -/
def moment? (cs : List Char) : Option Moment := do
  let (year, rest) ← digitsAtFront? 4 4 cs
  let (month, rest) ← digitsAtFront? 1 2 (← after? '-' rest)
  let (day, rest) ← digitsAtFront? 1 2 (← after? '-' rest)
  if rest.isEmpty then
    if cs.length == 10 then some (.day ⟨year, month, day⟩) else none
  else
    let (clock, offset) ← time? (← afterDay? rest)
    some (.both ⟨year, month, day⟩ clock offset)

/-! ### Values -/

/-- Spellings of nothing. -/
def isNothing (cs : List Char) : Bool :=
  ["", "~", "null", "Null", "NULL"].contains (String.ofList cs)

/-- The truth value that the characters spell. -/
def truth? (cs : List Char) : Option Bool :=
  let s := String.ofList cs
  if ["yes", "Yes", "YES", "true", "True", "TRUE", "on", "On", "ON"].contains s then some true
  else if ["no", "No", "NO", "false", "False", "FALSE", "off", "Off", "OFF"].contains s then
    some false
  else none

/-- The key of a mapping that takes over the entries of others. -/
def isMerge (cs : List Char) : Bool := cs == ['<', '<']

/-- The key that stands for a mapping's own value. -/
def isDefault (cs : List Char) : Bool := cs == ['=']

/-- What a scalar without quotes stands for. -/
def plainValue (cs : List Char) : Except Fault Document :=
  if isNothing cs then .ok .null
  else
    match truth? cs, int? cs, real? cs, moment? cs with
    | some b, _, _, _ => .ok (.bool b)
    | none, some found, _, _ => found.map .int
    | none, none, some x, _ => .ok (.real x)
    | none, none, none, some m =>
        match m.refusal? with
        | some reason => .error (.noMoment reason)
        | none => .ok (.moment m)
    | none, none, none, none =>
        if isMerge cs || isDefault cs then .error .malformed else .ok (.text (String.ofList cs))

/-- What a tag says that a value is. -/
inductive Tag where
  /-- Whatever a scalar without quotes would be. -/
  | unspecific
  | nothing
  | truth
  | int
  | real
  | text
  | list
  | table
  deriving DecidableEq, Repr

/-- The tag of a name. -/
def Tag.ofName? : String → Option Tag
  | "null" => some nothing
  | "bool" => some truth
  | "int" => some int
  | "float" => some real
  | "str" => some text
  | "seq" => some list
  | "map" => some table
  | _ => none

/-- What a scalar stands for under a tag. -/
def taggedValue (tag : Tag) (cs : List Char) : Except Fault Document :=
  match tag with
  | .unspecific => plainValue cs
  | .nothing => .ok .null
  | .text => .ok (.text (String.ofList cs))
  | .truth =>
      match truth? (cs.map Char.toLower) with
      | some b => .ok (.bool b)
      | none => .error .malformed
  | .int =>
      match int? cs with
      | some found => found.map .int
      | none => .error .malformed
  | .real =>
      match real? cs, int? cs with
      | some x, _ => .ok (.real x)
      | none, some found => found.map fun n => .real (.ofInt n)
      | none, none => .error .malformed
  | .list | .table => .error .malformed

end Tabletop.Yaml
