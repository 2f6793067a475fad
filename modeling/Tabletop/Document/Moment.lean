import Tabletop.Number.Decimal

/-!
# Moments

Days of the calendar and times of day, alone or together, as configuration and content write them.
A day together with a time may say how far its place is from Greenwich.
-/
namespace Tabletop

/-- A day of the calendar, or what is spelled like one. -/
structure Day where
  year : Nat
  month : Nat
  day : Nat
  deriving DecidableEq, Repr

/-- A time of day, or what is spelled like one. -/
structure Clock where
  hour : Nat
  minute : Nat
  second : Nat
  /-- Millionths of a second. -/
  micro : Nat
  deriving DecidableEq, Repr

/-- A day, a time, or both. -/
inductive Moment where
  | day (d : Day)
  | clock (t : Clock)
  /-- Both, with the distance from Greenwich in minutes if it is known. -/
  | both (d : Day) (t : Clock) (offset : Option Int)
  deriving DecidableEq, Repr

/-- A number with zeros in front up to the given width. -/
def padded (width n : Nat) : String :=
  let digits := Decimal.digits n
  String.ofList (List.replicate (width - digits.length) '0' ++ digits)

namespace Day

/-- How many days a month has. -/
def monthLength (year month : Nat) : Nat :=
  if month == 2 then
    if year % 4 == 0 && (year % 100 != 0 || year % 400 == 0) then 29 else 28
  else if [4, 6, 9, 11].contains month then 30
  else 31

/-- Why no calendar has the day. -/
def refusal? (d : Day) : Option String :=
  if d.year == 0 then some "year 0 is out of range"
  else if d.month == 0 || 12 < d.month then some "month must be in 1..12"
  else if d.day == 0 || monthLength d.year d.month < d.day then
    some "day is out of range for month"
  else none

/-- The day with its parts from the largest to the smallest. -/
def text (d : Day) : String := padded 4 d.year ++ "-" ++ padded 2 d.month ++ "-" ++ padded 2 d.day

end Day

namespace Clock

/-- Why no day has the time. -/
def refusal? (t : Clock) : Option String :=
  if 23 < t.hour then some "hour must be in 0..23"
  else if 59 < t.minute then some "minute must be in 0..59"
  else if 59 < t.second then some "second must be in 0..59"
  else none

theorem refusal?_eq_none_iff {t : Clock} :
    t.refusal? = none ↔ t.hour ≤ 23 ∧ t.minute ≤ 59 ∧ t.second ≤ 59 := by
  unfold refusal?
  split
  · simp; omega
  · split
    · simp; omega
    · split
      · simp; omega
      · simp; omega

/-- The time with its parts from the largest to the smallest, millionths only if there are any. -/
def text (t : Clock) : String :=
  padded 2 t.hour ++ ":" ++ padded 2 t.minute ++ ":" ++ padded 2 t.second ++
    if t.micro == 0 then "" else "." ++ padded 6 t.micro

/-- The parts that have to be named: those after the minute only if they or later ones are not zero.
-/
def parts (t : Clock) : List Nat :=
  [t.hour, t.minute] ++
    if t.micro != 0 then [t.second, t.micro] else if t.second != 0 then [t.second] else []

/-- The time whose fraction of a second is in the given digits. -/
def ofParts (hour minute second : Nat) (places : List Char) : Clock :=
  let places := places.take 6
  ⟨hour, minute, second, Decimal.ofDigits (places ++ List.replicate (6 - places.length) '0')⟩

end Clock

namespace Moment

/-- A span of minutes as it is shown: whole days, and what is beyond them in seconds. -/
def spanLiteral (minutes : Int) : String :=
  let days := minutes / 1440
  let seconds := minutes % 1440 * 60
  let parts :=
    (if days == 0 then [] else ["days=" ++ Decimal.text days]) ++
      if seconds == 0 then [] else ["seconds=" ++ Decimal.text seconds]
  "datetime.timedelta(" ++ (if parts.isEmpty then "0" else String.intercalate ", " parts) ++ ")"

/-- A distance from Greenwich as it is shown. -/
def offsetLiteral (minutes : Int) : String :=
  if minutes == 0 then "datetime.timezone.utc"
  else "datetime.timezone(" ++ spanLiteral minutes ++ ")"

/-- Numbers with commas between them. -/
def numbers (parts : List Nat) : String :=
  String.intercalate ", " (parts.map fun n => Decimal.text (n : Nat))

/-- The moment as it is shown in a message. -/
def literal : Moment → String
  | day d => "datetime.date(" ++ numbers [d.year, d.month, d.day] ++ ")"
  | clock t => "datetime.time(" ++ numbers t.parts ++ ")"
  | both d t offset =>
      "datetime.datetime(" ++ numbers ([d.year, d.month, d.day] ++ t.parts) ++
        (match offset with
          | some minutes => ", tzinfo=" ++ offsetLiteral minutes
          | none => "") ++ ")"

/-- The moment by itself. -/
def text : Moment → String
  | day d => d.text
  | clock t => t.text
  | both d t offset =>
      d.text ++ " " ++ t.text ++
        match offset with
        | some minutes =>
            (if minutes < 0 then "-" else "+") ++ padded 2 (minutes.natAbs / 60) ++ ":" ++
              padded 2 (minutes.natAbs % 60)
        | none => ""

/-- Why there is no such moment. -/
def refusal? : Moment → Option String
  | day d => d.refusal?
  | clock t => t.refusal?
  | both d t offset =>
      if offset.any fun minutes => 1440 ≤ minutes.natAbs then
        some ("offset must be a timedelta strictly between -timedelta(hours=24) and " ++
          "timedelta(hours=24), not " ++ spanLiteral (offset.getD 0))
      else d.refusal?.orElse fun _ => t.refusal?

end Moment

end Tabletop
