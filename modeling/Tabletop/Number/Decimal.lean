import Tabletop.Number

/-!
# Decimal text of numbers

Integers print in full up to a limit of digits. A binary number prints with the fewest digits that
read back as the same number, or rounded to a fixed count of digits; how the digits are laid out
(where the point stands, when an exponent is written) is a `Layout`.
-/
namespace Tabletop.Decimal

/-- The most digits that an integer may have to be written or read in decimal. -/
def digitLimit : Nat := 4300

/-- The decimal digits of a natural number. -/
def digits (n : Nat) : List Char := (Nat.repr n).toList

/-- The decimal text of an integer of any size. -/
def text (n : Int) : String :=
  match n with
  | .ofNat m => Nat.repr m
  | .negSucc m => "-" ++ Nat.repr (m + 1)

/-- The decimal text of an integer with its sign, also a positive one. -/
def signedText (n : Int) : String := if 0 ≤ n then "+" ++ text n else text n

/-- The integer has no more digits than may be written. -/
def fits (n : Int) : Bool := n.natAbs < Nat.pow 10 digitLimit

/-- What is said of an integer that has more digits than may be written. -/
def limitMessage : String :=
  "Exceeds the limit (4300 digits) for integer string conversion; " ++
    "use sys.set_int_max_str_digits() to increase the limit"

/-- The decimal text of an integer, unless it has too many digits. -/
def text? (n : Int) : Option String := if fits n then some (text n) else none

/-- The value of a decimal digit. -/
def digitValue (c : Char) : Nat := c.toNat - '0'.toNat

/-- The character is one of the ten ASCII digits. -/
def isDigit (c : Char) : Bool := '0'.toNat ≤ c.toNat && c.toNat ≤ '9'.toNat

/-- The number that a run of decimal digits stands for. -/
def ofDigits (cs : List Char) : Nat := cs.foldl (fun n c => n * 10 + digitValue c) 0

/-! ### Scientific decimals -/

/-- The positive number `digits * 10 ^ exponent`. -/
structure Scientific where
  digits : Nat
  exponent : Int
  deriving DecidableEq, Repr

namespace Scientific

/-- The exact value. -/
def value (d : Scientific) : Rat :=
  if 0 ≤ d.exponent then ((d.digits * Nat.pow 10 d.exponent.toNat : Nat) : Rat)
  else mkRat d.digits (Nat.pow 10 (-d.exponent).toNat)

/-- How many digits are written. -/
def length (d : Scientific) : Nat := (Decimal.digits d.digits).length

/-- The power of ten of the first digit. -/
def leading (d : Scientific) : Int := d.exponent + d.length - 1

/-- Without the zeros at the end of the digits, at most `fuel` of them. -/
def trimWith : Nat → Scientific → Scientific
  | 0, d => d
  | fuel + 1, d =>
      if d.digits % 10 == 0 then trimWith fuel ⟨d.digits / 10, d.exponent + 1⟩ else d

/-- Without the zeros at the end of the digits. -/
def trim (d : Scientific) : Scientific := trimWith (d.length - 1) d

end Scientific

/-- A bound for the exponents of decimals that are told apart: any nonzero number of at most this
many digits and an exponent beyond `±` the bound is past the range of binary numbers. -/
def exponentBound : Nat := 5000

/-- The binary number nearest to `± digits * 10 ^ exponent`. -/
def toBinary64 (negative : Bool) (d : Scientific) : Binary64 :=
  if d.digits == 0 then Binary64.zero negative
  else if d.leading > exponentBound then Binary64.infinite negative
  else if d.leading < -(exponentBound : Int) then Binary64.zero negative
  else if 0 ≤ d.exponent then
    Binary64.ofQuotient negative (d.digits * Nat.pow 10 d.exponent.toNat) 1
  else Binary64.ofQuotient negative d.digits (Nat.pow 10 (-d.exponent).toNat)

/-! ### Choosing the digits -/

/-- The natural number below `q`, for a positive `q`. -/
def floor (q : Rat) : Nat := q.num.natAbs / q.den

/-- Ten to a power of either sign. -/
def tenPow (e : Int) : Rat :=
  if 0 ≤ e then ((Nat.pow 10 e.toNat : Nat) : Rat) else mkRat 1 (Nat.pow 10 (-e).toNat)

/-- The power of ten of the first decimal digit of a positive number. The first guess comes from the
bit lengths and is at most one too small or too large. -/
def leadingPower (q : Rat) : Int :=
  let bits : Int := (q.num.natAbs.log2 : Int) - q.den.log2
  let guess : Int := bits * 30103 / 100000
  if q < tenPow guess then guess - 1
  else if tenPow (guess + 1) ≤ q then guess + 1
  else guess

/-- A positive number rounded to `count` decimal digits, a half to the even digit. -/
def roundTo (count : Nat) (q : Rat) : Scientific :=
  let e := leadingPower q - (count - 1 : Nat)
  let scaled := q / tenPow e
  ⟨Binary64.roundHalfEven scaled.num.natAbs scaled.den, e⟩

/-- The nearest decimal of `count` digits that reads back as the positive number `x`. -/
def candidate (x : Binary64) (count : Nat) : Option Scientific :=
  let q := x.value
  let e := leadingPower q - (count - 1 : Nat)
  let low := floor (q / tenPow e)
  let below : Scientific := ⟨low, e⟩
  let above : Scientific := ⟨low + 1, e⟩
  let readsBack (d : Scientific) := toBinary64 false d == x
  let nearer := roundTo count q
  if readsBack nearer then some nearer
  else if readsBack below then some below
  else if readsBack above then some above
  else none

/-- The shortest decimal that reads back as the positive number `x`, and of those the nearest.
Seventeen digits always read back. -/
def shortest (x : Binary64) : Scientific :=
  ((List.range' 1 17).findSome? (candidate x) |>.getD (roundTo 17 x.value)).trim

/-! ### Layout -/

/-- How the digits of a decimal are laid out. -/
structure Layout where
  /-- The least power of ten of a first digit that is written without an exponent. -/
  lowest : Int
  /-- The least power of ten of a first digit that is written with an exponent again. -/
  highest : Int
  /-- Whether a number without fraction and exponent ends in `.0`. -/
  pointZero : Bool

/-- Numbers as they are written by themselves: with an exponent below one ten-thousandth and from
`10 ^ 16` on, and never without a fraction or an exponent. -/
def plainLayout : Layout := ⟨-4, 16, true⟩

/-- Numbers cut to four digits: always with an exponent. -/
def briefLayout : Layout := ⟨-4, 4, false⟩

/-- An exponent with its sign and at least two digits. -/
def exponentText (e : Int) : String :=
  let ds := digits e.natAbs
  (if e < 0 then "-" else "+") ++ String.ofList (if ds.length < 2 then '0' :: ds else ds)

/-- The text of a positive decimal without zeros at its end. -/
def Layout.write (layout : Layout) (d : Scientific) : String :=
  let ds := digits d.digits
  let lead := d.leading
  if lead < layout.lowest || layout.highest ≤ lead then
    let fraction := ds.drop 1
    String.ofList (ds.take 1) ++ (if fraction.isEmpty then "" else "." ++ String.ofList fraction) ++
      "e" ++ exponentText lead
  else if lead < 0 then
    "0." ++ String.ofList (List.replicate (-lead - 1).toNat '0' ++ ds)
  else if 0 ≤ d.exponent then
    String.ofList (ds ++ List.replicate d.exponent.toNat '0') ++
      (if layout.pointZero then ".0" else "")
  else
    let whole := (lead + 1).toNat
    String.ofList (ds.take whole) ++ "." ++ String.ofList (ds.drop whole)

/-- The text of a binary number whose digits are chosen by `choose`. -/
def writeWith (layout : Layout) (choose : Binary64 → Scientific) : Binary64 → String
  | .nan => "nan"
  | .infinite negative => if negative then "-inf" else "inf"
  | x@(.finite negative ..) =>
      let sign := if negative then "-" else ""
      if x.isZero then sign ++ (if layout.pointZero then "0.0" else "0")
      else sign ++ layout.write (choose x.abs)

/-- The shortest text that reads back as the same number. -/
def realText (x : Binary64) : String := writeWith plainLayout shortest x

/-- The text cut to four digits. -/
def briefText (x : Binary64) : String := writeWith briefLayout (fun y => (roundTo 4 y.value).trim) x

/-- The number rounded to four decimal places, a half to the even digit. -/
def toFourPlaces : Binary64 → Binary64
  | x@(.finite negative ..) =>
      let q := (x.value * 10000)
      let n := Binary64.roundHalfEven q.num.natAbs q.den
      toBinary64 negative ⟨n, -4⟩
  | x => x

end Tabletop.Decimal

namespace Tabletop.Number

/-- The text of a number shown to a player: integers in full, also a binary number without fraction;
other numbers with up to four decimal places below a million and with four digits from there on. An
integer with too many digits shows as infinite. -/
def display : Number → String
  | int n => (Decimal.text? n).getD (Decimal.realText (Binary64.ofInt n))
  | real x =>
      if x.isWhole then Decimal.text x.truncate
      else if x.isFinite && x.abs.value < 1000000 then Decimal.realText (Decimal.toFourPlaces x)
      else Decimal.briefText x

/-- The text of a number in a log: an integer in full, unless it has too many digits, and a binary
number with the fewest digits that read back. -/
def logText? : Number → Option String
  | int n => Decimal.text? n
  | real x => some (Decimal.realText x)

end Tabletop.Number
