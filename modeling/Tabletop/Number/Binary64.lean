/-!
# Binary numbers of 64 bits

A finite number is a sign, a mantissa and a power of two. Every operation is exact in the rationals
and then rounded once, to the nearest number that 64 bits can hold; a tie goes to the even mantissa.
Past the largest finite number the result is infinite. Zero keeps a sign.

The numbers are plain data, so that statements about them can be computed and proved.
-/
namespace Tabletop

/-- Sign, mantissa and exponent, where a finite number is worth `± mantissa * 2 ^ exponent`. -/
inductive Binary64 where
  | finite (negative : Bool) (mantissa : Nat) (exponent : Int)
  | infinite (negative : Bool)
  | nan
  deriving DecidableEq, Repr, Inhabited

namespace Binary64

/-- The exponent of the smallest positive number and of all numbers too small for a full mantissa.
-/
def minExponent : Int := -1074

/-- The largest exponent of a finite number with a full mantissa. -/
def maxExponent : Int := 971

/-- Mantissas are below this power of two. -/
def mantissaBound : Nat := Nat.pow 2 53

/-- Full mantissas are not below this power of two. -/
def fullMantissa : Nat := Nat.pow 2 52

/-- The weight of the sign bit. -/
def signWeight : Nat := Nat.pow 2 63

/-- The numbers that 64 bits hold, each in its one form: a full mantissa of 53 bits, or the least
exponent with a shorter one. -/
def Canonical : Binary64 → Prop
  | finite _ m e =>
      m < mantissaBound ∧ minExponent ≤ e ∧ e ≤ maxExponent ∧ (fullMantissa ≤ m ∨ e = minExponent)
  | _ => True

/-- Two to a power of either sign. -/
def twoPow (e : Int) : Rat :=
  if 0 ≤ e then ((Nat.pow 2 e.toNat : Nat) : Rat) else mkRat 1 (Nat.pow 2 (-e).toNat)

/-- The exact value of a finite number, and zero for the others. -/
def value : Binary64 → Rat
  | finite negative m e => (if negative then -1 else 1) * ((m : Nat) : Rat) * twoPow e
  | _ => 0

/-- The sign bit is set. -/
def isNegative : Binary64 → Bool
  | finite negative _ _ => negative
  | infinite negative => negative
  | nan => false

def isFinite : Binary64 → Bool
  | finite .. => true
  | _ => false

/-- Zero of the given sign. -/
def zero (negative : Bool) : Binary64 := finite negative 0 minExponent

/-- Zero of either sign. -/
def isZero : Binary64 → Bool
  | finite _ m _ => m == 0
  | _ => false

/-! ### Rounding -/

/-- The natural number nearest to `num / den`; a half goes to the even neighbour. -/
def roundHalfEven (num den : Nat) : Nat :=
  let q := num / den
  let r := num % den
  if den < 2 * r || (2 * r == den && q % 2 == 1) then q + 1 else q

/-- The exponent of the number nearest to `num / den`, before the range is looked at: the quotient
lies in the binade `2 ^ (e + 52) ≤ num / den < 2 ^ (e + 53)`. -/
def quotientExponent (num den : Nat) : Int :=
  let top : Int := (num.log2 : Int) - (den.log2 : Int)
  let below : Bool :=
    if 0 ≤ top then num < den * Nat.pow 2 top.toNat else num * Nat.pow 2 (-top).toNat < den
  if below then top - 53 else top - 52

/-- The number of the given sign nearest to `num / den`. -/
def ofQuotient (negative : Bool) (num den : Nat) : Binary64 :=
  let e := max minExponent (quotientExponent num den)
  let m :=
    if 0 ≤ e then roundHalfEven num (den * Nat.pow 2 e.toNat)
    else roundHalfEven (num * Nat.pow 2 (-e).toNat) den
  let (m, e) := if m == mantissaBound then (fullMantissa, e + 1) else (m, e)
  if maxExponent < e then infinite negative else finite negative m e

/-- The number nearest to a rational, with the given sign should it round to zero. -/
def ofRat (zeroSign : Bool) (q : Rat) : Binary64 :=
  if q == 0 then zero zeroSign else ofQuotient (q < 0) q.num.natAbs q.den

/-- The number nearest to an integer, infinite if none is large enough. -/
def ofInt (n : Int) : Binary64 :=
  if n == 0 then zero false else ofQuotient (n < 0) n.natAbs 1

/-! ### Arithmetic -/

def neg : Binary64 → Binary64
  | finite negative m e => finite (!negative) m e
  | infinite negative => infinite (!negative)
  | nan => nan

/-- The sum; opposite infinities have none. -/
def add : Binary64 → Binary64 → Binary64
  | nan, _ => nan
  | _, nan => nan
  | infinite s, infinite t => if s == t then infinite s else nan
  | infinite s, finite .. => infinite s
  | finite .., infinite t => infinite t
  | x@(finite s ..), y@(finite t ..) => ofRat (s && t) (x.value + y.value)

def sub (x y : Binary64) : Binary64 := add x (neg y)

/-- The product; zero and an infinity have none. -/
def mul : Binary64 → Binary64 → Binary64
  | nan, _ => nan
  | _, nan => nan
  | infinite s, y => if y.isZero then nan else infinite (s != y.isNegative)
  | x, infinite t => if x.isZero then nan else infinite (x.isNegative != t)
  | x@(finite s ..), y@(finite t ..) => ofRat (s != t) (x.value * y.value)

/-- The quotient; a zero divisor gives an infinity with the sign of the two signs together. -/
def div : Binary64 → Binary64 → Binary64
  | nan, _ => nan
  | _, nan => nan
  | infinite _, infinite _ => nan
  | infinite s, finite t .. => infinite (s != t)
  | finite s .., infinite t => zero (s != t)
  | x@(finite s ..), y@(finite t ..) =>
      if y.isZero then (if x.isZero then nan else infinite (s != t))
      else ofRat (s != t) (x.value / y.value)

/-- The absolute value. -/
def abs (x : Binary64) : Binary64 := if x.isNegative then x.neg else x

/-- Strictly below zero. -/
def isBelowZero : Binary64 → Bool
  | finite negative m _ => negative && m != 0
  | infinite negative => negative
  | nan => false

/-- Zero of either sign or above. -/
def isAtLeastZero : Binary64 → Bool
  | finite negative m _ => !negative || m == 0
  | infinite negative => !negative
  | nan => false

/-- The value without its fraction, rounded towards zero. -/
def truncate (x : Binary64) : Int :=
  let q := x.value
  Int.tdiv q.num q.den

/-- A finite number without a fraction. -/
def isWhole (x : Binary64) : Bool := x.isFinite && x.value.den == 1

/-! ### The 64 bits -/

/-- The number that 64 bits stand for. -/
def ofBits (bits : Nat) : Binary64 :=
  let negative := (bits / signWeight) % 2 == 1
  let biased : Nat := (bits / fullMantissa) % 2048
  let fraction := bits % fullMantissa
  if biased == 2047 then (if fraction == 0 then infinite negative else nan)
  else if biased == 0 then finite negative fraction minExponent
  else finite negative (fraction + fullMantissa) ((biased : Int) - 1075)

/-- The 64 bits of a number in its one form. -/
def toBits : Binary64 → Nat
  | finite negative m e =>
      let sign := if negative then signWeight else 0
      if m < fullMantissa then sign + m
      else sign + (e + 1075).toNat * fullMantissa + (m - fullMantissa)
  | infinite negative => (if negative then signWeight else 0) + 2047 * fullMantissa
  | nan => 2047 * fullMantissa + fullMantissa / 2

end Binary64

end Tabletop
