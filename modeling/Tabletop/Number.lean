import Tabletop.Number.Binary64

/-!
# Numbers of a sheet

Levels, literals and dice are integers of any size, and sums, differences and products of integers
stay exact integers. A quotient is always a binary number. Where an integer meets a binary number it
is first brought to the nearest one; integers too large for that count as infinite.
-/
namespace Tabletop

/-- An exact integer or a binary number. -/
inductive Number where
  | int (n : Int)
  | real (x : Binary64)
  deriving DecidableEq, Repr, Inhabited

namespace Number

/-- The nearest binary number. -/
def toReal : Number → Binary64
  | int n => Binary64.ofInt n
  | real x => x

/-- The number is an integer. -/
def isInt : Number → Bool
  | int _ => true
  | real _ => false

def neg : Number → Number
  | int n => int (-n)
  | real x => real x.neg

def add : Number → Number → Number
  | int m, int n => int (m + n)
  | x, y => real (x.toReal.add y.toReal)

def sub : Number → Number → Number
  | int m, int n => int (m - n)
  | x, y => real (x.toReal.sub y.toReal)

def mul : Number → Number → Number
  | int m, int n => int (m * n)
  | x, y => real (x.toReal.mul y.toReal)

/-- The quotient of two integers, rounded once; infinite where it is too large. -/
def quotient (m n : Int) : Binary64 :=
  if m == 0 then Binary64.zero (n < 0)
  else Binary64.ofQuotient ((m < 0) != (n < 0)) m.natAbs n.natAbs

/-- The quotient. Integers are divided exactly and rounded once; a zero divisor, or a quotient too
large for that, falls back on the quotient of the nearest binary numbers. -/
def div : Number → Number → Number
  | int m, int n =>
      let exact := quotient m n
      if n != 0 && exact.isFinite then real exact
      else real ((Binary64.ofInt m).div (Binary64.ofInt n))
  | x, y => real (x.toReal.div y.toReal)

@[simp] theorem neg_int (n : Int) : (int n).neg = int (-n) := rfl

@[simp] theorem add_int (m n : Int) : (int m).add (int n) = int (m + n) := rfl

@[simp] theorem sub_int (m n : Int) : (int m).sub (int n) = int (m - n) := rfl

@[simp] theorem mul_int (m n : Int) : (int m).mul (int n) = int (m * n) := rfl

/-- Strictly below zero. -/
def isBelowZero : Number → Bool
  | int n => n < 0
  | real x => x.isBelowZero

/-- Zero or above. -/
def isAtLeastZero : Number → Bool
  | int n => 0 ≤ n
  | real x => x.isAtLeastZero

/-- An integer less a number; none if the other number is binary and the integer is too large for a
binary number itself. -/
def intSub? (n : Int) : Number → Option Number
  | int m => some (int (n - m))
  | real y =>
      let x := Binary64.ofInt n
      if x.isFinite then some (real (x.sub y)) else none

end Number

end Tabletop
