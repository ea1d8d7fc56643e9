import Dialogue.Decimal.Shortest
/-!
# Numbers

A number is given either as an integer or as a floating-point number, and messages show it the way
it was given: `1` and `1.0` are equal and differ in their text.
-/

namespace Dialogue

inductive Number where
  | whole (n : Int)
  | real (x : Float)

namespace Number

def text : Number → String
  | whole n => toString n
  | real x => Decimal.floatText x

/-- The nearest floating-point number. -/
def toFloat : Number → Float
  | whole n =>
    let x := Float.ofScientific n.natAbs false 0
    if n < 0 then -x else x
  | real x => x

def isNegative : Number → Bool
  | whole n => n < 0
  | real x => x < 0

/-- The natural number below; zero for a negative number. -/
def floor : Number → Nat
  | whole n => n.toNat
  | real x => x.toUInt64.toNat

/-- Greater than zero. A value that is no number is not. -/
def isPositive : Number → Bool
  | whole n => 0 < n
  | real x => 0 < x

/-- At most zero. A value that is no number is not. -/
def isAtMostZero : Number → Bool
  | whole n => n ≤ 0
  | real x => x ≤ 0

/-- Equality as numbers, whichever way they are given. -/
def same : Number → Number → Bool
  | whole m, whole n => m == n
  | real x, real y => x == y
  | whole n, real x => x.isFinite && Decimal.compareInt n x == .eq
  | real x, whole n => x.isFinite && Decimal.compareInt n x == .eq

end Number

end Dialogue
