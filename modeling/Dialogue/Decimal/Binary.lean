/-!
# The exact value of a floating-point number

A finite double is `m * 2 ^ q` for a natural `m`. Everything that is printed or rounded starts from
these two numbers, in exact arithmetic.
-/

namespace Dialogue.Decimal

/-- A finite non-negative double: `m * 2 ^ q`. -/
structure Binary where
  m : Nat
  q : Int
  /-- The gap to the next value below is half the gap to the next one above. -/
  narrowBelow : Bool

/-- The magnitude that the bits of a finite double stand for. -/
def Binary.ofBits (b : UInt64) : Binary :=
  let e := ((b >>> 52) &&& 0x7FF).toNat
  let f := (b &&& 0xFFFFFFFFFFFFF).toNat
  if e == 0 then ⟨f, -1074, false⟩ else ⟨Nat.pow 2 52 + f, (e : Int) - 1075, f == 0 && e > 1⟩

def Binary.ofFloat (x : Float) : Binary := .ofBits x.toBits

/-- The sign bit, which a negative zero has too. -/
def hasMinus (x : Float) : Bool := x.toBits >>> 63 == 1

/-- Numerator and denominator of `m * 2 ^ q * 10 ^ -g`. -/
def Binary.over (x : Binary) (g : Int) : Nat × Nat :=
  (x.m * Nat.pow 2 x.q.toNat * Nat.pow 10 (-g).toNat, Nat.pow 2 (-x.q).toNat * Nat.pow 10 g.toNat)

/-- The quotient rounded to the nearest natural number, a tie to the even one. -/
def roundDiv (num den : Nat) : Nat :=
  let d := num / den
  match compare (2 * (num % den)) den with
  | .lt => d
  | .gt => d + 1
  | .eq => if d % 2 == 0 then d else d + 1

/-- The nearest integer to a finite double, a tie to the even one; zero for the others. -/
def nearest (x : Float) : Int :=
  if !x.isFinite then 0
  else
    let (num, den) := (Binary.ofFloat x).over 0
    let n : Int := roundDiv num den
    if hasMinus x then -n else n

/-- The exact comparison of an integer with a finite double. -/
def compareInt (n : Int) (x : Float) : Ordering :=
  let (num, den) := (Binary.ofFloat x).over 0
  compare (n * den) (if hasMinus x then -(num : Int) else num)

end Dialogue.Decimal
