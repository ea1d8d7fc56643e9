import Dialogue.Decimal.Shortest
import Dialogue.Value
/-!
# Moments and spans

Times are readings of a clock. Nothing here depends on what the readings are: `Moment` says what can
be done with them. A program runs on floating-point seconds; a statement about exact times takes
integers or any other ordered group.
-/

namespace Dialogue

/-- The readings of a clock, and the lengths of time between them. -/
class Moment (T : Type) extends Add T, Sub T, Zero T, LE T, LT T where
  decideLE : DecidableRel (α := T) (· ≤ ·)
  decideLT : DecidableRel (α := T) (· < ·)
  /-- How often a step fits into a length of time, rounded up; zero if the length is not positive. -/
  rounds : T → T → Nat
  /-- A length of time in a record, with three places. -/
  brief : T → String

instance Moment.decidableLE {T : Type} [Moment T] : DecidableRel (α := T) (· ≤ ·) := Moment.decideLE

instance Moment.decidableLT {T : Type} [Moment T] : DecidableRel (α := T) (· < ·) := Moment.decideLT

/-- Seconds as the clock of a program counts them. -/
instance : Moment Float where
  zero := 0
  decideLE := fun x y => inferInstanceAs (Decidable (x ≤ y))
  decideLT := fun x y => inferInstanceAs (Decidable (x < y))
  rounds length step := (length / step).ceil.toUInt64.toNat
  brief := Decimal.fixedText 3

/-- Whole ticks. -/
instance : Moment Int where
  zero := 0
  decideLE := inferInstance
  decideLT := inferInstance
  rounds length step := ((length + step - 1) / step).toNat
  brief := toString

namespace Moment

variable {T : Type} [Moment T]

/-- The later of two moments, the first if neither is. -/
def later (a b : T) : T := if a < b then b else a

/-- The shorter of two lengths, the first if neither is. -/
def shorter (a b : T) : T := if b < a then b else a

end Moment

/-- A length of time together with the way it was given, which messages repeat. -/
structure Span (T : Type) where
  length : T
  written : Value

/-- A number of seconds. -/
def Span.ofNumber (n : Number) : Span Float := ⟨n.toFloat, .number n⟩

end Dialogue
