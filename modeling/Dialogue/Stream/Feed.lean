/-!
# Feeds

A stream of bytes with two sides: what is fed on one side is read on the other, in the same order. A
reader waits while nothing is pending, until the stream is ended. Ending or closing a feed loses
nothing: what is pending can still be read.
-/

namespace Dialogue

structure Feed where
  pending : List UInt8 := []
  /-- Nothing will follow, as far as a reader can tell. -/
  ended : Bool := false
  closed : Bool := false
deriving Repr, DecidableEq

namespace Feed

/-- Puts bytes behind the pending ones. -/
def feed (f : Feed) (bytes : List UInt8) : Feed := { f with pending := f.pending ++ bytes }

def finish (f : Feed) : Feed := { f with ended := true }

def close (f : Feed) : Feed := { f with ended := true, closed := true }

/-- Whether a read answers at once. -/
def readable (f : Feed) : Bool := !f.pending.isEmpty || f.ended

/-- Takes the first pending bytes, at most `most` of them, or all. -/
def take (f : Feed) (most : Option Nat) : List UInt8 × Feed :=
  match most with
  | some n => (f.pending.take n, { f with pending := f.pending.drop n })
  | none => (f.pending, { f with pending := [] })

/-- A read leaves the rest, in order. -/
theorem take_append (f : Feed) (most : Option Nat) :
    (f.take most).1 ++ (f.take most).2.pending = f.pending := by
  cases most <;> simp [take]

end Feed

end Dialogue
