/-!
# Tables of code points

A property of characters is a sorted table of disjoint closed ranges, looked up by bisection.
-/

namespace Dialogue.Text

/-- Closed ranges of code points, ascending and disjoint. -/
abbrev Ranges := Array (Nat × Nat)

/-- Bisects the rows from `low` up to, not including, `high`. -/
def Ranges.containsBetween (t : Ranges) (c low high : Nat) : Bool :=
  if low < high then
    let middle := (low + high) / 2
    match t[middle]? with
    | some (first, last) =>
      if c < first then t.containsBetween c low middle
      else if last < c then t.containsBetween c (middle + 1) high
      else true
    | none => false
  else false
termination_by high - low

/-- Whether some range of the table holds the code point. -/
def Ranges.contains (t : Ranges) (c : Nat) : Bool := t.containsBetween c 0 t.size

end Dialogue.Text
