import Dialogue.Pattern
import Dialogue.Pattern.Extent
/-!
# The backtracking engine

The engine reads a pattern, works its flags into its parts and tries what that leaves at every position of
a text in turn. The match that starts earliest is found; if there is none at any position, nothing is.
-/

namespace Dialogue.Pattern

/-- A match with the texts of so many groups. -/
def Hit.found (h : Hit) (groups : Nat) (text : Array Char) : Found where
  start := h.start
  stop := h.stop
  groups := (List.range groups).map fun i =>
    (h.marks.span? (i + 1)).map fun (first, last) => (text.extract first last).toList

/-- The pattern that a program with so many groups matches. -/
def ofProgram (source : String) (flags : Flags) (groups : Nat) (program : Step) : Pattern where
  source
  flags
  search text := (searchFrom program groups text 0 text.size).map (·.found groups text)
  within h := by
    obtain ⟨hit, hsearch, rfl⟩ := Option.map_eq_some_iff.1 h
    exact (searchFrom_within (Nat.le_of_eq (Nat.zero_add _)) hsearch).2

/-- Makes a pattern of its source, or tells what is wrong with it. -/
def read (naming : Naming) (source : String) (flags : Flags) : Except Fault Pattern := do
  let parsed ← parse naming source.toList flags
  let widths (g : Nat) : Width := parsed.widths.getD g (0, 0)
  let program ← parsed.node.resolve widths parsed.flags
  return ofProgram source parsed.flags (parsed.widths.length - 1) program

/-- The engine, for a table of the characters that a pattern may name. -/
def Engine.backtracking (naming : Naming) : Engine where
  compile source flags := (read naming source flags).mapError (.badPattern source)

end Dialogue.Pattern
