import Dialogue.Failure
/-!
# Patterns

A pattern is searched for in texts, and what it finds lies in the text. An engine makes patterns of their
sources; what it takes for a pattern, and which match of one it finds, is its own affair.
-/

namespace Dialogue

/-- A match: its extent in the text, and the texts of the groups, `none` for those that took no part in it. -/
structure Pattern.Found where
  start : Nat
  stop : Nat
  groups : List (Option (List Char))

/-- A compiled pattern. -/
structure Pattern where
  source : String
  /-- The flags it was compiled with and those it turns on for itself. -/
  flags : Pattern.Flags
  /-- The match in a text, if there is one. -/
  search : Array Char → Option Pattern.Found
  /-- A match lies within its text. -/
  within : ∀ {text found}, search text = some found → found.start ≤ found.stop ∧ found.stop ≤ text.size

/-- What makes patterns of their sources, or tells why it cannot. -/
structure Pattern.Engine where
  compile : (source : String) → (flags : Flags) → Except Failure Pattern

end Dialogue
