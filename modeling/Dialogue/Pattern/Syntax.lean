import Dialogue.Pattern.Flags
/-!
# The syntax of patterns

A pattern as the reader leaves it: single characters, places, groups, repetitions, references and
conditions. `Node.width` bounds how much text a pattern can match; a look-behind needs the two
bounds to agree.
-/

namespace Dialogue.Pattern

/-- A class of characters with a letter of its own. -/
inductive Category where
  | digit
  | space
  | word
deriving Repr, DecidableEq

/-- What stands between the brackets of a set. -/
inductive SetItem where
  | char (c : Nat)
  | range (first last : Nat)
  | category (k : Category) (negated : Bool)
deriving Repr, DecidableEq

/-- What matches one character. -/
inductive One where
  | any
  | set (negated : Bool) (items : List SetItem)
deriving Repr, DecidableEq

/-- A place between characters. -/
inductive Place where
  /-- The start of the text, or of a line. -/
  | start
  /-- The end of the text or before a final line feed, or the end of a line. -/
  | finish
  | textStart
  | textEnd
  | boundary
  | nonBoundary
deriving Repr, DecidableEq

/-- How a repetition chooses the number of its rounds. -/
inductive Greed where
  /-- As many as possible, fewer if the rest needs it. -/
  | greedy
  /-- As few as possible, more if the rest needs it. -/
  | lazy
  /-- As many as possible, and no fewer. -/
  | possessive
deriving Repr, DecidableEq

inductive Node where
  | empty
  | one (o : One)
  | place (p : Place)
  | cat (first second : Node)
  | either (first second : Node)
  /-- A group with a number captures; any group may change the flags for its extent. -/
  | group (number : Option Nat) (add remove : Flags) (body : Node)
  | atomic (body : Node)
  | loop (greed : Greed) (min : Nat) (max : Option Nat) (body : Node)
  | reference (group : Nat)
  | condition (group : Nat) (yes no : Node)
  | ahead (negated : Bool) (body : Node)
  | behind (negated : Bool) (body : Node)
deriving Repr, DecidableEq

namespace Node

def char (c : Nat) : Node := one (.set false [.char c])

def ofList : List Node → Node
  | [] => empty
  | [n] => n
  | n :: ns => cat n (ofList ns)

def ofBranches : List Node → Node
  | [] => empty
  | [n] => n
  | n :: ns => either n (ofBranches ns)

end Node

/-- The least and the greatest length of a match; both are cut off at `maxWidth`. -/
abbrev Width := Nat × Nat

def maxWidth : Nat := Nat.pow 2 64

/-- The width of a node, given those of the groups that are closed. -/
def Node.width (groups : Nat → Width) : Node → Width
  | empty | place _ | ahead _ _ | behind _ _ => (0, 0)
  | one _ => (1, 1)
  | cat a b => cut (add (a.width groups) (b.width groups))
  | either a b => join (a.width groups) (b.width groups)
  | group _ _ _ body | atomic body => body.width groups
  | loop _ min max body =>
    let (low, high) := body.width groups
    cut (low * min, match max with
      | some max => high * max
      | none => if high == 0 then 0 else maxWidth)
  | reference g => groups g
  | condition _ yes no => join (yes.width groups) (no.width groups)
where
  cut (w : Width) : Width := (min w.1 maxWidth, min w.2 maxWidth)
  add (v w : Width) : Width := (v.1 + w.1, v.2 + w.2)
  join (v w : Width) : Width := (min v.1 w.1, max v.2 w.2)

end Dialogue.Pattern
