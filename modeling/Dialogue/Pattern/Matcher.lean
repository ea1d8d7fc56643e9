import Dialogue.Pattern.Program
/-!
# Matching

A machine that matches a program against a text, one small step at a time. It keeps what is still to
be matched (`stack`) and what else could be tried (`choices`); a step that fails goes back to the
latest choice. The first way to the end wins, so earlier alternatives and greedier rounds are
preferred. `searchFrom` starts the machine at every position in turn.
-/

namespace Dialogue.Pattern

/-- Where groups start and end: at `2 * g` and `2 * g + 1` for the `g`-th group, counted from zero. -/
abbrev Marks := Array (Option Nat)

mutual
/-- What is still to be matched, or to be done on the way. -/
inductive Frame where
  | step (s : Step)
  /-- Ends a group. -/
  | close (group : Nat)
  /-- After `count` rounds of a loop, the last optional one of which started at `last`. For a
  possessive loop `kept` are the choices from before it. -/
  | again (greed : Greed) (min : Nat) (max : Option Nat) (body : Step) (count : Nat)
      (last : Option Nat) (kept : List Choice)
  /-- Drops the choices made since then. -/
  | commit (kept : List Choice)
  /-- Ends a look-around: goes back to where it started. -/
  | goBack (position : Nat) (kept : List Choice)
  /-- Ends a look-around that must not match. -/
  | refuse (kept : List Choice)

/-- A way that has not been tried yet. -/
inductive Choice where
  | resume (stack : List Frame) (position : Nat) (marks : Marks)
  /-- To end a run of single characters at `position`, or earlier down to `low`. -/
  | shrink (stack : List Frame) (low position : Nat) (marks : Marks)
  /-- To take one more single character at `position`, at most `left` more. -/
  | grow (stack : List Frame) (m : Mode) (o : One) (position : Nat) (left : Option Nat) (marks : Marks)
end

structure Machine where
  stack : List Frame
  position : Nat
  marks : Marks
  choices : List Choice

/-- What one step leads to. -/
inductive Turn where
  | next (m : Machine)
  | matched (m : Machine)
  | failed

/-- The character at a position. -/
def charAt? (text : Array Char) (position : Nat) : Option Nat := text[position]?.map Char.toNat

/-- Whether the character at a position exists and passes. -/
def passesAt (text : Array Char) (m : Mode) (o : One) (position : Nat) : Bool :=
  (charAt? text position).any (o.passes m)

/-- The end of the run of passing characters from `position` on, of at most `left` more; `fuel`
bounds the run too. -/
def runEnd (text : Array Char) (m : Mode) (o : One) (position : Nat) (left : Option Nat) :
    Nat → Nat
  | 0 => position
  | fuel + 1 =>
    if left == some 0 || !passesAt text m o position then position
    else runEnd text m o (position + 1) (left.map (· - 1)) fuel

def isWordAt (text : Array Char) (ascii : Bool) (position : Nat) : Bool :=
  (charAt? text position).any (Category.word.contains ascii)

/-- Whether a word starts or ends at a position. -/
def isBoundary (text : Array Char) (ascii : Bool) (position : Nat) : Bool :=
  let before := position != 0 && isWordAt text ascii (position - 1)
  before != isWordAt text ascii position

/-- Whether a position is such a place. An empty text has neither boundaries nor their opposite. -/
def Place.holds (p : Place) (m : Mode) (text : Array Char) (position : Nat) : Bool :=
  let isFeed (i : Nat) := charAt? text i == some 10
  match p with
  | start => position == 0 || (m.multiline && isFeed (position - 1))
  | finish =>
    position == text.size || (isFeed position && (m.multiline || position + 1 == text.size))
  | textStart => position == 0
  | textEnd => position == text.size
  | boundary => text.size != 0 && isBoundary text m.ascii position
  | nonBoundary => text.size != 0 && !isBoundary text m.ascii position

/-- Start and end of a group that has both. -/
def Marks.span? (marks : Marks) (group : Nat) : Option (Nat × Nat) := do
  let first ← (marks[2 * (group - 1)]?).join
  let last ← (marks[2 * (group - 1) + 1]?).join
  if first ≤ last then return (first, last) else none

/-- Whether the stretch from `first` up to `last` occurs again at `position`. -/
def repeatsAt (text : Array Char) (f : Folding) (first last position : Nat) : Bool :=
  (List.range (last - first)).all fun i =>
    match charAt? text (first + i), charAt? text (position + i) with
    | some c, some d => f.repeats c d
    | _, _ => false

namespace Machine

/-- Goes on with the latest choice. -/
def retreat (text : Array Char) : List Choice → Turn
  | [] => .failed
  | .resume stack position marks :: choices => .next { stack, position, marks, choices }
  | .shrink stack low position marks :: choices =>
    let choices := if low < position then .shrink stack low (position - 1) marks :: choices else choices
    .next { stack, position, marks, choices }
  | .grow stack m o position left marks :: choices =>
    if left == some 0 || !passesAt text m o position then retreat text choices
    else
      let position := position + 1
      let choices := .grow stack m o position (left.map (· - 1)) marks :: choices
      .next { stack, position, marks, choices }

/-- A loop over a test of one character, all of whose rounds are found at once. -/
def loopOne (text : Array Char) (greed : Greed) (min : Nat) (max : Option Nat) (mode : Mode)
    (o : One) (m : Machine) : Turn :=
  let limit := if greed = .lazy then some min else max
  let stop := runEnd text mode o m.position limit (text.size - m.position)
  let low := m.position + min
  if stop < low then retreat text m.choices
  else
    let m := { m with position := stop }
    match greed with
    | .possessive => .next m
    | .greedy =>
      if low < stop then
        .next { m with choices := .shrink m.stack low (stop - 1) m.marks :: m.choices }
      else .next m
    | .lazy =>
      let left := max.map (· - min)
      .next { m with choices := .grow m.stack mode o stop left m.marks :: m.choices }

/-- The next round of a loop, or its end. A round that could only repeat an empty one is not
started. -/
def again (greed : Greed) (min : Nat) (max : Option Nat) (body : Step) (count : Nat)
    (last : Option Nat) (kept : List Choice) (m : Machine) : Machine :=
  let m := if greed = .possessive then { m with choices := kept } else m
  let round (last : Option Nat) : List Frame :=
    .step body :: .again greed min max body (count + 1) last kept :: m.stack
  if count < min then { m with stack := round last }
  else if max.all (count < ·) && last != some m.position then
    let entered := round (some m.position)
    match greed with
    | .lazy => { m with choices := .resume entered m.position m.marks :: m.choices }
    | _ => { m with stack := entered, choices := .resume m.stack m.position m.marks :: m.choices }
  else m

/-- Takes one step of a program; the machine's stack is what follows it. -/
def take (text : Array Char) (s : Step) (m : Machine) : Turn :=
  match s with
  | .empty => .next m
  | .one mode o =>
    if passesAt text mode o m.position then .next { m with position := m.position + 1 }
    else retreat text m.choices
  | .place mode p => if p.holds mode text m.position then .next m else retreat text m.choices
  | .cat a b => .next { m with stack := .step a :: .step b :: m.stack }
  | .either a b =>
    .next { m with
      stack := .step a :: m.stack
      choices := .resume (.step b :: m.stack) m.position m.marks :: m.choices }
  | .group g body =>
    .next { m with
      stack := .step body :: .close g :: m.stack
      marks := m.marks.setIfInBounds (2 * (g - 1)) (some m.position) }
  | .atomic body => .next { m with stack := .step body :: .commit m.choices :: m.stack }
  | .loop greed min max (.one mode o) => loopOne text greed min max mode o m
  | .loop greed min max body => .next (m.again greed min max body 0 none m.choices)
  | .reference mode g =>
    match m.marks.span? g with
    | some (first, last) =>
      if repeatsAt text mode.folding first last m.position then
        .next { m with position := m.position + (last - first) }
      else retreat text m.choices
    | none => retreat text m.choices
  | .condition g yes no =>
    let body := if (m.marks.span? g).isSome then yes else no
    .next { m with stack := .step body :: m.stack }
  | .ahead false body =>
    .next { m with stack := .step body :: .goBack m.position m.choices :: m.stack }
  | .ahead true body =>
    .next { m with
      stack := [.step body, .refuse m.choices]
      choices := .resume m.stack m.position m.marks :: m.choices }
  | .behind width false body =>
    if m.position < width then retreat text m.choices
    else
      .next { m with
        stack := .step body :: .goBack m.position m.choices :: m.stack
        position := m.position - width }
  | .behind width true body =>
    if m.position < width then .next m
    else
      .next { m with
        stack := [.step body, .refuse m.choices]
        position := m.position - width
        choices := .resume m.stack m.position m.marks :: m.choices }

/-- One turn: the frame on top of the stack. -/
def turn (text : Array Char) (m : Machine) : Turn :=
  match m.stack with
  | [] => .matched m
  | frame :: stack =>
    let m := { m with stack }
    match frame with
    | .step s => m.take text s
    | .close g => .next { m with marks := m.marks.setIfInBounds (2 * (g - 1) + 1) (some m.position) }
    | .again greed min max body count last kept => .next (m.again greed min max body count last kept)
    | .commit kept => .next { m with choices := kept }
    | .goBack position kept => .next { m with position, choices := kept }
    | .refuse kept => retreat text kept

/-- Runs to the end, for at most `fuel` turns. -/
def run (text : Array Char) : Nat → Machine → Option Machine
  | 0, _ => none
  | fuel + 1, m =>
    match m.turn text with
    | .next m => run text fuel m
    | .matched m => some m
    | .failed => none

/-- The number of turns after which an attempt is given up. A pattern may need exponentially many,
so there is no bound from its size that could be counted down; this one is beyond any real run. -/
def patience : Nat := Nat.pow 2 62

end Machine

/-- Where a match is: its extent in the text, and the marks of its groups. -/
structure Hit where
  start : Nat
  stop : Nat
  marks : Marks

/-- Tries a program at one position. -/
def matchAt (program : Step) (groups : Nat) (text : Array Char) (start : Nat) : Option Hit :=
  let m : Machine :=
    { stack := [.step program], position := start, marks := Array.replicate (2 * groups) none, choices := [] }
  (m.run text Machine.patience).map fun m => ⟨start, m.position, m.marks⟩

/-- The match that starts earliest, at `start` or one of the `fuel` positions behind it. -/
def searchFrom (program : Step) (groups : Nat) (text : Array Char) (start : Nat) :
    Nat → Option Hit
  | 0 => matchAt program groups text start
  | fuel + 1 =>
    match matchAt program groups text start with
    | some hit => some hit
    | none => searchFrom program groups text (start + 1) fuel

end Dialogue.Pattern
