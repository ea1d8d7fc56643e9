import Dialogue.Pattern.Reader
import Dialogue.Text.Case
import Dialogue.Text.Word
import Dialogue.Text.Space
/-!
# Pattern programs

A pattern whose flags have been worked into its parts: every character test knows how it treats
cases and which character set it means, every place knows whether lines count, and a look-behind
knows how far it goes back.
-/

namespace Dialogue.Pattern

/-- How two characters are compared. -/
inductive Folding where
  | exact
  | asciiCase
  | anyCase
deriving Repr, DecidableEq

/-- The flags that matter for a part of a pattern. -/
structure Mode where
  folding : Folding
  ascii : Bool
  multiline : Bool
  dotAll : Bool
deriving Repr, DecidableEq

def Flags.mode (f : Flags) : Mode where
  folding := if !f.ignoreCase then .exact else if f.ascii then .asciiCase else .anyCase
  ascii := f.ascii
  multiline := f.multiline
  dotAll := f.dotAll

/-- Whether a character of the text, second, passes for one of the pattern, first. -/
def Folding.equal (f : Folding) (c d : Nat) : Bool :=
  match f with
  | .exact => c == d
  | .asciiCase => Text.lowerAscii c == Text.lowerAscii d
  | .anyCase => Text.isAlike c d

/-- Whether two stretches of the text repeat each other, character by character. -/
def Folding.repeats (f : Folding) (c d : Nat) : Bool :=
  match f with
  | .exact => c == d
  | .asciiCase => Text.lowerAscii c == Text.lowerAscii d
  | .anyCase => Text.lower c == Text.lower d

/-- Whether a character passes for one between two others. -/
def Folding.between (f : Folding) (first last d : Nat) : Bool :=
  let within (c : Nat) := first ≤ c && c ≤ last
  match f with
  | .exact => within d
  | .asciiCase =>
    let l := Text.lowerAscii d
    within l || (97 ≤ l && l ≤ 122 && within (l - 32))
  | .anyCase => (Text.variants d).any within

def Category.contains (k : Category) (ascii : Bool) (c : Nat) : Bool :=
  match k, ascii with
  | .digit, true => 48 ≤ c && c ≤ 57
  | .digit, false => Text.isDigit c
  | .space, true => Text.isSpaceAscii c
  | .space, false => Text.isSpace c
  | .word, true => Text.isWordAscii c
  | .word, false => Text.isWord c

def SetItem.contains (m : Mode) (c : Nat) : SetItem → Bool
  | char d => m.folding.equal d c
  | range first last => m.folding.between first last c
  | category k negated => k.contains m.ascii c != negated

/-- Whether a character passes a test of one character. -/
def One.passes (m : Mode) (o : One) (c : Nat) : Bool :=
  match o with
  | any => m.dotAll || c != 10
  | set negated items => items.any (·.contains m c) != negated

inductive Step where
  | empty
  | one (m : Mode) (o : One)
  | place (m : Mode) (p : Place)
  | cat (first second : Step)
  | either (first second : Step)
  | group (number : Nat) (body : Step)
  | atomic (body : Step)
  | loop (greed : Greed) (min : Nat) (max : Option Nat) (body : Step)
  | reference (m : Mode) (group : Nat)
  | condition (group : Nat) (yes no : Step)
  | ahead (negated : Bool) (body : Step)
  | behind (width : Nat) (negated : Bool) (body : Step)

/-- A step per node. The first look-behind without a fixed width is a fault, and so is a repetition
in a template. -/
def Node.resolve (groups : Nat → Width) (f : Flags) : Node → Except Fault Step
  | empty => return .empty
  | one o => return .one f.mode o
  | place p => return .place f.mode p
  | cat a b => return .cat (← a.resolve groups f) (← b.resolve groups f)
  | either a b => return .either (← a.resolve groups f) (← b.resolve groups f)
  | group none add remove body => body.resolve groups (f.inGroup add remove)
  | group (some g) add remove body => return .group g (← body.resolve groups (f.inGroup add remove))
  | atomic body => return .atomic (← body.resolve groups f)
  | loop greed min max body => do
    if f.template then throw (.malformed (.templateRepeat greed) none)
    return .loop greed min max (← body.resolve groups f)
  | reference g => return .reference f.mode g
  | condition g yes no => return .condition g (← yes.resolve groups f) (← no.resolve groups f)
  | ahead negated body => return .ahead negated (← body.resolve groups f)
  | behind negated body => do
    let (low, high) := body.width groups
    if Nat.pow 2 32 ≤ low then throw (.malformed .lookBehindTooWide none)
    if low != high then throw (.malformed .lookBehindWidth none)
    return .behind low negated (← body.resolve groups f)

end Dialogue.Pattern
