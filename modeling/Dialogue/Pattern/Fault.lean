import Dialogue.Pattern.Syntax
import Dialogue.Text.Quoted
/-!
# Malformed patterns

Why a pattern cannot be read, and where. `Fault.message` is the wording: it names the position, and
for a pattern of several lines also the line and the column.
-/

namespace Dialogue.Pattern

/-- What is wrong with a pattern. -/
inductive Cause where
  | trailingBackslash
  | badEscape (escape : List Char)
  | incompleteEscape (escape : List Char)
  | octalTooLarge (escape : List Char)
  | missing (what : String)
  | unterminatedName (terminator : Char)
  | unknownCharacterName (name : List Char)
  | badGroupName (name : List Char)
  | unknownGroupName (name : List Char)
  | redefinedGroup (name : List Char) (number earlier : Nat)
  | badGroupNumber
  | noSuchGroup (number : Int)
  | openGroup
  | groupOfSameLookBehind
  | unterminatedSet
  | badRange (first last : List Char)
  | nothingToRepeat
  | multipleRepeat
  | minAboveMax
  | unexpectedEnd
  | unknownExtension (text : List Char)
  | unterminatedComment
  | unterminatedGroup
  | tooManyBranches
  | lateGlobalFlags
  | unknownFlag
  | badFlags (why : String)
  | unbalanced
  | lookBehindWidth
  | lookBehindTooWide
  | templateRepeat (greed : Greed)
deriving Repr, DecidableEq

def Cause.text : Cause → String
  | trailingBackslash => "bad escape (end of pattern)"
  | badEscape e => "bad escape " ++ String.ofList e
  | incompleteEscape e => "incomplete escape " ++ String.ofList e
  | octalTooLarge e => "octal escape value " ++ String.ofList e ++ " outside of range 0-0o377"
  | missing what => "missing " ++ what
  | unterminatedName t => "missing " ++ t.toString ++ ", unterminated name"
  | unknownCharacterName n => "undefined character name " ++ Text.quote n
  | badGroupName n => "bad character in group name " ++ Text.quote n
  | unknownGroupName n => "unknown group name " ++ Text.quote n
  | redefinedGroup n g e =>
    "redefinition of group name " ++ Text.quote n ++ " as group " ++ toString g ++ "; was group " ++ toString e
  | badGroupNumber => "bad group number"
  | noSuchGroup n => "invalid group reference " ++ toString n
  | openGroup => "cannot refer to an open group"
  | groupOfSameLookBehind => "cannot refer to group defined in the same lookbehind subpattern"
  | unterminatedSet => "unterminated character set"
  | badRange a b => "bad character range " ++ String.ofList a ++ "-" ++ String.ofList b
  | nothingToRepeat => "nothing to repeat"
  | multipleRepeat => "multiple repeat"
  | minAboveMax => "min repeat greater than max repeat"
  | unexpectedEnd => "unexpected end of pattern"
  | unknownExtension t => "unknown extension ?" ++ String.ofList t
  | unterminatedComment => "missing ), unterminated comment"
  | unterminatedGroup => "missing ), unterminated subpattern"
  | tooManyBranches => "conditional backref with more than two branches"
  | lateGlobalFlags => "global flags not at the start of the expression"
  | unknownFlag => "unknown flag"
  | badFlags why => "bad inline flags: " ++ why
  | unbalanced => "unbalanced parenthesis"
  | lookBehindWidth => "look-behind requires fixed-width pattern"
  | lookBehindTooWide => "looks too much behind"
  | templateRepeat .greedy => "internal: unsupported template operator MAX_REPEAT"
  | templateRepeat .lazy => "internal: unsupported template operator MIN_REPEAT"
  | templateRepeat .possessive => "internal: unsupported template operator POSSESSIVE_REPEAT"

/-- Why a pattern is refused: it is malformed, at a position if one can be told; or a count in it or the
number of a character is too large to be used; or it asks for two character sets at once. -/
inductive Fault where
  | malformed (cause : Cause) (position : Option Nat)
  | countTooLarge
  | characterTooLarge
  | twoCharacterSets
deriving Repr, DecidableEq

/-- The line of a position and the column in it, both counted from one. -/
def lineAndColumn (source : List Char) (position : Nat) : Nat × Nat :=
  let before := source.take position
  (before.count '\n' + 1, (before.reverse.takeWhile (· != '\n')).length + 1)

def Fault.message (source : List Char) : Fault → String
  | malformed cause none => cause.text
  | malformed cause (some position) =>
    let text := cause.text ++ " at position " ++ toString position
    if source.contains '\n' then
      let (line, column) := lineAndColumn source position
      text ++ " (line " ++ toString line ++ ", column " ++ toString column ++ ")"
    else text
  | countTooLarge => "the repetition number is too large"
  -- The name of the runtime in front of it is left out.
  | characterTooLarge => "int too large to convert to C int"
  | twoCharacterSets => "ASCII and UNICODE flags are incompatible"

end Dialogue.Pattern
