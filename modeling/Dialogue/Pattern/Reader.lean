import Dialogue.Pattern.Syntax
import Dialogue.Pattern.Fault
import Dialogue.Text.Identifier
import Dialogue.Text.Letter
import Dialogue.Decimal.Numeral
/-!
# Reading patterns

From the source of a pattern to its syntax, or to the first fault in it. The reader looks one token
ahead; a token is a character, or a backslash with the character behind it. Which fault is reported,
and at which position, follows from the order in which tokens are taken.
-/

namespace Dialogue.Pattern

inductive Token where
  | plain (c : Char)
  | escaped (c : Char)
deriving Repr, DecidableEq

namespace Token

def text : Token → List Char
  | plain c => [c]
  | escaped c => ['\\', c]

/-- The character of a token without a backslash. -/
def plain? : Token → Option Char
  | plain c => some c
  | escaped _ => none

end Token

/-- The characters by their names. -/
abbrev Naming := List Char → Option Char

/-- Where the reader stands, and what it knows about the groups. -/
structure Reading where
  naming : Naming
  /-- The token ahead, `none` at the end. -/
  next : Option Token
  /-- What follows the token ahead. -/
  rest : List Char
  /-- The position of `rest`. -/
  index : Nat
  flags : Flags
  /-- The numbers of the named groups. -/
  names : List (List Char × Nat)
  /-- The widths of the groups in order of their numbers, `none` while a group is open. -/
  widths : List (Option Width)
  /-- Inside a look-behind, the number of groups that were opened before it. -/
  outside : Option Nat
  /-- The groups that conditions name by number, with the position of each first mention. -/
  tested : List (Nat × Nat)

abbrev Reader := StateT Reading (Except Fault)

namespace Reader

/-! ## Tokens -/

/-- The position of the token ahead. -/
def position : Reader Nat := do
  let r ← get
  return r.index - (r.next.elim 0 (·.text.length))

/-- Refuses the pattern, at a position. -/
def failAt {α : Type} (position : Nat) (cause : Cause) : Reader α :=
  throw (.malformed cause (some position))

/-- Refuses the pattern, `back` characters before the token ahead. -/
def fail {α : Type} (cause : Cause) (back : Nat := 0) : Reader α := do
  failAt ((← position) - back) cause

/-- Looks at the token that starts at `index`. -/
def look (chars : List Char) (index : Nat) : Except Fault (Option Token × List Char × Nat) :=
  match chars with
  | [] => .ok (none, [], index)
  | ['\\'] => .error (.malformed .trailingBackslash (some index))
  | '\\' :: c :: rest => .ok (some (.escaped c), rest, index + 2)
  | c :: rest => .ok (some (.plain c), rest, index + 1)

/-- Goes on to the token at `index`. -/
def moveTo (chars : List Char) (index : Nat) : Reader Unit := do
  let (next, rest, index) ← look chars index
  modify fun r => { r with next, rest, index }

/-- Takes the token ahead. -/
def take : Reader (Option Token) := do
  let r ← get
  moveTo r.rest r.index
  return r.next

/-- Takes the token ahead if it is this character. -/
def accept (c : Char) : Reader Bool := do
  if (← get).next == some (.plain c) then
    let _ ← take
    return true
  else return false

/-- The token ahead as a plain character of a class. -/
def nextIn? (class? : Char → Bool) : Reader (Option Char) := do
  return (← get).next.bind fun t => t.plain?.filter class?

/-- Takes up to `n` plain characters of a class. -/
def takeUpTo (class? : Char → Bool) : Nat → Reader (List Char)
  | 0 => return []
  | n + 1 => do
    match ← nextIn? class? with
    | none => return []
    | some c =>
      let _ ← take
      return c :: (← takeUpTo class? n)

/-- More than the number of tokens that are left. -/
def left : Reader Nat := do return (← get).rest.length + 2

/-- Takes everything up to a terminator, and the terminator; `what` names the thing in faults. -/
def takeUntil (terminator : Char) (what : String) : Reader (List Char) := do
  go terminator what [] (← left)
where
  go (terminator : Char) (what : String) (done : List Char) : Nat → Reader (List Char)
    | 0 => fail (.missing what)
    | n + 1 => do
      match ← take with
      | none =>
        if done.isEmpty then fail (.missing what) else fail (.unterminatedName terminator) done.length
      | some t =>
        if t == .plain terminator then
          if done.isEmpty then fail (.missing what) 1 else return done
        else go terminator what (done ++ t.text) n

/-! ## Groups -/

def groupCount : Reader Nat := do return (← get).widths.length

def isClosed (g : Nat) : Reader Bool := do
  return ((← get).widths[g]?).join.isSome

/-- Inside a look-behind, only groups that were closed before it can be referred to. -/
def checkLookBehind (g : Nat) : Reader Unit := do
  if let some outside := (← get).outside then
    if !(← isClosed g) then fail .openGroup
    if outside ≤ g then fail .groupOfSameLookBehind

/-- Opens the next group; a second group of one name is refused. -/
def openGroup (name : Option (List Char)) : Reader Nat := do
  let r ← get
  let g := r.widths.length
  if let some name := name then
    if let some earlier := r.names.lookup name then
      fail (.redefinedGroup name g earlier) (name.length + 1)
    modify fun r => { r with names := (name, g) :: r.names }
  modify fun r => { r with widths := r.widths ++ [none] }
  return g

def widthOf (widths : List (Option Width)) (g : Nat) : Width := (widths[g]?).join.getD (0, 0)

def closeGroup (g : Nat) (body : Node) : Reader Unit :=
  modify fun r => { r with widths := r.widths.set g (some (body.width (widthOf r.widths))) }

def checkName (name : List Char) : Reader Unit := do
  if !Text.isIdentifier name then fail (.badGroupName name) (name.length + 1)

/-! ## Escapes -/

def isOctal (c : Char) : Bool := '0' ≤ c && c ≤ '7'

def isHex (c : Char) : Bool := c.isDigit || ('a' ≤ c && c ≤ 'f') || ('A' ≤ c && c ≤ 'F')

def hexValue (cs : List Char) : Nat :=
  cs.foldl (fun n c => 16 * n + (if c.isDigit then c.toNat - 48 else c.toLower.toNat - 87)) 0

def octalValue (cs : List Char) : Nat := cs.foldl (fun n c => 8 * n + (c.toNat - 48)) 0

/-- The controls that have letters of their own. -/
def control? : Char → Option Nat
  | 'a' => some 7
  | 'b' => some 8
  | 'f' => some 12
  | 'n' => some 10
  | 'r' => some 13
  | 't' => some 9
  | 'v' => some 11
  | '\\' => some 92
  | _ => none

/-- The character classes, upper case for the complement. -/
def category? : Char → Option SetItem
  | 'd' => some (.category .digit false)
  | 'D' => some (.category .digit true)
  | 's' => some (.category .space false)
  | 'S' => some (.category .space true)
  | 'w' => some (.category .word false)
  | 'W' => some (.category .word true)
  | _ => none

def place? : Char → Option Place
  | 'A' => some .textStart
  | 'Z' => some .textEnd
  | 'b' => some .boundary
  | 'B' => some .nonBoundary
  | _ => none

/-- A code point of exactly so many hexadecimal digits. -/
def hexEscape (letter : Char) (digits : Nat) : Reader Nat := do
  let cs ← takeUpTo isHex digits
  let escape := '\\' :: letter :: cs
  if cs.length != digits then fail (.incompleteEscape escape) escape.length
  if 0x80000000 ≤ hexValue cs then throw .characterTooLarge
  if 0x110000 ≤ hexValue cs then fail (.badEscape escape) escape.length
  return hexValue cs

/-- A character by its name. -/
def namedEscape : Reader Nat := do
  if !(← accept '{') then fail (.missing "\x7b")
  let name ← takeUntil '}' "character name"
  match (← get).naming name with
  | some c => return c.toNat
  | none => fail (.unknownCharacterName name) (name.length + 4)

/-- An escape that means the same inside a set and outside, after the classes and controls. -/
def commonEscape (c : Char) : Reader Nat := do
  if c == 'x' then hexEscape c 2
  else if c == 'u' then hexEscape c 4
  else if c == 'U' then hexEscape c 8
  else if c == 'N' then namedEscape
  else if c.isAlphanum then fail (.badEscape ['\\', c]) 2
  else return c.toNat

/-- An octal escape whose digits are all known. -/
def octalEscape (digits : List Char) : Reader Nat := do
  let escape := '\\' :: digits
  if 0o377 < octalValue digits then fail (.octalTooLarge escape) escape.length
  return octalValue digits

/-- An escape inside a set. -/
def setEscape (c : Char) : Reader SetItem := do
  if let some n := control? c then return .char n
  if let some item := category? c then return item
  if isOctal c then return .char (← octalEscape (c :: (← takeUpTo isOctal 2)))
  return .char (← commonEscape c)

/-- A reference to a group by its number; `length` is that of the escape. -/
def reference (g length : Nat) : Reader Node := do
  if g < (← groupCount) then
    if !(← isClosed g) then fail .openGroup length
    checkLookBehind g
    return .reference g
  else fail (.noSuchGroup g) (length - 1)

/-- An escape that starts with a digit other than zero: three octal digits are a character, else it
is a reference of one or two digits. -/
def numberEscape (c : Char) : Reader Node := do
  match ← nextIn? Char.isDigit with
  | none => reference (Decimal.digitsValue [c]) 2
  | some d =>
    let _ ← take
    match ← nextIn? fun e => isOctal c && isOctal d && isOctal e with
    | none => reference (Decimal.digitsValue [c, d]) 3
    | some e =>
      let _ ← take
      return .char (← octalEscape [c, d, e])

/-- An escape outside a set. -/
def escape (c : Char) : Reader Node := do
  if let some p := place? c then return .place p
  if let some item := category? c then return .one (.set false [item])
  if let some n := control? c then return .char n
  if c == '0' then return .char (octalValue (c :: (← takeUpTo isOctal 2)))
  if c.isDigit then numberEscape c
  else return .char (← commonEscape c)

/-! ## Sets -/

/-- One end of a range, or a single item. -/
def setItem : Token → Reader SetItem
  | .plain c => return .char c.toNat
  | .escaped c => setEscape c

/-- The items of a set up to its closing bracket, which counts as an item if it comes first;
`start` is the position of the opening one. -/
def setItems (start : Nat) (done : List SetItem) : Nat → Reader (List SetItem)
  | 0 => failAt start .unterminatedSet
  | n + 1 => do
    let some this ← take | failAt start .unterminatedSet
    if this == .plain ']' && !done.isEmpty then return done
    let first ← setItem this
    if !(← accept '-') then setItems start (done ++ [first]) n
    else
      let some that ← take | failAt start .unterminatedSet
      if that == .plain ']' then return done ++ [first, .char '-'.toNat]
      let last ← setItem that
      match first, last with
      | .char lo, .char hi =>
        if hi < lo then fail (.badRange this.text that.text) (this.text.length + 1 + that.text.length)
        setItems start (done ++ [.range lo hi]) n
      | _, _ => fail (.badRange this.text that.text) (this.text.length + 1 + that.text.length)

/-- A set, after its opening bracket. -/
def charSet : Reader Node := do
  let start := (← position) - 1
  let negated ← accept '^'
  return .one (.set negated (← setItems start [] (← left)))

/-! ## Repetitions -/

/-- Counts from here on are too large to be told from "without bound". -/
def countLimit : Nat := 4294967295

def count (digits : List Char) : Reader Nat := do
  let n := Decimal.digitsValue digits
  if countLimit ≤ n then throw .countTooLarge
  return n

/-- The bounds between braces, after the opening one; `none` if what stands there are none, so that
the brace is an ordinary character. -/
def bounds? : Reader (Option (Nat × Option Nat)) := do
  let saved ← get
  let start ← position
  if saved.next == some (.plain '}') then return none
  let low ← takeUpTo Char.isDigit (← left)
  let comma ← accept ','
  let high ← if comma then takeUpTo Char.isDigit (← left) else pure low
  if !(← accept '}') then
    set saved
    return none
  let min ← if low.isEmpty then pure 0 else count low
  if high.isEmpty then return some (min, none)
  let max ← count high
  if max < min then failAt start .minAboveMax
  return some (min, some max)

/-- What stands behind a repetition. -/
def greed : Reader Greed := do
  if ← accept '?' then return .lazy
  if ← accept '+' then return .possessive
  return .greedy

/-- Repeats the last item. A repetition or a place cannot be repeated, unless a group holds it. -/
def repeatLast (start : Nat) (min : Nat) (max : Option Nat) (done : List Node) :
    Reader (List Node) := do
  match done with
  | [] => failAt start .nothingToRepeat
  | .place _ :: _ => failAt start .nothingToRepeat
  | .loop .. :: _ => failAt start .multipleRepeat
  | last :: before => return .loop (← greed) min max last :: before

/-! ## Flags inside the pattern -/

/-- What the letters in a group's head say. -/
inductive Head where
  /-- For the whole pattern. -/
  | wide
  /-- For the extent of the group. -/
  | narrow (add remove : Flags)

/-- The letters that name flags, also the one that patterns of text cannot use. -/
def isFlagLetter (c : Char) : Bool := (Flags.ofLetter? c).isSome || c == 'L'

/-- A character that is no flag: its fault says whether it might have been meant as one. -/
def badFlag {α : Type} (t : Token) (expected : String) : Reader α :=
  let isLetter := t.plain?.any fun c => Text.isLetter c.toNat
  fail (if isLetter then .unknownFlag else .missing expected) t.text.length

/-- The flags to add, from the letter `c` on; answers the character that ends them. -/
def flagsToAdd (c : Char) (add : Flags) : Nat → Reader (Flags × Char)
  | 0 => fail (.missing "-, : or )")
  | n + 1 => do
    if c == 'L' then fail (.badFlags "cannot use 'L' flag with a str pattern")
    let flag := (Flags.ofLetter? c).getD {}
    let add := add.union flag
    if (flag.ascii && add.unicode) || (flag.unicode && add.ascii) then
      fail (.badFlags "flags 'a', 'u' and 'L' are incompatible")
    match ← take with
    | none => fail (.missing "-, : or )")
    | some t =>
      match t.plain? with
      | some d =>
        if d == ')' || d == '-' || d == ':' then return (add, d)
        else if isFlagLetter d then flagsToAdd d add n
        else badFlag t "-, : or )"
      | none => badFlag t "-, : or )"

/-- The flags to remove, from the letter `c` up to the colon. -/
def flagsToRemove (c : Char) (remove : Flags) : Nat → Reader Flags
  | 0 => fail (.missing ":")
  | n + 1 => do
    if c == 'a' || c == 'u' || c == 'L' then
      fail (.badFlags "cannot turn off flags 'a', 'u' and 'L'")
    let remove := remove.union ((Flags.ofLetter? c).getD {})
    match ← take with
    | none => fail (.missing ":")
    | some t =>
      match t.plain? with
      | some d =>
        if d == ':' then return remove
        else if isFlagLetter d then flagsToRemove d remove n
        else badFlag t ":"
      | none => badFlag t ":"

/-- The flags in the head of a group, which starts with `c`. -/
def head (c : Char) : Reader Head := do
  let (add, ending) ← if c == '-' then pure ({}, '-') else flagsToAdd c {} (← left)
  if ending == ')' then
    modify fun r => { r with flags := r.flags.union add }
    return .wide
  if add.template then fail (.badFlags "cannot turn on global flag") 1
  let remove ← if ending != '-' then pure {} else
    match ← take with
    | none => fail (.missing "flag")
    | some t =>
      match t.plain? with
      | some d =>
        if isFlagLetter d then flagsToRemove d {} (← left)
        else badFlag t "flag"
      | none => badFlag t "flag"
  if remove.template then fail (.badFlags "cannot turn off global flag") 1
  if add.meets remove then fail (.badFlags "flag turned on and off") 1
  return .narrow add remove

/-! ## The pattern -/

/-- Skips a comment between slashes and hashes: everything up to the end of the line. -/
def skipLine : Nat → Reader Unit
  | 0 => return ()
  | n + 1 => do
    match ← take with
    | none => return ()
    | some t => if t == .plain '\n' then return () else skipLine n

/-- Skips a comment group up to its closing bracket. -/
def skipComment (start : Nat) : Nat → Reader Unit
  | 0 => failAt start .unterminatedComment
  | n + 1 => do
    match ← take with
    | none => failAt start .unterminatedComment
    | some t => if t == .plain ')' then return () else skipComment start n

/-- No pattern has so many groups. -/
def groupLimit : Nat := 1073741823

/-- The group that a condition names, by its name or its number. -/
def conditionGroup : Reader Nat := do
  let name ← takeUntil ')' "group name"
  if Text.isIdentifier name then
    match (← get).names.lookup name with
    | some g => return g
    | none => fail (.unknownGroupName name) (name.length + 1)
  else
    match Decimal.readInt? (String.ofList name) with
    | some (.ofNat 0) => fail .badGroupNumber (name.length + 1)
    | some (.ofNat g) =>
      if groupLimit ≤ g then fail (.noSuchGroup g) (name.length + 1)
      let at_ := (← position) - name.length - 1
      modify fun r => if (r.tested.lookup g).isSome then r else { r with tested := r.tested ++ [(g, at_)] }
      return g
    | _ => fail (.badGroupName name) (name.length + 1)

/-- Expects the bracket that closes the group opened at `start`. -/
def closeBracket (start : Nat) : Reader Unit := do
  if !(← accept ')') then failAt start .unterminatedGroup

/-- A group that refers to another by name. -/
def namedReference : Reader Node := do
  let name ← takeUntil ')' "group name"
  checkName name
  match (← get).names.lookup name with
  | none => fail (.unknownGroupName name) (name.length + 1)
  | some g =>
    if !(← isClosed g) then fail .openGroup (name.length + 1)
    checkLookBehind g
    return .reference g

mutual
/-- Alternatives up to a closing bracket or the end. At the top, flags for the whole pattern may
stand in front. -/
def alternatives (verbose top : Bool) : Nat → Reader Node
  | 0 => fail .unexpectedEnd
  | n + 1 => do
    let first ← sequence verbose top [] n
    branches verbose top [first] n

/-- More alternatives, as long as there are bars. -/
def branches (verbose top : Bool) (done : List Node) : Nat → Reader Node
  | 0 => fail .unexpectedEnd
  | n + 1 => do
    if ← accept '|' then
      let r ← get
      let verbose := if top then r.flags.verbose else verbose
      let next ← sequence verbose false [] n
      branches verbose top (next :: done) n
    else return Node.ofBranches done.reverse

/-- Items in a row, up to a bar, a closing bracket or the end; `done` holds them in reverse. -/
def sequence (verbose first : Bool) (done : List Node) : Nat → Reader Node
  | 0 => fail .unexpectedEnd
  | n + 1 => do
    let finish := Node.ofList done.reverse
    match (← get).next with
    | none => return finish
    | some (.plain '|') | some (.plain ')') => return finish
    | some (.escaped c) =>
      let _ ← take
      let node ← escape c
      sequence verbose first (node :: done) n
    | some (.plain c) =>
      let start ← position
      let _ ← take
      if verbose && Text.isSpaceAscii c.toNat then sequence verbose first done n
      else if verbose && c == '#' then
        skipLine (← left)
        sequence verbose first done n
      else
        match c with
        | '[' => let node ← charSet
                 sequence verbose first (node :: done) n
        | '?' => let done ← repeatLast start 0 (some 1) done
                 sequence verbose first done n
        | '*' => let done ← repeatLast start 0 none done
                 sequence verbose first done n
        | '+' => let done ← repeatLast start 1 none done
                 sequence verbose first done n
        | '{' =>
          match ← bounds? with
          | none => sequence verbose first (.char c.toNat :: done) n
          | some (min, max) =>
            let done ← repeatLast start min max done
            sequence verbose first done n
        | '.' => sequence verbose first (.one .any :: done) n
        | '^' => sequence verbose first (.place .start :: done) n
        | '$' => sequence verbose first (.place .finish :: done) n
        | '(' =>
          match ← group verbose (first && done.isEmpty) start n with
          | some node => sequence verbose first (node :: done) n
          | none =>
            let r ← get
            let verbose := if first && done.isEmpty then r.flags.verbose else verbose
            sequence verbose first done n
        | c => sequence verbose first (.char c.toNat :: done) n

/-- A group, after its opening bracket at `start`; `none` for a comment or for flags, which
`mayFlag` allows here. -/
def group (verbose mayFlag : Bool) (start : Nat) : Nat → Reader (Option Node)
  | 0 => fail .unexpectedEnd
  | n + 1 => do
    if !(← accept '?') then
      return some (← captured verbose start none n)
    let some t ← take | fail .unexpectedEnd
    let some c := t.plain? | fail (.unknownExtension t.text) (t.text.length + 1)
    match c with
    | 'P' =>
      if ← accept '<' then
        let name ← takeUntil '>' "group name"
        checkName name
        return some (← captured verbose start (some name) n)
      else if ← accept '=' then return some (← namedReference)
      else
        let some t ← take | fail .unexpectedEnd
        fail (.unknownExtension ('P' :: t.text)) (t.text.length + 2)
    | '#' =>
      skipComment start (← left)
      return none
    | ':' => return some (.group none {} {} (← enclosed verbose start n))
    | '>' => return some (.atomic (← enclosed verbose start n))
    | '=' => return some (.ahead false (← enclosed verbose start n))
    | '!' => return some (.ahead true (← enclosed verbose start n))
    | '<' =>
      let some t ← take | fail .unexpectedEnd
      let negated ← if t == .plain '=' then pure false
        else if t == .plain '!' then pure true
        else fail (.unknownExtension ('<' :: t.text)) (t.text.length + 2)
      let outside := (← get).outside
      modify fun r => { r with outside := some (outside.getD r.widths.length) }
      let body ← alternatives verbose false n
      modify fun r => { r with outside }
      closeBracket start
      return some (.behind negated body)
    | '(' =>
      let g ← conditionGroup
      checkLookBehind g
      let yes ← sequence verbose false [] n
      let no ← if ← accept '|' then sequence verbose false [] n else pure .empty
      if (← get).next == some (.plain '|') then fail .tooManyBranches
      closeBracket start
      return some (.condition g yes no)
    | c =>
      if isFlagLetter c || c == '-' then
        match ← head c with
        | .wide =>
          if !mayFlag then failAt start .lateGlobalFlags
          return none
        | .narrow add remove =>
          let inner := (verbose || add.verbose) && !remove.verbose
          return some (.group none add remove (← enclosed inner start n))
      else fail (.unknownExtension [c]) 2

/-- The body of a group and its closing bracket. -/
def enclosed (verbose : Bool) (start : Nat) : Nat → Reader Node
  | 0 => fail .unexpectedEnd
  | n + 1 => do
    let body ← alternatives verbose false n
    closeBracket start
    return body

/-- A group that captures. -/
def captured (verbose : Bool) (start : Nat) (name : Option (List Char)) : Nat → Reader Node
  | 0 => fail .unexpectedEnd
  | n + 1 => do
    let g ← openGroup name
    let body ← enclosed verbose start n
    closeGroup g body
    return .group (some g) {} {} body
end

/-- A whole pattern. -/
def whole (fuel : Nat) : Reader Node := do
  let node ← alternatives (← get).flags.verbose true fuel
  let r ← get
  if r.flags.ascii && r.flags.unicode then throw .twoCharacterSets
  if r.next.isSome then fail .unbalanced
  match r.tested.find? fun p => r.widths.length ≤ p.1 with
  | some (g, position) => failAt position (.noSuchGroup g)
  | none => return node

end Reader

/-- What reading a pattern gives. -/
structure Parsed where
  node : Node
  flags : Flags
  /-- The widths of the groups; the first stands for the whole match. -/
  widths : List Width

/-- Reads a pattern. Every token is taken once and opens at most three calls, which bounds the
recursion. -/
def parse (naming : Naming) (source : List Char) (flags : Flags) : Except Fault Parsed := do
  let (next, rest, index) ← Reader.look source 0
  let start : Reading :=
    { naming, next, rest, index, flags, names := [], widths := [none], outside := none, tested := [] }
  let (node, r) ← (Reader.whole (4 * source.length + 8)).run start
  let flags := if r.flags.ascii then r.flags else { r.flags with unicode := true }
  return { node, flags, widths := r.widths.map (·.getD (0, 0)) }

end Dialogue.Pattern
