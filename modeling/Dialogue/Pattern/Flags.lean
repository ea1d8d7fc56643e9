/-!
# Pattern flags

The options of a pattern, given beside it or turned on inside it, and how a group of the pattern
changes them for its own extent.
-/

namespace Dialogue.Pattern

structure Flags where
  ignoreCase : Bool := false
  multiline : Bool := false
  dotAll : Bool := false
  /-- Blanks and comments in the pattern do not count. -/
  verbose : Bool := false
  /-- The character classes and the cases are those of ASCII. -/
  ascii : Bool := false
  /-- The opposite of `ascii`, where a pattern asks for it by name. -/
  unicode : Bool := false
  /-- Nothing may be repeated. -/
  template : Bool := false
deriving Repr, DecidableEq

namespace Flags

/-- The flags of both. -/
def union (f g : Flags) : Flags where
  ignoreCase := f.ignoreCase || g.ignoreCase
  multiline := f.multiline || g.multiline
  dotAll := f.dotAll || g.dotAll
  verbose := f.verbose || g.verbose
  ascii := f.ascii || g.ascii
  unicode := f.unicode || g.unicode
  template := f.template || g.template

/-- The flags of the first that the second has not. -/
def without (f g : Flags) : Flags where
  ignoreCase := f.ignoreCase && !g.ignoreCase
  multiline := f.multiline && !g.multiline
  dotAll := f.dotAll && !g.dotAll
  verbose := f.verbose && !g.verbose
  ascii := f.ascii && !g.ascii
  unicode := f.unicode && !g.unicode
  template := f.template && !g.template

/-- Whether some flag is set in both. -/
def meets (f g : Flags) : Bool :=
  (f.ignoreCase && g.ignoreCase) || (f.multiline && g.multiline) || (f.dotAll && g.dotAll)
    || (f.verbose && g.verbose) || (f.ascii && g.ascii) || (f.unicode && g.unicode)
    || (f.template && g.template)

/-- The flags inside a group that adds some and removes some. A character set that the group names
replaces the one around it. -/
def inGroup (f add remove : Flags) : Flags :=
  let f := if add.ascii || add.unicode then { f with ascii := false, unicode := false } else f
  (f.union add).without remove

/-- The flag of a letter. -/
def ofLetter? : Char → Option Flags
  | 'i' => some { ignoreCase := true }
  | 'm' => some { multiline := true }
  | 's' => some { dotAll := true }
  | 'x' => some { verbose := true }
  | 'a' => some { ascii := true }
  | 'u' => some { unicode := true }
  | 't' => some { template := true }
  | _ => none

/-- The flags of a word of letters; other letters count for nothing. -/
def ofLetters (letters : String) : Flags :=
  letters.toList.foldl (fun f c => f.union ((ofLetter? c).getD {})) {}

/-- The names of the flags that are set, joined by bars. That the characters are those of Unicode
goes without saying. -/
def text (f : Flags) : String :=
  "|".intercalate <| [(f.template, "re.TEMPLATE"), (f.ignoreCase, "re.IGNORECASE"),
    (f.multiline, "re.MULTILINE"), (f.dotAll, "re.DOTALL"), (f.verbose, "re.VERBOSE"), (f.ascii, "re.ASCII")].filterMap fun p =>
      if p.1 then some p.2 else none

end Flags

end Dialogue.Pattern
