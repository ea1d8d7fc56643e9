/-!
# Command lines

A list of arguments as one line, so that it can be split again: an argument with a blank in it, or
with nothing in it, is quoted; a quotation mark gets a backslash in front, and backslashes in front of
a quotation mark are doubled.
-/

namespace Dialogue.CommandLine

/-- An argument needs quotes if it is empty or has a blank or a tab. -/
def needsQuotes (arg : List Char) : Bool := arg.isEmpty || arg.any fun c => c == ' ' || c == '\t'

def backslashes (n : Nat) : List Char := List.replicate n '\\'

/-- The rest of an argument after `pending` backslashes, up to the closing quote if there is one. -/
def escapeFrom (quoted : Bool) : Nat → List Char → List Char
  | pending, [] =>
    if quoted then backslashes (2 * pending) ++ ['"'] else backslashes pending
  | pending, c :: cs =>
    if c == '\\' then escapeFrom quoted (pending + 1) cs
    else if c == '"' then backslashes (2 * pending) ++ '\\' :: '"' :: escapeFrom quoted 0 cs
    else backslashes pending ++ c :: escapeFrom quoted 0 cs

/-- One argument. -/
def escape (arg : String) : String :=
  let quoted := needsQuotes arg.toList
  String.ofList ((if quoted then ['"'] else []) ++ escapeFrom quoted 0 arg.toList)

/-- The whole line. -/
def join (args : List String) : String := " ".intercalate (args.map escape)

end Dialogue.CommandLine
