import Dialogue.Text.Printable
/-!
# Quoted text and bytes

How text and bytes are shown inside messages: in quotes, with escapes for what would not print. The
quotes are single, unless the content has a single quote and no double one.
-/

namespace Dialogue.Text

/-- The lower-case hexadecimal digit of a number below sixteen. -/
def hexDigit (n : Nat) : Char := Char.ofNat (if n < 10 then 48 + n else 87 + n)

/-- The last `width` hexadecimal digits of a number. -/
def hex : Nat → Nat → List Char
  | 0, _ => []
  | width + 1, n => hex width (n / 16) ++ [hexDigit (n % 16)]

/-- A byte or a character below U+0100 as an escape of four characters. -/
def escapeByte (n : Nat) : List Char := '\\' :: 'x' :: hex 2 n

/-- The escape of a code point: as short as its size allows. -/
def escapePoint (n : Nat) : List Char :=
  if n < 0x100 then escapeByte n
  else if n < 0x10000 then '\\' :: 'u' :: hex 4 n
  else '\\' :: 'U' :: hex 8 n

/-- The quotation mark for content with these marks in it. -/
def quoteMark (hasSingle hasDouble : Bool) : Char :=
  if hasSingle && !hasDouble then '"' else '\''

/-- What both kinds of content escape alike: the mark in use, the backslash and three blanks. -/
def escapeCommon? (mark c : Char) : Option (List Char) :=
  if c == mark || c == '\\' then some ['\\', c]
  else if c == '\t' then some ['\\', 't']
  else if c == '\n' then some ['\\', 'n']
  else if c == '\r' then some ['\\', 'r']
  else none

def quoteChar (mark c : Char) : List Char :=
  (escapeCommon? mark c).getD (if isPrintable c.toNat then [c] else escapePoint c.toNat)

def quoteByte (mark : Char) (b : UInt8) : List Char :=
  let c := Char.ofNat b.toNat
  (escapeCommon? mark c).getD (if 32 ≤ b && b < 127 then [c] else escapeByte b.toNat)

/-- Text in quotes. -/
def quote (text : List Char) : String :=
  let mark := quoteMark (text.contains '\'') (text.contains '"')
  String.ofList (mark :: text.flatMap (quoteChar mark) ++ [mark])

/-- Bytes in quotes, marked as bytes. -/
def quoteBytes (bytes : List UInt8) : String :=
  let mark := quoteMark (bytes.contains 39) (bytes.contains 34)
  String.ofList ('b' :: mark :: bytes.flatMap (quoteByte mark) ++ [mark])

end Dialogue.Text
