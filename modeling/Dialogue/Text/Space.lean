/-!
# Blanks

The characters that count as space in a pattern's space class and around a number.
-/

namespace Dialogue.Text

/-- Tab, line feed, vertical tab, form feed, carriage return and the space. -/
def isSpaceAscii (c : Nat) : Bool := (9 ≤ c && c ≤ 13) || c == 32

/-- White space, or a separator by its bidirectional class: of ASCII also U+001C to U+001F. -/
def isSpace (c : Nat) : Bool :=
  isSpaceAscii c || (28 ≤ c && c ≤ 31) || c == 0x85 || c == 0xA0 || c == 0x1680
    || (0x2000 ≤ c && c ≤ 0x200A) || c == 0x2028 || c == 0x2029 || c == 0x202F || c == 0x205F
    || c == 0x3000

/-- What may surround a numeral: of the controls only those that ASCII calls white space. -/
def isBlankAround (c : Nat) : Bool := if c < 128 then isSpaceAscii c else isSpace c

end Dialogue.Text
