import Dialogue.Text.Letter
import Dialogue.Text.Digit
/-!
# Word characters

What a word is made of: letters, digits, other numerals and the underscore.
-/

namespace Dialogue.Text

def isWordAscii (c : Nat) : Bool :=
  (48 ≤ c && c ≤ 57) || (65 ≤ c && c ≤ 90) || c == 95 || (97 ≤ c && c ≤ 122)

def isWord (c : Nat) : Bool :=
  if c < 128 then isWordAscii c else letters.contains c || isDigit c || numerals.contains c

end Dialogue.Text
