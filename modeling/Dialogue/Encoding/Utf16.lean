/-!
# UTF-16

Characters as one or two units of two bytes in either order. A character above U+FFFF is a high
unit followed by a low one.
-/

namespace Dialogue.Encoding

/-- Which byte of a unit comes first. -/
inductive ByteOrder where
  | littleEndian
  | bigEndian
deriving Repr, DecidableEq

namespace Utf16

/-- The two bytes of a unit. -/
def unitBytes (order : ByteOrder) (u : Nat) : List UInt8 :=
  let low := UInt8.ofNat (u % 256)
  let high := UInt8.ofNat (u / 256)
  match order with
  | .littleEndian => [low, high]
  | .bigEndian => [high, low]

/-- The unit that two bytes spell. -/
def unit (order : ByteOrder) (a b : UInt8) : Nat :=
  match order with
  | .littleEndian => a.toNat + 256 * b.toNat
  | .bigEndian => 256 * a.toNat + b.toNat

def isHigh (u : Nat) : Bool := 0xD800 ≤ u && u < 0xDC00

def isLow (u : Nat) : Bool := 0xDC00 ≤ u && u < 0xE000

/-- The character of a high and a low unit. -/
def join (high low : Nat) : Char :=
  Char.ofNat (0x10000 + (high - 0xD800) * 1024 + (low - 0xDC00))

/-- The units of a character. -/
def units (c : Char) : List Nat :=
  let n := c.toNat
  if n < 0x10000 then [n]
  else [0xD800 + (n - 0x10000) / 1024, 0xDC00 + (n - 0x10000) % 1024]

def encodeChar (order : ByteOrder) (c : Char) : List UInt8 :=
  (units c).flatMap (unitBytes order)

/-- The mark that tells a reader the order, as the little-endian writer puts it first. -/
def mark : List UInt8 := [0xFF, 0xFE]

end Utf16

end Dialogue.Encoding
