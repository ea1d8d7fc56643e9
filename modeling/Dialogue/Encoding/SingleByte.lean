/-!
# Encodings of one byte a character

ASCII, Latin-1 and the Windows code page for Western Europe: each is a partial map between bytes and
characters, with the words its encoding errors use.
-/

namespace Dialogue.Encoding

/-- A code of one byte a character. -/
structure SingleByte where
  /-- How the code is named in errors. -/
  label : String
  /-- Why a character cannot be encoded. -/
  reason : String
  decode : UInt8 → Option Char
  encode : Char → Option UInt8

namespace SingleByte

/-- The characters of the code page from 0x80 to 0x9F; five bytes stand for none. -/
def westernUpper : List (Option Char) := [
  some '€', none, some '‚', some 'ƒ', some '„', some '…', some '†', some '‡',
  some 'ˆ', some '‰', some 'Š', some '‹', some 'Œ', none, some 'Ž', none,
  none, some '‘', some '’', some '“', some '”', some '•', some '–', some '—',
  some '˜', some '™', some 'š', some '›', some 'œ', none, some 'ž', some 'Ÿ']

/-- The bytes below `bound` stand for the characters of the same number. -/
def direct (bound : Nat) (b : UInt8) : Option Char :=
  if b.toNat < bound then some (Char.ofNat b.toNat) else none

def directByte (bound : Nat) (c : Char) : Option UInt8 :=
  if c.toNat < bound then some (UInt8.ofNat c.toNat) else none

def ascii : SingleByte where
  label := "ascii"
  reason := "ordinal not in range(128)"
  decode := direct 128
  encode := directByte 128

def latin1 : SingleByte where
  label := "latin-1"
  reason := "ordinal not in range(256)"
  decode := direct 256
  encode := directByte 256

/-- Whether a number lies where the code page differs from Latin-1. -/
def isWesternUpper (n : Nat) : Bool := 0x80 ≤ n && n < 0xA0

def western : SingleByte where
  label := "charmap"
  reason := "character maps to <undefined>"
  decode b :=
    if isWesternUpper b.toNat then (westernUpper[b.toNat - 0x80]?).join else direct 256 b
  encode c :=
    if c.toNat < 256 && !isWesternUpper c.toNat then directByte 256 c
    else (westernUpper.findIdx? (· == some c)).map fun i => UInt8.ofNat (0x80 + i)

end SingleByte

end Dialogue.Encoding
