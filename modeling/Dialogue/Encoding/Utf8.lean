/-!
# UTF-8

Characters as one to four bytes, and the machine that reads them back one byte at a time. The bytes
of an unfinished character are its state; `step` refuses a byte as soon as no character can start
with what it has. The one exception are the first two bytes of a surrogate: the second is taken, and
it takes a third one to refuse them.
-/

namespace Dialogue.Encoding.Utf8

/-- The bytes of a character. -/
def encodeChar (c : Char) : List UInt8 :=
  let n := c.toNat
  let tail (d : Nat) : UInt8 := UInt8.ofNat (0x80 + n / d % 64)
  if n < 0x80 then [UInt8.ofNat n]
  else if n < 0x800 then [UInt8.ofNat (0xC0 + n / 64), tail 1]
  else if n < 0x10000 then [UInt8.ofNat (0xE0 + n / 4096), tail 64, tail 1]
  else [UInt8.ofNat (0xF0 + n / 262144), tail 4096, tail 64, tail 1]

/-- How many bytes a character with this first byte has; zero if none starts with it. -/
def lengthFrom (lead : UInt8) : Nat :=
  if lead < 0x80 then 1
  else if lead < 0xC2 then 0
  else if lead < 0xE0 then 2
  else if lead < 0xF0 then 3
  else if lead < 0xF5 then 4
  else 0

/-- Whether `b` may come second after `lead`. The limits shut out overlong forms and numbers above
U+10FFFF. -/
def maySecond (lead b : UInt8) : Bool :=
  let low : UInt8 := if lead == 0xE0 then 0xA0 else if lead == 0xF0 then 0x90 else 0x80
  let high : UInt8 := if lead == 0xF4 then 0x8F else 0xBF
  low ≤ b && b ≤ high

/-- Whether a surrogate would have these two bytes first. -/
def isSurrogate (lead second : UInt8) : Bool := lead == 0xED && 0xA0 ≤ second

/-- Whether `b` may follow the unfinished character `lead :: rest`. -/
def mayFollow (lead : UInt8) (rest : List UInt8) (b : UInt8) : Bool :=
  match rest with
  | [] => maySecond lead b
  | second :: _ => !isSurrogate lead second && 0x80 ≤ b && b ≤ 0xBF

/-- The character that a first byte and its tails spell. -/
def assemble (lead : UInt8) (tails : List UInt8) : Char :=
  let bits := match tails.length with
    | 0 => lead.toNat
    | 1 => lead.toNat % 32
    | 2 => lead.toNat % 16
    | _ => lead.toNat % 8
  Char.ofNat (tails.foldl (fun n b => n * 64 + b.toNat % 64) bits)

end Dialogue.Encoding.Utf8
