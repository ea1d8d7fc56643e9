import Dialogue.Encoding
import Dialogue.Text.Quoted
/-!
# Decoding a stream

Bytes arrive in pieces that may end inside a character. A decoder keeps the bytes of an unfinished
character for the next piece; bytes that no character can have are shown as escapes of four
characters. `Encoding.step` is the machine of one encoding, `Encoding.run` feeds it a piece. For a
stream whose byte order is told by a mark, `Decoder` first waits for the mark.
-/

namespace Dialogue

namespace Encoding

/-- Bytes that are not text, as escapes. -/
def escapes (bytes : List UInt8) : List Char := bytes.flatMap fun b => Text.escapeByte b.toNat

/-- A first byte: a whole character, the start of one, or an escape. -/
def Utf8.start (b : UInt8) : List Char × List UInt8 :=
  match Utf8.lengthFrom b with
  | 0 => (escapes [b], [])
  | 1 => ([Utf8.assemble b []], [])
  | _ => ([], [b])

/-- One more byte after the unfinished character `pending`. A byte that cannot follow ends it: what
is pending is escaped, and the byte is taken as a first one. -/
def Utf8.step (pending : List UInt8) (b : UInt8) : List Char × List UInt8 :=
  match pending with
  | [] => Utf8.start b
  | lead :: tails =>
    if Utf8.mayFollow lead tails b then
      let tails := tails ++ [b]
      if tails.length + 1 == Utf8.lengthFrom lead then ([Utf8.assemble lead tails], [])
      else ([], lead :: tails)
    else
      let (out, rest) := Utf8.start b
      (escapes pending ++ out, rest)

/-- A whole unit that does not follow a high one. -/
def Utf16.start (order : ByteOrder) (a b : UInt8) : List Char × List UInt8 :=
  let u := Utf16.unit order a b
  if Utf16.isHigh u then ([], [a, b])
  else if Utf16.isLow u then (escapes [a, b], [])
  else ([Char.ofNat u], [])

/-- One more byte after the pending ones: half a unit, a high unit, or both. A high unit that no low
one follows is escaped. -/
def Utf16.step (order : ByteOrder) (pending : List UInt8) (b : UInt8) : List Char × List UInt8 :=
  match pending with
  | [] => ([], [b])
  | [a] => Utf16.start order a b
  | [h, l] => ([], [h, l, b])
  | h :: l :: a :: _ =>
    let low := Utf16.unit order a b
    if Utf16.isLow low then ([Utf16.join (Utf16.unit order h l) low], [])
    else
      let (out, rest) := Utf16.start order a b
      (escapes [h, l] ++ out, rest)

/-- A byte is a character or an escape; nothing is ever pending. -/
def SingleByte.step (code : SingleByte) (b : UInt8) : List Char × List UInt8 :=
  (match code.decode b with
    | some c => [c]
    | none => escapes [b], [])

/-- One byte: the text it completes, and the bytes still pending. Without a mark, the order of
`utf16` is little-endian. -/
def step (e : Encoding) (pending : List UInt8) (b : UInt8) : List Char × List UInt8 :=
  match e with
  | utf8 => Utf8.step pending b
  | ascii => SingleByte.ascii.step b
  | latin1 => SingleByte.latin1.step b
  | western => SingleByte.western.step b
  | utf16 => Utf16.step .littleEndian pending b
  | utf16Fixed order => Utf16.step order pending b

/-- One byte on top of what a piece has given so far; the text is kept in reverse. -/
def advance (e : Encoding) (state : List Char × List UInt8) (b : UInt8) : List Char × List UInt8 :=
  let (out, pending) := e.step state.2 b
  (out.reverseAux state.1, pending)

/-- A piece of bytes: the text it completes, and the bytes still pending. -/
def run (e : Encoding) (pending bytes : List UInt8) : List Char × List UInt8 :=
  let (out, pending) := bytes.foldl e.advance ([], pending)
  (out.reverse, pending)

end Encoding

/-- A decoder between two pieces, with the bytes it keeps. -/
inductive Decoder where
  | reading (e : Encoding) (pending : List UInt8)
  /-- The byte order is not known yet. -/
  | awaitingMark (pending : List UInt8)
deriving Repr, DecidableEq

namespace Decoder

def ofEncoding : Encoding → Decoder
  | .utf16 => awaitingMark []
  | e => reading e []

/-- The decoder after a mark and the bytes behind it. -/
def afterMark (order : Encoding.ByteOrder) (bytes : List UInt8) : List Char × Decoder :=
  let (out, pending) := (Encoding.utf16Fixed order).run [] bytes
  (out, reading (.utf16Fixed order) pending)

/-- The bytes of a stream so far, in search of a mark. A stream that has none is refused once it
would give text; half a character may still wait. -/
def findMark (bytes : List UInt8) : Option (List Char × Decoder) :=
  match bytes with
  | 0xFF :: 0xFE :: rest => some (afterMark .littleEndian rest)
  | 0xFE :: 0xFF :: rest => some (afterMark .bigEndian rest)
  | _ =>
    if (Encoding.utf16.run [] bytes).2.length == bytes.length then some ([], awaitingMark bytes)
    else none

/-- The next piece: the text it completes, or `none` when the mark is missing. -/
def feed (d : Decoder) (bytes : List UInt8) : Option (List Char × Decoder) :=
  match d with
  | reading e pending =>
    let (out, pending) := e.run pending bytes
    some (out, reading e pending)
  | awaitingMark pending => findMark (pending ++ bytes)

/-- The end of the stream: what is pending is escaped. Without a mark, half a character of two or
three bytes is refused too. -/
def finish : Decoder → Option (List Char)
  | reading _ pending => some (Encoding.escapes pending)
  | awaitingMark pending => if pending.length < 2 then some (Encoding.escapes pending) else none

end Decoder

end Dialogue
