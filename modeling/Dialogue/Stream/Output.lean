import Dialogue.Failure
import Dialogue.Stream.Feed
/-!
# Outputs

The streams that a session reads from: a feed, bytes in memory, or a script that lays down the answer
to every read. A read asks for a number of bytes, or for all there are, and gets one chunk.
-/

namespace Dialogue

/-- What one read gives. -/
inductive Chunk where
  | bytes (bs : List UInt8)
  | text (s : String)
  /-- No data now, from a stream that does not wait. -/
  | nothing
  | failed (e : Failure)
  /-- The read has to wait. -/
  | blocked

/-- A stream whose answers are laid down; after them it is at its end. -/
structure Script where
  items : List Chunk
  /-- Raised by every close, which closes all the same. -/
  closeError : Option Failure := none
  /-- The sizes that were asked for. -/
  asked : List (Option Nat) := []
  closed : Bool := false

inductive Output where
  | feed (f : Feed)
  | memory (rest : List UInt8) (closed : Bool)
  | script (s : Script)

namespace Output

def isClosed : Output → Bool
  | feed f => f.closed
  | memory _ closed => closed
  | script s => s.closed

/-- One read. -/
def read (most : Option Nat) : Output → Chunk × Output
  | feed f =>
    if f.readable then
      let (bytes, f) := f.take most
      (.bytes bytes, feed f)
    else (.blocked, feed f)
  | memory rest closed =>
    if closed then (.failed .streamClosed, memory rest closed)
    else
      let n := most.getD rest.length
      (.bytes (rest.take n), memory (rest.drop n) closed)
  | script s =>
    let s := { s with asked := s.asked ++ [most] }
    match s.items with
    | [] => (.bytes [], script s)
    | item :: items => (item, script { s with items })

/-- Closing; a feed that is closed has ended too. -/
def close : Output → Except Failure Unit × Output
  | feed f => (.ok (), feed f.close)
  | memory rest _ => (.ok (), memory rest true)
  | script s => (s.closeError.elim (.ok ()) .error, script { s with closed := true })

/-- More than the number of reads that can give something before one waits or is at the end. -/
def remaining : Output → Nat
  | feed f => f.pending.length + 1
  | memory rest _ => rest.length + 1
  | script s => s.items.length + 1

/-- The stream in a record. -/
def name : Output → String
  | feed _ => "<libinteractive.test.spawn_func.FakeStdout object>"
  | memory .. => "<_io.BytesIO object>"
  | script _ => "<script>"

/-- The kind of stream in a message. -/
def kind : Output → String
  | feed _ => "FakeStdout"
  | memory .. => "BytesIO"
  | script _ => "Script"

end Output

end Dialogue
