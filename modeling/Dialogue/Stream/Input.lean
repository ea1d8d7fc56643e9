import Dialogue.Failure
/-!
# Inputs

The streams that a session writes to. A recorder keeps what is written, also after it is closed;
other inputs fail in one of their operations. Bytes in memory are gone once they are closed.
-/

namespace Dialogue

/-- How an input behaves. -/
inductive Input.Kind where
  | recorder
  | memory
  /-- The first close closes and then fails. -/
  | closeFails (e : Failure)
  | writeFails (e : Failure)
  /-- Flushing fails while the input is open, and so does the close that flushes first. -/
  | flushFails (e : Failure)

structure Input where
  kind : Input.Kind := .recorder
  written : List UInt8 := []
  closed : Bool := false

namespace Input

/-- Writes bytes. -/
def write (bytes : List UInt8) (i : Input) : Except Failure Unit × Input :=
  match i.kind with
  | .writeFails e => (.error e, i)
  | _ =>
    if i.closed then (.error .streamClosed, i)
    else (.ok (), { i with written := i.written ++ bytes })

def flush (i : Input) : Except Failure Unit :=
  if i.closed then .error .streamClosed
  else
    match i.kind with
    | .flushFails e => .error e
    | _ => .ok ()

/-- Closes. The input is closed afterwards whether or not that fails; only the first close can. -/
def close (i : Input) : Except Failure Unit × Input :=
  let outcome := match i.closed, i.kind with
    | false, .closeFails e | false, .flushFails e => .error e
    | _, _ => .ok ()
  (outcome, { i with closed := true })

/-- All that was written. -/
def contents (i : Input) : Except Failure (List UInt8) :=
  match i.kind with
  | .memory => if i.closed then .error .streamClosed else .ok i.written
  | _ => .ok i.written

/-- The record of what was written, which bytes in memory are not. -/
def record (i : Input) : Except Failure (List UInt8) :=
  match i.kind with
  | .memory => .error (.writtenNeedsRecorder "BytesIO")
  | _ => .ok i.written

/-- The stream in a record. -/
def name (i : Input) : String :=
  match i.kind with
  | .memory => "<_io.BytesIO object>"
  | _ => "<libinteractive.test.spawn_func.RecordingStdin object>"

end Input

end Dialogue
