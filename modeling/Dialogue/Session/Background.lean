import Dialogue.Session
/-!
# Background work

The reader takes in output until there is none at the moment; at the end of the output, or when
reading fails, it publishes that the output has ended and closes the stream. The waiter awaits the
exit of the process and publishes it. `Stage.settle` lets both go on as far as they can, the reader
first.
-/

namespace Dialogue.Stage

variable {T σ : Type}

/-- Drops the oldest text above the limit. -/
def trim (st : Stage T σ) : Stage T σ :=
  match st.session.conduct.bufferLimit with
  | none => st
  | some limit =>
    let size := st.session.buffer.size
    if size ≤ limit then st
    else
      let dropped := size - limit
      let buffer := st.session.buffer.extract dropped size
      { st with session := { st.session with buffer } }.note (.dropped dropped)

/-- Takes in the text of one chunk. -/
def takeIn (now : T) (text : List Char) (decoder : Decoder) (st : Stage T σ) : Stage T σ :=
  let st := if st.session.conduct.verbose then st.note (.received text) else st
  let buffer := st.session.buffer ++ text
  let st := trim { st with session := { st.session with buffer, decoder } }
  { st with session := { st.session with lastRead := now, stirred := true } }

/-- Publishes the end of the output, after what the decoder still kept. Unless the exit is awaited by
itself, the end of the output is the exit. -/
def publishEnd (tail : List Char) (st : Stage T σ) : Stage T σ :=
  let buffer := st.session.buffer ++ tail
  let st := { st with session := { st.session with buffer, eof := true, stirred := true } }
  match st.act st.session.link.closeOutput with
  | (.error _, st) => st
  | (.ok _, st) => if st.session.link.wait.isNone then (st.fulfil none).2 else st

/-- Ends the reader. A decoder that cannot be finished ends it before anything is published. -/
def endReading (st : Stage T σ) : Stage T σ :=
  let st := { st with session := { st.session with reader := .ended } }
  match st.session.decoder.finish with
  | some tail => publishEnd tail st
  | none => st

/-- Ends the reader after a failure, which is on record if it is one of the stream. -/
def stopReading (e : Failure) (st : Stage T σ) : Stage T σ :=
  if e.stopsReading then
    (st.note (.readerStopped (st.session.link.outputName st.process))).endReading
  else st.endReading

/-- Reads until there is nothing at the moment, or until the end; at most `fuel` times. -/
def readOn (now : T) : Nat → Stage T σ → Stage T σ
  | 0, st => st
  | fuel + 1, st =>
    match st.act (st.session.link.read st.session.conduct.bufferSize) with
    | (.blocked, st) => { st with session := { st.session with reader := .waiting } }
    | (.nothing, st) | (.bytes [], st) | (.text "", st) => st.endReading
    | (.text _, st) => st.stopReading .textForBytes
    | (.failed e, st) => st.stopReading e
    | (.bytes bytes, st) =>
      match st.session.decoder.feed bytes with
      | some (text, decoder) => readOn now fuel (st.takeIn now text decoder)
      | none => st.stopReading .markMissing

/-- Lets the reader go on. -/
def runReader (now : T) (st : Stage T σ) : Stage T σ :=
  if st.session.reader.isAlive then readOn now (st.session.link.remaining st.process + 1) st else st

/-- Publishes how the wait for the process ended. A failure that is no ordinary one ends the waiter
and leaves the exit unknown. -/
def endWaiting (outcome : Except Failure Unit) (st : Stage T σ) : Stage T σ :=
  let st := { st with session := { st.session with waiter := .ended } }
  match outcome with
  | .ok _ => ((st.note .exitedCleanly).fulfil none).2
  | .error e => if e.isOrdinary then ((st.note (.waitFailed e)).fulfil (some e)).2 else st

/-- Asks whether the process has ended. -/
def pollExit (wait : Wait σ) (st : Stage T σ) : Stage T σ :=
  match st.actNoting wait.poll with
  | (some outcome, st) => st.endWaiting outcome
  | (none, st) => { st with session := { st.session with waiter := .waiting } }

/-- Lets the waiter go on. -/
def runWaiter (st : Stage T σ) : Stage T σ :=
  match st.session.link.wait, st.session.waiter with
  | some wait, .ready => pollExit wait { st with process := wait.begin st.process }
  | some wait, .waiting => pollExit wait st
  | _, _ => st

/-- Does all background work that can be done now. -/
def settle (now : T) (st : Stage T σ) : Stage T σ := runWaiter (runReader now st)

/-- Begins a session at a desk: starts the reader, and the waiter if there is something to wait for.
A start can be refused; a reader that was started before works on. -/
def begin (session : Session T σ) (d : Desk σ) : Except Failure Unit × Stage T σ :=
  match d.countStart with
  | (some e, d) => (.error e, { d with session })
  | (none, d) =>
    let session := { session with reader := .ready }
    if session.link.wait.isNone then (.ok (), { d with session })
    else
      match d.countStart with
      | (some e, d) => (.error e, { d with session })
      | (none, d) => (.ok (), { d with session := { session with waiter := .ready } })

end Dialogue.Stage
