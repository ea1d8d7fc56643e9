import Dialogue.Channel
import Dialogue.Encoding.Decoder
import Dialogue.Link
import Dialogue.Options
/-!
# Sessions

A session reads the output of a process in the background into a buffer of text that nothing has
matched yet, and may wait for the exit of the process, also in the background. A `Desk` is the world
of the process with the record of what happened; a `Stage` is a desk with a session at it.
-/

namespace Dialogue

/-- The state of a piece of background work. -/
inductive Task where
  | idle
  /-- Started, and not yet run. -/
  | ready
  /-- Waiting for something to happen. -/
  | waiting
  | ended
deriving Repr, DecidableEq

def Task.isAlive : Task → Bool
  | ready | waiting => true
  | idle | ended => false

structure Session (T σ : Type) where
  link : Link σ
  conduct : Conduct T
  /-- For how long a match is awaited if nothing else is said. -/
  timeout : Span T
  /-- The output that no match has consumed. -/
  buffer : Array Char := #[]
  /-- The output has ended. -/
  eof : Bool := false
  /-- When the last chunk came in; at first, when the session began. -/
  lastRead : T
  decoder : Decoder
  closed : Bool := false
  channel : Channel := {}
  reader : Task := .idle
  waiter : Task := .idle
  /-- Something has come in, or the end of the output, since this was last cleared. -/
  stirred : Bool := false

/-- A session that has not begun. -/
def Session.ofLink {T σ : Type} (link : Link σ) (conduct : Conduct T) (timeout : Span T) (now : T) :
    Session T σ where
  link
  conduct
  timeout
  lastRead := now
  decoder := .ofEncoding conduct.encoding

/-- A world with the record of what happened. -/
structure Desk (σ : Type) where
  process : σ
  log : List Record := []
  /-- How many pieces of background work were to be started. -/
  starts : Nat := 0
  /-- Why the start of the one with that number is refused, if it is. -/
  refusal : Nat → Option Failure := fun _ => none

namespace Desk

variable {σ : Type}

def note (r : Record) (d : Desk σ) : Desk σ := { d with log := d.log ++ [r] }

/-- Does something to the process. -/
def act {α : Type} (f : σ → α × σ) (d : Desk σ) : α × Desk σ :=
  let (a, process) := f d.process
  (a, { d with process })

/-- Does something to the process that puts itself on record. -/
def actNoting {α : Type} (f : σ → α × List Record × σ) (d : Desk σ) : α × Desk σ :=
  let (a, records, process) := f d.process
  (a, { d with process, log := d.log ++ records })

/-- Counts one more start, and tells whether it is refused. -/
def countStart (d : Desk σ) : Option Failure × Desk σ :=
  (d.refusal (d.starts + 1), { d with starts := d.starts + 1 })

end Desk

structure Stage (T σ : Type) extends Desk σ where
  session : Session T σ

namespace Stage

variable {T σ : Type}

/-- Puts something on record. -/
def note (r : Record) (st : Stage T σ) : Stage T σ := { st with toDesk := st.toDesk.note r }

/-- Does something to the process. -/
def act {α : Type} (f : σ → α × σ) (st : Stage T σ) : α × Stage T σ :=
  let (a, toDesk) := st.toDesk.act f
  (a, { st with toDesk })

/-- Does something to the process that puts itself on record. -/
def actNoting {α : Type} (f : σ → α × List Record × σ) (st : Stage T σ) : α × Stage T σ :=
  let (a, toDesk) := st.toDesk.actNoting f
  (a, { st with toDesk })

/-- The output that no match has consumed. -/
def before (st : Stage T σ) : List Char := st.session.buffer.toList

/-- Publishes the exit of the process. -/
def fulfil (exit : Exit) (st : Stage T σ) : Except Failure Unit × Stage T σ :=
  let (outcome, records, channel) := st.session.channel.fulfil exit
  (outcome, { st with log := st.log ++ records, session := { st.session with channel } })

/-- Subscribes a callback to the exit of the process. -/
def subscribe (callback : Callback) (st : Stage T σ) : Except Failure Unit × Stage T σ :=
  let (outcome, channel) := st.session.channel.subscribe callback
  (outcome, { st with session := { st.session with channel } })

end Stage

end Dialogue
