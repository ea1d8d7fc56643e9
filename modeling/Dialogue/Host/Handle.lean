import Dialogue.Launch
import Dialogue.Host
import Dialogue.Host.CommandLine
/-!
# Handles

A handle makes one process: it acquires the two pipes, at most once each and before the start, starts
the command, and waits for it once. The ends of the pipes that belong to the child are closed after
the start, whether or not it succeeds. A handle without a command is a factory: it only makes handles
for commands, which keep its directory and environment.
-/

namespace Dialogue

structure Handle where
  args : Option (List String) := none
  directory : Option String := none
  environment : Option (List (String × String)) := none
  /-- The process, once it is started: its number and its exit status. -/
  process : Option (Nat × Int) := none
  waited : Bool := false
  /-- The streams that were handed out. -/
  input : Option Fd := none
  output : Option Fd := none
  /-- The ends that the child gets. -/
  childInput : Option Fd := none
  childOutput : Option Fd := none

namespace Handle

/-- The handle as text. -/
def shown (h : Handle) : String :=
  "ExecSpawnFunc(args=" ++ h.args.elim "None" Record.textList ++ ")"

/-- A new handle for a command. -/
def command (name : String) (args : List String) (h : Handle) : Handle :=
  { args := some (name :: args), directory := h.directory, environment := h.environment }

/-- The rules for acquiring a pipe, in the order in which they are checked. -/
def mayAcquire (h : Handle) (stream operation : String) (current : Option Fd) :
    Except Failure Unit :=
  if h.args.isNone then .error .commandNotConfigured
  else if current.isSome then .error (.pipeAlreadyAcquired (.text stream))
  else if h.process.isSome then .error (.processAlreadyStarted (.text operation))
  else .ok ()

/-- Closes the ends that belong to the child. -/
def closeChildEnds (h : Handle) (s : Host) : Handle × Host :=
  let s := h.childInput.elim s fun fd => s.closeFd fd
  let s := h.childOutput.elim s fun fd => s.closeFd fd
  ({ h with childInput := none, childOutput := none }, s)

/-- Closes the streams that were handed out. -/
def closeStreams (h : Handle) (s : Host) : Host :=
  let s := h.input.elim s fun fd => s.closeStream fd
  h.output.elim s fun fd => s.closeStream fd

/-- Acquires the stream to the input of the process. -/
def acquireInput (h : Handle) (s : Host) : Except Failure Fd × Handle × Host :=
  match h.mayAcquire "stdin" "stdin_pipe()" h.input with
  | .error e => (.error e, h, s)
  | .ok _ =>
    match s.makePipe with
    | (.error e, s) => (.error e, h, s)
    | (.ok (r, w), s) =>
      let h := { h with childInput := some r }
      match s.wrap w true with
      | (.error e, s) => (.error e, h, s)
      | (.ok _, s) => (.ok w, { h with input := some w }, s)

/-- Acquires the stream from the output of the process. If the host has no pipe to give, the child
never starts, and its end of the other pipe is closed. -/
def acquireOutput (h : Handle) (s : Host) : Except Failure Fd × Handle × Host :=
  match h.mayAcquire "stdout" "stdout_pipe()" h.output with
  | .error e => (.error e, h, s)
  | .ok _ =>
    match s.makePipe with
    | (.error e, s) =>
      if e.isSystem then
        let (h, s) := h.closeChildEnds s
        (.error e, h, s)
      else (.error e, h, s)
    | (.ok (r, w), s) =>
      let h := { h with childOutput := some w }
      match s.wrap r false with
      | (.error e, s) => (.error e, h, s)
      | (.ok _, s) => (.ok r, { h with output := some r }, s)

/-- The number of the first process, less one. -/
def firstProcess : Nat := 1000

/-- Starts the command. After an ordinary failure the streams that were handed out are closed. -/
def start (h : Handle) (s : Host) : Except Failure Unit × List Record × Handle × Host :=
  match h.args, h.process with
  | none, _ => (.error .commandNotConfigured, [], h, s)
  | some _, some _ => (.error (.processAlreadyStarted (.text "start()")), [], h, s)
  | some args, none =>
    let starting := Record.starting (CommandLine.join args)
    match s.launch args h.childInput h.childOutput h.directory h.environment with
    | (.ok child, s) =>
      let h := { h with process := some (firstProcess + s.launches, child.status) }
      let (h, s) := h.closeChildEnds s
      (.ok (), [starting], h, s)
    | (.error e, s) =>
      let (records, s) :=
        if e.isOrdinary then ([starting, .startFailed args], h.closeStreams s) else ([starting], s)
      let (h, s) := h.closeChildEnds s
      (.error e, records, h, s)

/-- Waits for the process. -/
def wait (h : Handle) (s : Host) : Except Failure Unit × List Record × Handle × Host :=
  match h.process with
  | none => (.error .processNotStarted, [], h, s)
  | some (_, status) =>
    if h.waited then (.error .waitAlreadyCalled, [], h, s)
    else
      let args := h.args.getD []
      let outcome := if status == 0 then .ok () else .error (.processExit status (some (args.map .text)))
      (outcome, [.exited args status], { h with waited := true }, s.record .wait)

end Handle

/-- A host with the handles that were made on it. -/
structure Registry where
  host : Host := {}
  handles : List Handle := []

namespace Registry

/-- The handle of that number; a blank one if there is none. -/
def handle (n : Nat) (m : Registry) : Handle := m.handles.getD n {}

def setHandle (n : Nat) (h : Handle) (m : Registry) : Registry :=
  { m with handles := m.handles.set n h }

/-- Adds a handle, and gives its number. -/
def add (h : Handle) (m : Registry) : Nat × Registry :=
  (m.handles.length, { m with handles := m.handles ++ [h] })

/-- Does something with a handle. -/
def on {α : Type} (n : Nat) (f : Handle → Host → α × Handle × Host) (m : Registry) :
    α × Registry :=
  let (a, h, host) := f (m.handle n) m.host
  (a, { m with host }.setHandle n h)

/-- Does something with a handle that puts itself on record. -/
def onNoting {α : Type} (n : Nat) (f : Handle → Host → α × List Record × Handle × Host)
    (m : Registry) : α × List Record × Registry :=
  let (a, records, h, host) := f (m.handle n) m.host
  (a, records, { m with host }.setHandle n h)

/-- Closes the stream of a descriptor, if there is one. -/
def closeStream (fd : Option Fd) (m : Registry) : Except Failure Unit × Registry :=
  (.ok (), { m with host := fd.elim m.host fun fd => m.host.closeStream fd })

/-- A stream in a record. -/
def streamName (fd : Option Fd) : String := "<fd " ++ fd.elim "" toString ++ ">"

/-- The process of a handle. The wait for it ends at once, as far as a session can tell. -/
def link (n : Nat) : Link Registry where
  write bytes m :=
    match (m.handle n).input with
    | some fd =>
      let (outcome, host) := m.host.write bytes fd
      (outcome, { m with host })
    | none => (.error .streamClosed, m)
  flush m := (.ok (), m)
  closeInput m := m.closeStream (m.handle n).input
  read most m :=
    match (m.handle n).output with
    | some fd =>
      let (chunk, host) := m.host.read most fd
      (chunk, { m with host })
    | none => (.failed .streamClosed, m)
  closeOutput m := m.closeStream (m.handle n).output
  remaining m := ((m.handle n).output.elim 0 fun fd => (m.host.content fd).length) + 1
  inputName m := streamName (m.handle n).input
  outputName m := streamName (m.handle n).output
  wait := some {
    begin := id
    poll := fun m =>
      let (outcome, records, m) := m.onNoting n Handle.wait
      (some outcome, records, m) }

/-- Launches commands through the handle of that number. -/
def launcher (factory : Nat) : Launcher Registry Nat where
  command name args m :=
    let (n, m) := m.add ((m.handle factory).command name args)
    (.ok n, m)
  inputPipe n m :=
    let (outcome, m) := m.on n Handle.acquireInput
    (outcome.map fun _ => (), m)
  outputPipe n m :=
    let (outcome, m) := m.on n Handle.acquireOutput
    (outcome.map fun _ => (), m)
  start n m := m.onNoting n Handle.start
  link := link
  shown n m := (m.handle n).shown

end Registry

end Dialogue
