import Dialogue.Stream.Output
/-!
# Descriptors and pipes

The part of an operating system that a process is launched through: pipes, descriptors, streams over
descriptors, and children. Numbers of descriptors are handed out in pairs and never used again. Every
operation is an event, also one that fails.
-/

namespace Dialogue

abbrev Fd := Nat

/-- A pipe, with what was written to it and not yet read. -/
structure Pipe where
  readEnd : Fd
  writeEnd : Fd
  content : List UInt8 := []

/-- A program that was started: what it writes, and how it exits. -/
structure Child where
  status : Int := 0
  output : List UInt8 := []

inductive HostEvent where
  | pipe (readEnd writeEnd : Fd)
  | pipeFailed
  /-- A stream is made over a descriptor. -/
  | wrap (fd : Fd) (writing : Bool)
  | close (fd : Fd)
  /-- A program is started; nothing in place of a descriptor stands for the null device. -/
  | launch (args : List String) (input output : Option Fd) (directory : Option String)
      (environment : Option (List (String × String)))
  | wait
  | write (fd : Fd) (bytes : List UInt8)

structure Host where
  /-- Why a call for a pipe fails, by the number of the call. -/
  pipeFault : Nat → Option Failure := fun _ => none
  /-- Why a stream cannot be made, by the number of the call. -/
  wrapFault : Nat → Option Failure := fun _ => none
  /-- What becomes of the start of a program, by the number of the call. -/
  child : Nat → Except Failure Child := fun _ => .ok {}
  pipeCalls : Nat := 0
  wrapCalls : Nat := 0
  launches : Nat := 0
  nextFd : Fd := 3
  openFds : List Fd := []
  pipes : List Pipe := []
  events : List HostEvent := []

namespace Host

def record (e : HostEvent) (s : Host) : Host := { s with events := s.events ++ [e] }

def isOpen (fd : Fd) (s : Host) : Bool := s.openFds.contains fd

/-- A new pipe: its read end and its write end. -/
def makePipe (s : Host) : Except Failure (Fd × Fd) × Host :=
  let s := { s with pipeCalls := s.pipeCalls + 1 }
  match s.pipeFault s.pipeCalls with
  | some e => (.error e, s.record .pipeFailed)
  | none =>
    let r := s.nextFd
    let w := r + 1
    let s : Host := { s with
      nextFd := r + 2
      openFds := s.openFds ++ [r, w]
      pipes := s.pipes ++ [{ readEnd := r, writeEnd := w }] }
    (.ok (r, w), s.record (.pipe r w))

/-- A stream over a descriptor. -/
def wrap (fd : Fd) (writing : Bool) (s : Host) : Except Failure Unit × Host :=
  let s := { s with wrapCalls := s.wrapCalls + 1 }
  match s.wrapFault s.wrapCalls with
  | some e => (.error e, s)
  | none => (.ok (), s.record (.wrap fd writing))

/-- Closes a descriptor. -/
def closeFd (fd : Fd) (s : Host) : Host :=
  record (.close fd) { s with openFds := s.openFds.filter (· != fd) }

/-- Closes a stream: its descriptor, unless that is closed. -/
def closeStream (fd : Fd) (s : Host) : Host := if s.isOpen fd then s.closeFd fd else s

/-- Puts what a child writes into the pipe that it writes to. -/
def deliver (bytes : List UInt8) (writeEnd : Fd) (s : Host) : Host :=
  { s with pipes := s.pipes.map fun p =>
      if p.writeEnd == writeEnd then { p with content := p.content ++ bytes } else p }

/-- Starts a program. -/
def launch (args : List String) (input output : Option Fd) (directory : Option String)
    (environment : Option (List (String × String))) (s : Host) : Except Failure Child × Host :=
  let s := record (.launch args input output directory environment)
    { s with launches := s.launches + 1 }
  match s.child s.launches with
  | .error e => (.error e, s)
  | .ok child => (.ok child, output.elim s fun w => s.deliver child.output w)

/-- What can be read from a descriptor. -/
def content (fd : Fd) (s : Host) : List UInt8 :=
  ((s.pipes.find? (·.readEnd == fd)).map Pipe.content).getD []

/-- Reads from a stream. A pipe whose content is used up is at its end. -/
def read (most : Nat) (fd : Fd) (s : Host) : Chunk × Host :=
  if s.isOpen fd then
    (.bytes ((s.content fd).take most), { s with pipes := s.pipes.map fun p =>
      if p.readEnd == fd then { p with content := p.content.drop most } else p })
  else (.failed .streamClosed, s)

/-- Writes to a stream. -/
def write (bytes : List UInt8) (fd : Fd) (s : Host) : Except Failure Unit × Host :=
  if s.isOpen fd then (.ok (), s.record (.write fd bytes)) else (.error .streamClosed, s)

end Host

end Dialogue
