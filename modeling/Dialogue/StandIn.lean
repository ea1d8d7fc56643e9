import Dialogue.Launch
import Dialogue.Stream.Input
/-!
# Stand-ins

A process that exists only for rehearsals. Its output is fed by hand, its input is kept, every step
of a launch is counted and can be made to fail, and it exits when it is told to. It serves as its own
handle, any number of times.
-/

namespace Dialogue

structure StandIn where
  input : Input := {}
  output : Output := .feed {}
  inputError : Option Failure := none
  outputError : Option Failure := none
  startError : Option Failure := none
  /-- How the wait for it ends, once it has exited. -/
  exitError : Option Failure := none
  exited : Bool := false
  /-- The steps that were taken, by name. -/
  calls : List String := []
  commands : List (String × List String) := []
  waits : Nat := 0

namespace StandIn

/-- The stand-in as text. -/
def shown (x : StandIn) : String := "FakeSpawnFunc(calls=" ++ Record.textList x.calls ++ ")"

def call (step : String) (x : StandIn) : StandIn := { x with calls := x.calls ++ [step] }

def command (name : String) (args : List String) (x : StandIn) : StandIn :=
  { x.call "command" with commands := x.commands ++ [(name, args)] }

/-- The result of a step that fails if it was told to. -/
def failing (e : Option Failure) : Except Failure Unit := e.elim (.ok ()) .error

def inputPipe (x : StandIn) : Except Failure Unit × StandIn :=
  (failing x.inputError, x.call LaunchStep.inputPipe.name)

def outputPipe (x : StandIn) : Except Failure Unit × StandIn :=
  (failing x.outputError, x.call LaunchStep.outputPipe.name)

def start (x : StandIn) : Except Failure Unit × StandIn :=
  (failing x.startError, x.call LaunchStep.start.name)

/-- The wait for the exit. -/
def wait : Wait StandIn where
  begin x := { x with waits := x.waits + 1 }
  poll x := (if x.exited then some (failing x.exitError) else none, [], x)

/-- Feeds the output; only a feed can be fed. -/
def feed (bytes : List UInt8) (x : StandIn) : Except Failure Unit × StandIn :=
  match x.output with
  | .feed f => (.ok (), { x with output := .feed (f.feed bytes) })
  | output => (.error (.feedNeedsFake output.kind), x)

/-- Ends the output. -/
def finish (x : StandIn) : StandIn :=
  match x.output with
  | .feed f => { x with output := .feed f.finish }
  | _ => x

/-- Exits, and ends the output. An error that was set before stays failing another is given. -/
def exit (e : Option Failure) (x : StandIn) : List Record × StandIn :=
  let x := { x.finish with exitError := e <|> x.exitError, exited := true }
  ([.standInExited x.exitError], x)

def closeInput (x : StandIn) : Except Failure Unit × StandIn :=
  let (outcome, input) := x.input.close
  (outcome, { x with input })

def closeOutput (x : StandIn) : Except Failure Unit × StandIn :=
  let (outcome, output) := x.output.close
  (outcome, { x with output })

def write (bytes : List UInt8) (x : StandIn) : Except Failure Unit × StandIn :=
  let (outcome, input) := x.input.write bytes
  (outcome, { x with input })

/-- Reads from the output: a number of bytes, or all there are. -/
def read (most : Option Nat) (x : StandIn) : Chunk × StandIn :=
  let (chunk, output) := x.output.read most
  (chunk, { x with output })

/-- Everything that was sent to it. -/
def written (x : StandIn) : Except Failure (List UInt8) := x.input.record

def link : Link StandIn where
  write := write
  flush x := (x.input.flush, x)
  closeInput := closeInput
  read n := read (some n)
  closeOutput := closeOutput
  remaining x := x.output.remaining
  inputName x := x.input.name
  outputName x := x.output.name
  wait := some wait

/-- The stand-in is handed out for every command. -/
def launcher : Launcher StandIn Unit where
  command name args x := (.ok (), x.command name args)
  inputPipe _ := inputPipe
  outputPipe _ := outputPipe
  start _ x :=
    let (outcome, x) := x.start
    (outcome, [], x)
  link _ := link
  shown _ := shown

end StandIn

/-- A launcher as a spawner shows it. -/
def spawnerText (launcher : String) : String := "ExpectSpawner(spawn_func=" ++ launcher ++ ")"

end Dialogue
