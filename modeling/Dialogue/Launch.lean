import Dialogue.Session.Send
/-!
# Launching

A process is launched in four steps: command, input pipe, output pipe, start. The first step that
fails ends the launch with its own failure, and the streams that were acquired are closed. Once the
process runs, a session begins over its streams; if that fails, both streams are closed and the
process is waited for. Only ordinary failures are handled like this; any other passes at once.
-/

namespace Dialogue

/-- A way to make processes, over a world `σ`; `H` are its handles. -/
structure Launcher (σ H : Type) where
  command : String → List String → σ → Except Failure H × σ
  inputPipe : H → σ → Except Failure Unit × σ
  outputPipe : H → σ → Except Failure Unit × σ
  start : H → σ → Except Failure Unit × List Record × σ
  /-- The process of a handle, once it is started. -/
  link : H → Link σ
  shown : H → σ → String

/-- The same launcher in a larger world. -/
def Part.onLauncher {τ σ H : Type} (p : Part τ σ) (l : Launcher σ H) : Launcher τ H where
  command name args := p.on (l.command name args)
  inputPipe h := p.on (l.inputPipe h)
  outputPipe h := p.on (l.outputPipe h)
  start h w :=
    let (outcome, records, s) := l.start h (p.get w)
    (outcome, records, p.put s w)
  link h := p.onLink (l.link h)
  shown h w := l.shown h (p.get w)

/-- The two streams of a process. -/
inductive Side where
  | input
  | output
deriving Repr, DecidableEq

namespace Desk

variable {σ H : Type}

/-- Closes streams in order. An ordinary failure is put on record; any other passes at once. -/
def closeQuietly (link : Link σ) : List Side → Desk σ → Except Failure Unit × Desk σ
  | [], d => (.ok (), d)
  | side :: sides, d =>
    let (close, name) := match side with
      | .input => (link.closeInput, link.inputName)
      | .output => (link.closeOutput, link.outputName)
    match d.act close with
    | (.ok _, d) => closeQuietly link sides d
    | (.error e, d) =>
      if e.isOrdinary then closeQuietly link sides (d.note (.closeFailed (name d.process)))
      else (.error e, d)

/-- Ends a launch at a step that failed: closes what was acquired and raises the failure. -/
def abandon (link : Link σ) (r : Record) (acquired : List Side) (e : Failure) (d : Desk σ) :
    Failure × Desk σ :=
  if e.isOrdinary then
    match (d.note r).closeQuietly link acquired with
    | (.ok _, d) => (e, d)
    | (.error other, d) => (other, d)
  else (e, d)

/-- The steps of a launch, up to the first that fails. -/
def launch (l : Launcher σ H) (command : String) (args : List String) (d : Desk σ) :
    Except Failure H × Desk σ :=
  match d.act (l.command command args) with
  | (.error e, d) => (.error e, d)
  | (.ok h, d) =>
    let d := d.note (.spawning command args)
    let fail (step : LaunchStep) (acquired : List Side) (e : Failure) (d : Desk σ) :=
      let (e, d) := d.abandon (l.link h) (.stepFailed step command) acquired e
      (Except.error e, d)
    match d.act (l.inputPipe h) with
    | (.error e, d) => fail .inputPipe [] e d
    | (.ok _, d) =>
      match d.act (l.outputPipe h) with
      | (.error e, d) => fail .outputPipe [.input] e d
      | (.ok _, d) =>
        match d.actNoting (l.start h) with
        | (.error e, d) => fail .start [.input, .output] e d
        | (.ok _, d) => (.ok h, d)

end Desk

namespace Stage

variable {T σ H M : Type} [Moment T]

/-- Waits on the main line for the exit of a process. -/
def await (life : Life T (Stage T σ) M) (wait : Wait σ) (s : Scene T (Stage T σ) M) :
    Except Failure Unit × Scene T (Stage T σ) M :=
  let poll (s : Scene T (Stage T σ) M) : Option (Except Failure Unit) × Scene T (Stage T σ) M :=
    let (outcome, world) := s.world.actNoting wait.poll
    (outcome, { s with world })
  match poll { s with world := { s.world with process := wait.begin s.world.process } } with
  | (some outcome, s) => (outcome, s)
  | (none, s) =>
    let (_, s) := s.rest life (fun st => (wait.poll st.process).1.isSome) none
    match poll s with
    | (some outcome, s) => (outcome, s)
    | (none, s) => (.error .blocked, s)

/-- Waits for the exit of a process that has no session. An ordinary failure is put on record. -/
def reap (life : Life T (Stage T σ) M) (l : Launcher σ H) (h : H) (s : Scene T (Stage T σ) M) :
    Except Failure Unit × Scene T (Stage T σ) M :=
  match (l.link h).wait with
  | none => (.ok (), s)
  | some wait =>
    match await life wait s with
    | (.ok _, s) => (.ok (), s)
    | (.error e, s) =>
      if e.isOrdinary then
        (.ok (), { s with world := s.world.note (.reapFailed (l.shown h s.world.process)) })
      else (.error e, s)

/-- Gives up a process that was started: closes its streams and waits for its exit. The failure that
led here is raised, unless closing or waiting meets one that is no ordinary failure. -/
def forsake (life : Life T (Stage T σ) M) (l : Launcher σ H) (h : H) (command : String)
    (e : Failure) (s : Scene T (Stage T σ) M) : Failure × Scene T (Stage T σ) M :=
  let desk := s.world.toDesk.note (.setupFailed command)
  match desk.closeQuietly (l.link h) [.input, .output] with
  | (.error other, toDesk) => (other, { s with world := { s.world with toDesk } })
  | (.ok _, toDesk) =>
    match reap life l h { s with world := { s.world with toDesk } } with
    | (.error other, s) => (other, s)
    | (.ok _, s) => (e, s)

/-- Launches a command and begins a session with it. -/
def spawn (life : Life T (Stage T σ) M) (l : Launcher σ H) (command : String) (args : List String)
    (conduct : Conduct T) (timeout : Span T) (s : Scene T (Stage T σ) M) :
    Except Failure Unit × Scene T (Stage T σ) M :=
  match s.world.toDesk.launch l command args with
  | (.error e, toDesk) => (.error e, { s with world := { s.world with toDesk } })
  | (.ok h, desk) =>
    match Stage.begin (.ofLink (l.link h) conduct timeout s.now) desk with
    | (.ok _, world) => (.ok (), { s with world })
    | (.error e, world) =>
      if e.isOrdinary then
        let (e, s) := forsake life l h command e { s with world }
        (.error e, s)
      else (.error e, { s with world })

/-- Spawns through a launcher of one's own, unless another one is given for this call. -/
def spawnThrough {H' : Type} (life : Life T (Stage T σ) M) (own : Launcher σ H)
    (given : Option (Launcher σ H')) (command : String) (args : List String) (conduct : Conduct T)
    (timeout : Span T) (s : Scene T (Stage T σ) M) : Except Failure Unit × Scene T (Stage T σ) M :=
  match given with
  | some l => spawn life l command args conduct timeout s
  | none => spawn life own command args conduct timeout s

end Stage

end Dialogue
