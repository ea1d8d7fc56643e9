import Dialogue.Session.Cue
import Dialogue.StandIn
/-!
# Rehearsals

A session with a stand-in in place of a process. A company is the stand-in that is played, possibly
another one that stands by, and a count of how often the session was hung up through a hook. Cues are
what can be done without waiting; reading from the stand-in and awaiting its exit can take time.
-/

namespace Dialogue

structure Company where
  /-- The stand-in that is played. -/
  lead : StandIn := {}
  /-- One that stands by. -/
  spare : Option StandIn := none
  hookCalls : Nat := 0

namespace Company

def leadPart : Part Company StandIn where
  get c := c.lead
  put lead c := { c with lead }

/-- A hook that counts its calls, and then fails if it was told to. -/
def hook (e : Option Failure) (c : Company) : Except Failure Unit × Company :=
  (StandIn.failing e, { c with hookCalls := c.hookCalls + 1 })

/-- The link to the stand-in: with a wait for its exit or without, and with a hook or without. -/
def link (awaited : Bool) (hookError : Option (Option Failure)) : Link Company :=
  let base := leadPart.onLink StandIn.link
  { base with
    wait := if awaited then base.wait else none
    hook := hookError.map hook }

def launcher : Launcher Company Unit := leadPart.onLauncher StandIn.launcher

/-- The stand-in that stands by; a blank one if there is none. -/
def sparePart : Part Company StandIn where
  get c := c.spare.getD {}
  put spare c := { c with spare := some spare }

def spareLauncher : Launcher Company Unit := sparePart.onLauncher StandIn.launcher

end Company

/-- What can be done in a rehearsal without waiting. -/
inductive Cue where
  | command (name : String) (args : List String)
  | step (s : LaunchStep)
  | feed (bytes : List UInt8)
  | finish
  | exit (e : Option Failure)
  | write (bytes : List UInt8)
  | closeInput
  | closeOutput
  | session (cue : SessionCue)

namespace Rehearsal

variable {T : Type} [Moment T]

/-- Does something to the stand-in. -/
def onLead (f : StandIn → Except Failure Unit × StandIn) (st : Stage T Company) :
    Except Failure Unit × Stage T Company :=
  st.act (Company.leadPart.on f)

def act : Cue → Stage T Company → Except Failure Unit × Stage T Company
  | .command name args, st => onLead (fun x => (.ok (), x.command name args)) st
  | .step .inputPipe, st => onLead StandIn.inputPipe st
  | .step .outputPipe, st => onLead StandIn.outputPipe st
  | .step .start, st => onLead StandIn.start st
  | .feed bytes, st => onLead (StandIn.feed bytes) st
  | .finish, st => onLead (fun x => (.ok (), x.finish)) st
  | .exit e, st =>
    let ((), st) := st.actNoting fun c =>
      let (records, lead) := c.lead.exit e
      ((), records, { c with lead })
    (.ok (), st)
  | .write bytes, st => onLead (StandIn.write bytes) st
  | .closeInput, st => onLead StandIn.closeInput st
  | .closeOutput, st => onLead StandIn.closeOutput st
  | .session cue, st => st.perform cue

/-- Background work goes on by itself, and cues are given when they are due. -/
def life : Life T (Stage T Company) Cue := Stage.lifeWith act

/-- Waits on the main line for the exit of the stand-in. -/
def await (s : Scene T (Stage T Company) Cue) :
    Except Failure Unit × Scene T (Stage T Company) Cue :=
  Stage.await life (Company.leadPart.onWait StandIn.wait) s

/-- Whether a read has to wait. -/
def mustWait (most : Option Nat) (st : Stage T Company) : Bool :=
  match (st.process.lead.read most).1 with
  | .blocked => true
  | _ => false

/-- One read, which waits until it can be answered. -/
def read (most : Option Nat) (s : Scene T (Stage T Company) Cue) :
    Chunk × Scene T (Stage T Company) Cue :=
  let s := if mustWait most s.world then (s.rest life (!mustWait most ·) none).2 else s
  let (chunk, world) := s.world.act (Company.leadPart.on (StandIn.read most))
  (chunk, { s with world })

/-- Reads up to the end of the output; at most `fuel` times. -/
def readAll (got : List UInt8) : Nat → Scene T (Stage T Company) Cue →
    Chunk × Scene T (Stage T Company) Cue
  | 0, s => (.blocked, s)
  | fuel + 1, s =>
    match read none s with
    | (.bytes [], s) => (.bytes got, s)
    | (.bytes bytes, s) => readAll (got ++ bytes) fuel s
    | (chunk, s) => (chunk, s)

/-- Everything up to the end of the output, however long that takes. -/
def readToEnd (s : Scene T (Stage T Company) Cue) : Chunk × Scene T (Stage T Company) Cue :=
  readAll [] (s.agenda.length + s.world.process.lead.output.remaining + 1) s

/-- Reads into a buffer: its content afterwards, with what was there behind what was read. -/
def fill (buffer bytes : List UInt8) : List UInt8 := bytes ++ buffer.drop bytes.length

end Rehearsal

end Dialogue
