import Dialogue.Launch
/-!
# Programs

Common interactive programs, each with the command line that starts it.
-/

namespace Dialogue

inductive Program where
  /-- A shell: the one that is named, else the one of the environment, else the usual one. -/
  | shell (named environment : Option String)
  | remote (user host : String)
  | pod (name container space : String)
  | command (name : String) (args : List String)

namespace Program

/-- The first text that is there and not empty. -/
def firstGiven : List (Option String) → Option String
  | [] => none
  | some s :: rest => if s.isEmpty then firstGiven rest else some s
  | none :: rest => firstGiven rest

/-- The command and its arguments. -/
def line : Program → String × List String
  | shell named environment => ((firstGiven [named, environment]).getD "sh", [])
  | remote user host => ("ssh", [user ++ "@" ++ host])
  | pod name container space => ("oc", ["exec", "-i", name, "-c", container, "-n", space, "--", "sh"])
  | command name args => (name, args)

/-- What is put on record before the launch. -/
def record? : Program → Option Record
  | shell named environment => some (.openingShell (shell named environment).line.1)
  | remote user host => some (.openingRemote (user ++ "@" ++ host))
  | pod name _ space => some (.openingPod space name)
  | command .. => none

end Program

/-- Launches a program and begins a session with it. -/
def Stage.run {T σ H M : Type} [Moment T] (life : Life T (Stage T σ) M) (l : Launcher σ H)
    (program : Program) (conduct : Conduct T) (timeout : Span T) (s : Scene T (Stage T σ) M) :
    Except Failure Unit × Scene T (Stage T σ) M :=
  let world := program.record?.elim s.world s.world.note
  let (command, args) := program.line
  Stage.spawn life l command args conduct timeout { s with world }

end Dialogue
