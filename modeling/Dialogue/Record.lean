import Dialogue.Failure
/-!
# Records

What is put on record while sessions run: one constructor an event, and `Record.text` its line, with
the part of the library it comes from and its level in front.
-/

namespace Dialogue

/-- The steps of a launch after the command is known, by the names that records and callers use. -/
inductive LaunchStep where
  | inputPipe
  | outputPipe
  | start
deriving Repr, DecidableEq

def LaunchStep.name : LaunchStep → String
  | inputPipe => "stdin_pipe"
  | outputPipe => "stdout_pipe"
  | start => "start"

inductive Record where
  | sent (data : Value)
  | received (text : List Char)
  | matched (source : String) (elapsed : String)
  | dropped (count : Nat)
  | readerStopped (stream : String)
  | waitFailed (e : Failure)
  | exitedCleanly
  | callbackFailed (name : String)
  | spawning (command : String) (args : List String)
  | stepFailed (step : LaunchStep) (command : String)
  | setupFailed (command : String)
  | closeFailed (stream : String)
  | reapFailed (process : String)
  | openingShell (program : String)
  | openingRemote (destination : String)
  | openingPod (space pod : String)
  | starting (line : String)
  | startFailed (args : List String)
  | exited (args : List String) (status : Int)
  | standInExited (outcome : Option Failure)
  | endingStandIn (process : String)

namespace Record

/-- A list of texts in brackets, each in quotes. -/
def textList (ts : List String) : String := (Value.list (ts.map .text)).shown

/-- An outcome: nothing, or the failure. -/
def outcomeText (outcome : Option Failure) : String := outcome.elim "None" Failure.shown

def text : Record → String
  | sent data => "expecter DEBUG Sent: " ++ data.shown
  | received text => "expecter DEBUG Received: " ++ Text.quote text
  | matched source elapsed =>
    "expecter DEBUG Matched " ++ Text.quote source.toList ++ " after " ++ elapsed ++ " seconds"
  | dropped count => "expecter DEBUG Dropped " ++ toString count ++ " unmatched characters of output"
  | readerStopped stream => "expecter DEBUG Reader for " ++ stream ++ " stopped"
  | waitFailed e => "expecter DEBUG Process wait failed: " ++ e.shown
  | exitedCleanly => "expecter DEBUG Process exited cleanly"
  | callbackFailed name => "channel ERROR Exit channel callback <callback " ++ name ++ "> failed"
  | spawning command args => "spawner DEBUG Spawning " ++ command ++ " " ++ textList args
  | stepFailed step command => "spawner DEBUG " ++ step.name ++ "() failed for " ++ command
  | setupFailed command => "spawner DEBUG Session setup failed for " ++ command
  | closeFailed stream => "spawner DEBUG Failed to close " ++ stream
  | reapFailed process => "spawner DEBUG Reaping " ++ process ++ " after failed setup"
  | openingShell program => "shell DEBUG Spawning shell " ++ program
  | openingRemote destination => "shell DEBUG Spawning ssh session to " ++ destination
  | openingPod space pod => "shell DEBUG Spawning oc session in " ++ space ++ "/" ++ pod
  | starting line => "spawn_func.exec DEBUG Starting " ++ line
  | startFailed args => "spawn_func.exec DEBUG Failed to start " ++ textList args
  | exited args status =>
    "spawn_func.exec DEBUG " ++ textList args ++ " exited with " ++ toString status
  | standInExited outcome => "test.spawn_func DEBUG Fake process exited with " ++ outcomeText outcome
  | endingStandIn process => "pytest_plugin DEBUG Exiting " ++ process ++ " on teardown"

end Record

end Dialogue
