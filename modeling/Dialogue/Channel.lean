import Dialogue.Record
import Dialogue.Scene
/-!
# Exit channels

How a process ended is published once. A channel is pending until it is fulfilled with an exit; a
second attempt is refused and changes nothing. Callbacks that were subscribed before run at
fulfilment, in the order of their subscription, and one that fails does not keep the others from
running; a callback that is subscribed later runs at once.
-/

namespace Dialogue

/-- How a process ended: well, or with a failure. -/
abbrev Exit := Option Failure

mutual
/-- What is told of the exit: a listener, which takes it down and then acts, or a waiting task. -/
inductive Callback where
  | listener (name : String) (acts : Acts)
  | waker (task : Nat)

/-- What a listener does, one thing after the other. -/
inductive Acts where
  | done
  | raise (e : Failure)
  | subscribe (c : Callback) (rest : Acts)
  | fulfil (exit : Exit) (rest : Acts)
  /-- Acts whose failure the listener deals with, if it is an ordinary one. -/
  | attempt (acts rest : Acts)
end

instance : Inhabited Callback := ⟨.waker 0⟩

def Callback.name : Callback → String
  | listener name _ => name
  | waker task => "task " ++ toString task

structure Channel where
  /-- Nothing while it is pending. -/
  exit : Option Exit := none
  /-- The callbacks to run at fulfilment. -/
  waiting : List Callback := []
  /-- What listeners took down: their names and the state of the channel they saw. -/
  heard : List (String × Option Exit) := []
  /-- The tasks that were woken. -/
  woken : List Nat := []

namespace Channel

def isDone (c : Channel) : Bool := c.exit.isSome

/-- The channel as text. -/
def shown (c : Channel) : String :=
  match c.exit with
  | none => "ExitChannel(pending)"
  | some exit => "ExitChannel(value=" ++ Record.outcomeText exit ++ ")"

/-- Fixes the exit, and hands over the callbacks that now have to run. -/
def publish (exit : Exit) (c : Channel) : Except Failure (List Callback × Channel) :=
  match c.exit with
  | some _ => .error .alreadyFulfilled
  | none => .ok (c.waiting, { c with exit := some exit, waiting := [] })

/-- A callback has to wait for the exit. -/
def enlist (callback : Callback) (c : Channel) : Channel := { c with waiting := c.waiting ++ [callback] }

end Channel

mutual
/-- Runs a callback. Its failure is the caller's to deal with. -/
def Callback.run : Callback → Channel → Except Failure Unit × Channel
  | .listener name acts, c => acts.run { c with heard := c.heard ++ [(name, c.exit)] }
  | .waker task, c => (.ok (), { c with woken := c.woken ++ [task] })

/-- Acts up to the first failure that is not dealt with. A callback is only run once the exit is known,
so fulfilling again is refused. -/
def Acts.run : Acts → Channel → Except Failure Unit × Channel
  | .done, c => (.ok (), c)
  | .raise e, c => (.error e, c)
  | .subscribe callback rest, c =>
    match if c.isDone then callback.run c else (.ok (), c.enlist callback) with
    | (.ok _, c) => rest.run c
    | (.error e, c) => (.error e, c)
  | .fulfil exit rest, c =>
    match c.publish exit with
    | .ok (_, c) => rest.run c
    | .error e => (.error e, c)
  | .attempt acts rest, c =>
    match acts.run c with
    | (.ok _, c) => rest.run c
    | (.error e, c) => if e.isOrdinary then rest.run c else (.error e, c)
end

namespace Channel

/-- Subscribes a callback, or runs it if the exit is known. -/
def subscribe (callback : Callback) (c : Channel) : Except Failure Unit × Channel :=
  if c.isDone then callback.run c else (.ok (), c.enlist callback)

/-- Runs callbacks in order. An ordinary failure of one is put on record; any other ends the run. -/
def runAll : List Callback → Channel → Except Failure Unit × List Record × Channel
  | [], c => (.ok (), [], c)
  | callback :: rest, c =>
    match callback.run c with
    | (.ok _, c) => runAll rest c
    | (.error e, c) =>
      if e.isOrdinary then
        let (outcome, records, c) := runAll rest c
        (outcome, .callbackFailed callback.name :: records, c)
      else (.error e, [], c)

/-- Publishes the exit and runs the callbacks that wait for it. -/
def fulfil (exit : Exit) (c : Channel) : Except Failure Unit × List Record × Channel :=
  match c.publish exit with
  | .ok (waiting, c) => runAll waiting c
  | .error e => (.error e, [], c)

variable {T W M : Type} [Moment T]

/-- Waits until the exit is known, and gives it. `channel` is where the world keeps its channel. -/
def receive (channel : W → Channel) (life : Life T W M) (limit : Option (Span T))
    (s : Scene T W M) : Except Failure Exit × Scene T W M :=
  match (channel s.world).exit with
  | some exit => (.ok exit, s)
  | none =>
    let overdue := limit.elim Failure.blocked fun span => .exitOverdue span.written
    if limit.any (·.length ≤ 0) then (.error overdue, s)
    else
      let (_, s) := s.rest life (fun w => (channel w).isDone) (limit.map (s.now + ·.length))
      match (channel s.world).exit with
      | some exit => (.ok exit, s)
      | none => (.error overdue, s)

/-- Waits until the exit is known, and raises it if it is a failure. -/
def result (channel : W → Channel) (life : Life T W M) (limit : Option (Span T))
    (s : Scene T W M) : Except Failure Unit × Scene T W M :=
  match receive channel life limit s with
  | (.ok (some e), s) => (.error e, s)
  | (.ok none, s) => (.ok (), s)
  | (.error e, s) => (.error e, s)

end Channel

end Dialogue
