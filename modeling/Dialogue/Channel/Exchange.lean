import Dialogue.Channel
/-!
# Channels and tasks

A channel on its own, with the tasks that await its exit. A task runs only when the main line gives
way: `Exchange.progress` starts the fresh ones, lets the woken ones take the exit, and ends those that
were cancelled. A task that was cancelled before it took the exit does not get it any more.
-/

namespace Dialogue

/-- A task that awaits the exit. -/
inductive Awaiting where
  | fresh
  | waiting
  | cancelling
  | cancelled
  | finished (exit : Exit)

structure Exchange where
  channel : Channel := {}
  /-- By name; the number of a task is its place. -/
  tasks : List (String × Awaiting) := []
  log : List Record := []

namespace Exchange

/-- What can be done to an exchange without waiting. -/
inductive Move where
  | fulfil (exit : Exit)
  | subscribe (callback : Callback)
  | await (name : String)
  | cancel (name : String)

/-- Cancels the latest task of that name, unless it has ended. -/
def cancel (name : String) (tasks : List (String × Awaiting)) : List (String × Awaiting) :=
  let rec go : List (String × Awaiting) → List (String × Awaiting)
    | [] => []
    | (n, t) :: rest =>
      if n == name then
        match t with
        | .fresh | .waiting => (n, .cancelling) :: rest
        | _ => (n, t) :: rest
      else (n, t) :: go rest
  (go tasks.reverse).reverse

def act (m : Move) (x : Exchange) : Except Failure Unit × Exchange :=
  match m with
  | .fulfil exit =>
    let (outcome, records, channel) := x.channel.fulfil exit
    (outcome, { x with channel, log := x.log ++ records })
  | .subscribe callback =>
    let (outcome, channel) := x.channel.subscribe callback
    (outcome, { x with channel })
  | .await name => (.ok (), { x with tasks := x.tasks ++ [(name, .fresh)] })
  | .cancel name => (.ok (), { x with tasks := cancel name x.tasks })

/-- One task's turn; `n` is its number. -/
def turn (n : Nat) (task : Awaiting) (c : Channel) : Awaiting × Channel :=
  match task with
  | .fresh =>
    match c.exit with
    | some exit => (.finished exit, c)
    | none => (.waiting, (c.subscribe (.waker n)).2)
  | .waiting =>
    match c.exit with
    | some exit => if c.woken.contains n then (.finished exit, c) else (.waiting, c)
    | none => (.waiting, c)
  | .cancelling => (.cancelled, c)
  | ended => (ended, c)

/-- Every task's turn, in the order of their numbers from `n` on. -/
def turns : Nat → List (String × Awaiting) → Channel → List (String × Awaiting) × Channel
  | _, [], c => ([], c)
  | n, (name, task) :: rest, c =>
    let (task, c) := turn n task c
    let (rest, c) := turns (n + 1) rest c
    ((name, task) :: rest, c)

def progress (x : Exchange) : Exchange :=
  let (tasks, channel) := turns 0 x.tasks x.channel
  { x with tasks, channel }

/-- An exchange has no background work. -/
def life (T : Type) : Life T Exchange Move where
  settle _ x := x
  act _ := act

end Exchange

end Dialogue
