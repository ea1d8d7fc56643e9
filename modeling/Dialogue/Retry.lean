import Dialogue.Failure
import Dialogue.Moment
/-!
# Retrying

A condition is polled until it holds or time is up. The first poll is made at once, the next one an
interval after the end of a poll that failed with time left; a poll that holds counts however late it
ends. Each poll may take time of its own.
-/

namespace Dialogue

/-- One poll: how long it takes, and what it answers. -/
structure Poll (T : Type) where
  cost : T
  answer : Except Failure Bool

/-- How retrying ended: with what, and when. -/
structure Retried (T : Type) where
  outcome : Except Failure Bool
  /-- When the polls began, in order. -/
  polled : List T
  now : T

/-- How many polls were made. -/
def Retried.calls {T : Type} (r : Retried T) : Nat := r.polled.length

namespace Retry

variable {T : Type} [Moment T]

/-- Gives up: an error, or just no. -/
def giveUp (limit : Span T) (raises : Bool) : Except Failure Bool :=
  if raises then .error (.conditionOverdue limit.written) else .ok false

/-- Polls on after the polls that began at the times `polled`; `fuel` is more than the number of polls
left. -/
def pollFrom (polls : Nat → Poll T) (limit : Span T) (interval : T) (raises : Bool) (started : T) :
    Nat → List T → T → Retried T
  | 0, polled, now => ⟨giveUp limit raises, polled, now⟩
  | fuel + 1, polled, now =>
    let poll := polls polled.length
    let polled := polled ++ [now]
    if poll.cost < 0 then ⟨.error .negativeSleep, polled, now⟩
    else
      let now := now + poll.cost
      match poll.answer with
      | .error e => ⟨.error e, polled, now⟩
      | .ok true => ⟨.ok true, polled, now⟩
      | .ok false =>
        if limit.length ≤ now - started then ⟨giveUp limit raises, polled, now⟩
        else if interval < 0 then ⟨.error .negativeSleep, polled, now⟩
        else pollFrom polls limit interval raises started fuel polled (now + interval)

/-- Polls until the condition holds or time is up. -/
def run (polls : Nat → Poll T) (limit : Span T) (interval : T) (raises : Bool) (now : T) :
    Retried T :=
  pollFrom polls limit interval raises now (2 * Moment.rounds limit.length interval + 4) [] now

end Retry

end Dialogue
