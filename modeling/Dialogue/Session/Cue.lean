import Dialogue.Session.Send
/-!
# Cues

What can be done to a session without waiting, so that it can be arranged for some time.
-/

namespace Dialogue

inductive SessionCue where
  | send (data : Payload)
  | close
  | subscribe (callback : Callback)

namespace Stage

variable {T σ : Type}

def perform : SessionCue → Stage T σ → Except Failure Unit × Stage T σ
  | .send data, st => st.send data
  | .close, st => st.close
  | .subscribe callback, st => st.subscribe callback

/-- A session goes on by its background work; `act` is what else can be done in its world. -/
def lifeWith {M : Type} (act : M → Stage T σ → Except Failure Unit × Stage T σ) :
    Life T (Stage T σ) M where
  settle := settle
  act _ := act

/-- A session with nobody else in its world. -/
def life : Life T (Stage T σ) SessionCue := lifeWith perform

/-- A scene in which no session has begun. -/
def scene {M : Type} (process : σ) (conduct : Conduct T) (timeout : Span T) (start : T)
    (refusal : Nat → Option Failure) : Scene T (Stage T σ) M where
  now := start
  agenda := []
  faults := []
  world := { process, refusal, session := .ofLink .idle conduct timeout start }

end Stage

end Dialogue
