import Dialogue.Session.Expect
/-!
# Sending, closing and batches

What a session does to the input of its process, and batches of steps: a batch is its steps one
after the other, up to the first that fails.
-/

namespace Dialogue

/-- What can be sent. -/
inductive Payload where
  | text (s : String)
  | bytes (bs : List UInt8)
deriving Inhabited

namespace Payload

def toValue : Payload → Value
  | text s => .text s
  | bytes bs => .bytes bs

/-- The bytes that are sent: bytes as they are, text in the encoding. -/
def encode (e : Encoding) : Payload → Except Failure (List UInt8)
  | text s =>
    match e.encode s.toList with
    | .ok out => .ok out
    | .error u => .error (.unencodable u)
  | bytes bs => .ok bs

end Payload

/-- A step of a batch. -/
inductive Step (T : Type) where
  | send (data : Payload)
  | expect (target : Target) (limit : Option (Span T))
  | expectAny (targets : List Target) (limit : Option (Span T))
  /-- Something that is no step. -/
  | unknown (v : Value)

namespace Stage

variable {T σ M : Type}

/-- Sends data to the process: nothing once the session is closed, and nothing of a text that cannot
be encoded. -/
def send (data : Payload) (st : Stage T σ) : Except Failure Unit × Stage T σ :=
  if st.session.closed then (.error .sessionClosed, st)
  else
    match data.encode st.session.conduct.encoding with
    | .error e => (.error e, st)
    | .ok bytes =>
      let st := if st.session.conduct.verbose then st.note (.sent data.toValue) else st
      match st.act (st.session.link.write bytes) with
      | (.error e, st) => (.error e, st)
      | (.ok _, st) => st.act st.session.link.flush

/-- Closes the session: only the first time does anything, and the session is closed even if it
fails. -/
def close (st : Stage T σ) : Except Failure Unit × Stage T σ :=
  if st.session.closed then (.ok (), st)
  else
    let st := { st with session := { st.session with closed := true } }
    st.act st.session.link.hangUp

variable [Moment T]

/-- One step: the results it adds. -/
def doStep (life : Life T (Stage T σ) M) (step : Step T) (s : Scene T (Stage T σ) M) :
    Except Failure (List (Match T)) × Scene T (Stage T σ) M :=
  match step with
  | .send data =>
    let (outcome, world) := s.world.send data
    (outcome.map fun _ => [], { s with world })
  | .expect target limit =>
    let (outcome, s) := expectAny life [target] limit s
    (outcome.map ([·]), s)
  | .expectAny targets limit =>
    let (outcome, s) := expectAny life targets limit s
    (outcome.map ([·]), s)
  | .unknown v => (.error (.unknownStep v), s)

/-- Steps in order, up to the first that fails: the results of the steps that wait for patterns. -/
def batch (life : Life T (Stage T σ) M) : List (Step T) → Scene T (Stage T σ) M →
    Except Failure (List (Match T)) × Scene T (Stage T σ) M
  | [], s => (.ok [], s)
  | step :: steps, s =>
    match doStep life step s with
    | (.error e, s) => (.error e, s)
    | (.ok results, s) =>
      let (outcome, s) := batch life steps s
      (outcome.map (results ++ ·), s)

end Stage

end Dialogue
