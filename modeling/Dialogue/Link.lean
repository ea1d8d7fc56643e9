import Dialogue.Record
import Dialogue.Stream.Output
/-!
# Links

What a session needs of the process at the other end, over a world `σ` that holds it: one stream to
write to, one to read from, and a way to wait for the exit.
-/

namespace Dialogue

/-- How the exit of a process is awaited. -/
structure Wait (σ : Type) where
  /-- Done once, when the wait begins. -/
  begin : σ → σ
  /-- Nothing while the process goes on; then how the wait ends, and what that puts on record. -/
  poll : σ → Option (Except Failure Unit) × List Record × σ

structure Link (σ : Type) where
  write : List UInt8 → σ → Except Failure Unit × σ
  flush : σ → Except Failure Unit × σ
  closeInput : σ → Except Failure Unit × σ
  /-- Closes the session's side in place of closing the input. -/
  hook : Option (σ → Except Failure Unit × σ) := none
  read : Nat → σ → Chunk × σ
  closeOutput : σ → Except Failure Unit × σ
  /-- More than the number of reads that can give something before one waits or is at the end. -/
  remaining : σ → Nat
  inputName : σ → String
  outputName : σ → String
  wait : Option (Wait σ) := none

namespace Link

/-- What closing the session does. -/
def hangUp {σ : Type} (l : Link σ) : σ → Except Failure Unit × σ := l.hook.getD l.closeInput

/-- No process: nothing is ever read, and nothing can be written. -/
def idle {σ : Type} : Link σ where
  write _ w := (.error .sessionClosed, w)
  flush w := (.ok (), w)
  closeInput w := (.ok (), w)
  read _ w := (.blocked, w)
  closeOutput w := (.ok (), w)
  remaining _ := 0
  inputName _ := ""
  outputName _ := ""

end Link

/-- A part of a world, to look at and to replace. -/
structure Part (τ σ : Type) where
  get : τ → σ
  put : σ → τ → τ

namespace Part

variable {τ σ : Type} (p : Part τ σ)

/-- An operation on the part, as one on the world. -/
def on {α : Type} (f : σ → α × σ) (w : τ) : α × τ :=
  let (a, s) := f (p.get w)
  (a, p.put s w)

def onWait (wait : Wait σ) : Wait τ where
  begin w := p.put (wait.begin (p.get w)) w
  poll w :=
    let (outcome, records, s) := wait.poll (p.get w)
    (outcome, records, p.put s w)

/-- The link to a process that is part of a larger world. -/
def onLink (l : Link σ) : Link τ where
  write bytes := p.on (l.write bytes)
  flush := p.on l.flush
  closeInput := p.on l.closeInput
  hook := l.hook.map p.on
  read n := p.on (l.read n)
  closeOutput := p.on l.closeOutput
  remaining w := l.remaining (p.get w)
  inputName w := l.inputName (p.get w)
  outputName w := l.outputName (p.get w)
  wait := l.wait.map p.onWait

end Part

end Dialogue
