import Dialogue.Pattern.Backtracking
import Dialogue.Proofs.Runs
import Dialogue.Rehearsal
/-!
# Rehearsals as settings

A session with a stand-in is linked to a `Company`, and every cue is a move of that setting, so that
what holds of runs in every setting holds of rehearsals (`Rehearsal.life_eq`).
-/

namespace Dialogue

/-- Something done to the stand-in that puts nothing on record. -/
def Company.aside (f : StandIn → Except Failure Unit × StandIn) : Move Company :=
  .outside fun c =>
    let (outcome, c) := Company.leadPart.on f c
    (outcome, [], c)

/-- What a cue does. -/
def Cue.move : Cue → Move Company
  | .command name args => Company.aside fun x => (.ok (), x.command name args)
  | .step .inputPipe => Company.aside StandIn.inputPipe
  | .step .outputPipe => Company.aside StandIn.outputPipe
  | .step .start => Company.aside StandIn.start
  | .feed bytes => Company.aside (StandIn.feed bytes)
  | .finish => Company.aside fun x => (.ok (), x.finish)
  | .exit e => .outside fun c =>
    let (records, lead) := c.lead.exit e
    (.ok (), records, { c with lead })
  | .write bytes => Company.aside (StandIn.write bytes)
  | .closeInput => Company.aside StandIn.closeInput
  | .closeOutput => Company.aside StandIn.closeOutput
  | .session cue => .session cue

theorem Company.wait_eq {awaited : Bool} {hookError : Option (Option Failure)} {wait : Wait Company}
    (hw : wait ∈ (link awaited hookError).wait) : wait = leadPart.onWait StandIn.wait := by
  cases awaited with
  | false => simp [link] at hw
  | true => exact (Option.some.inj hw).symm

/-- Only a stand-in that has not exited goes on. -/
theorem Company.poll_none {c : Company} (h : ((leadPart.onWait StandIn.wait).poll c).1 = none) : ¬ c.lead.exited := by
  have hpoll : (if c.lead.exited then some (StandIn.failing c.lead.exitError) else none) = none := h
  intro hexited
  simp [hexited] at hpoll

def Company.setting (awaited : Bool) (hookError : Option (Option Failure)) : Setting Company Cue where
  link := Company.link awaited hookError
  moves := Cue.move
  wait_discreet := by
    intro wait hw w
    rw [Company.wait_eq hw]
    rfl
  moves_discreet := by
    intro m f hm w
    cases m with
    | step s =>
      cases s <;> (simp only [Cue.move, Company.aside, Move.outside.injEq] at hm; rw [← hm]; rfl)
    | session cue => simp [Cue.move] at hm
    | _ =>
      simp only [Cue.move, Company.aside, Move.outside.injEq] at hm
      rw [← hm]
      rfl

namespace Rehearsal

theorem act_eq {T : Type} (cue : Cue) (st : Stage T Company) : act cue st = cue.move.make st := by
  have haside (f : StandIn → Except Failure Unit × StandIn) :
      onLead f st = (Company.aside f).make st := by
    simp [onLead, Company.aside, Move.make, Stage.act, Desk.act, Stage.actNoting, Desk.actNoting]
  cases cue with
  | step s => cases s <;> exact haside _
  | exit e => rfl
  | session cue => rfl
  | _ => exact haside _

/-- A rehearsal goes on like any session in its setting. -/
theorem life_eq {T : Type} (awaited : Bool) (hookError : Option (Option Failure)) :
    (life : Life T (Stage T Company) Cue) = (Company.setting awaited hookError).life := by
  simp only [life, Setting.life, Stage.lifeWith]
  congr
  funext _ cue st
  exact act_eq cue st

/-- An engine that knows no character by its name. -/
def engine : Pattern.Engine := .backtracking fun _ => none

end Rehearsal

end Dialogue
