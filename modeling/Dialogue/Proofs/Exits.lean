import Dialogue.Launch.Program
import Dialogue.Proofs.Callbacks
import Dialogue.Proofs.EndOfOutput
import Dialogue.Proofs.Reached
/-!
# The exit of a session that waits for it

A session with a wait has two background tasks at one channel. Only the waiter publishes the exit, once, and
what it publishes is how the wait ended (`exit_told_once`): `Attended` says what the waiter has come to, and
every step either leaves all of that alone (`Apart`), or is the waiter's, or subscribes a callback.
-/

namespace Dialogue

variable {T σ M : Type}

/-- The exit that the end of a wait is. A failure that is no ordinary one is none. -/
def Exit.ofOutcome? : Except Failure Unit → Option Exit
  | .ok _ => some none
  | .error e => if e.isOrdinary then some (some e) else none

/-! ## Sessions that begin -/

/-- The same stage with a tape that is still empty. -/
def Stage.onTape (S : Setting σ M) (st : Stage T σ) : Stage T (Taped σ M) :=
  { st.toDesk.onTape with session := { st.session with link := S.link.taped } }

theorem OffTape.onTape {S : Setting σ M} {st : Stage T σ} (h : st.session.link = S.link) :
    OffTape S Eq st.session.conduct st.session.conduct.bufferSize st.session.conduct.bufferSize_pos (st.onTape S) st := by
  refine ⟨rfl, rfl, rfl, rfl, ?_⟩
  rw [← h]
  rfl

theorem Stage.begin_ok {session : Session T σ} {d : Desk σ} {st : Stage T σ} (hawaited : session.link.wait.isSome)
    (h : begin session d = (.ok (), st)) :
    ∃ starts, st = { d with starts, session := { session with reader := .ready, waiter := .ready } } := by
  obtain ⟨e, -, heq⟩ | ⟨-, ⟨e, -, heq⟩ | ⟨-, heq⟩⟩ := begin_cases session hawaited d
  all_goals rw [heq] at h
  · cases h
  · cases h
  · exact ⟨_, (Prod.mk.inj h).2.symm⟩

/-- A session of the setting has just begun: at any desk, or with a program that was launched. -/
inductive Setting.Begins [Moment T] (S : Setting σ M) : Scene T (Stage T σ) M → Prop
  | direct {s : Scene T (Stage T σ) M} (c : Conduct T) (timeout : Span T) (d : Desk σ)
    (h : Stage.begin (.ofLink S.link c timeout s.now) d = (.ok (), s.world)) : S.Begins s
  | launched {H : Type} {l : Launcher σ H} (hlink : ∀ h, l.link h = S.link) (program : Program) (c : Conduct T)
    (timeout : Span T) {s s' : Scene T (Stage T σ) M}
    (h : Stage.run S.life l program c timeout s = (.ok (), s')) : S.Begins s'

theorem Setting.Begins.world_eq [Moment T] {S : Setting σ M} (hawaited : S.link.wait.isSome)
    {s : Scene T (Stage T σ) M} (h : S.Begins s) : ∃ (c : Conduct T) (timeout : Span T) (d : Desk σ),
      s.world = { d with session :=
        { Session.ofLink S.link c timeout s.now with reader := .ready, waiter := .ready } } := by
  cases h with
  | direct c timeout d h =>
    obtain ⟨starts, heq⟩ := Stage.begin_ok hawaited h
    exact ⟨c, timeout, { d with starts }, heq⟩
  | @launched H l hlink program c timeout s₀ _ h =>
    simp only [Stage.run, Stage.spawn] at h
    split at h
    · simp at h
    · next handle desk _ =>
      split at h
      · next world hbegin =>
        obtain rfl := (Prod.mk.inj h).2
        rw [hlink] at hbegin
        obtain ⟨starts, heq⟩ := Stage.begin_ok hawaited hbegin
        exact ⟨c, timeout, { desk with starts }, heq⟩
      · split at h <;> simp at h

/-! ## What the waiter has come to -/

/-- The waiter is at some point, with so many waits begun, these ended, and the channel like this. -/
inductive Attended : Task → Nat → List (Except Failure Unit) → Channel → Prop
  | ready {c : Channel} (hexit : c.exit = none) : Attended .ready 0 [] c
  | waiting {c : Channel} (hexit : c.exit = none) : Attended .waiting 1 [] c
  | told {c : Channel} {outcome : Except Failure Unit} {exit : Exit} (houtcome : Exit.ofOutcome? outcome = some exit)
    (hdone : c.Done exit) : Attended .ended 1 [outcome] c
  | untold {c : Channel} {outcome : Except Failure Unit} (houtcome : Exit.ofOutcome? outcome = none)
    (hexit : c.exit = none) : Attended .ended 1 [outcome] c

namespace Attended

variable {waiter : Task} {begun : Nat} {endings : List (Except Failure Unit)} {c : Channel}

theorem begun_eq (h : Attended waiter begun endings c) : begun = if waiter = .ready then 0 else 1 := by
  cases h <;> rfl

theorem ne_idle (h : Attended waiter begun endings c) : waiter ≠ .idle := by
  cases h <;> nofun

theorem length_eq (h : Attended waiter begun endings c) : endings.length = if waiter = .ended then 1 else 0 := by
  cases h <;> rfl

/-- The exit is how the wait ended. -/
theorem exit_eq (h : Attended waiter begun endings c) : c.exit = endings.head?.bind Exit.ofOutcome? := by
  cases h with
  | ready hexit => exact hexit
  | waiting hexit => exact hexit
  | told houtcome hdone => simp [houtcome, hdone.exit]
  | untold houtcome hexit => simp [houtcome, hexit]

/-- As long as the waiter lives nothing is published. -/
theorem pending (h : Attended waiter begun endings c) (halive : waiter.isAlive) : c.exit = none := by
  cases h with
  | ready hexit => exact hexit
  | waiting hexit => exact hexit
  | told => simp [Task.isAlive] at halive
  | untold => simp [Task.isAlive] at halive

theorem of_ready (h : Attended waiter begun endings c) (hready : waiter = .ready) :
    begun = 0 ∧ endings = [] ∧ c.exit = none := by
  subst hready
  cases h with
  | ready hexit => exact ⟨rfl, rfl, hexit⟩

theorem of_waiting (h : Attended waiter begun endings c) (hwaiting : waiter = .waiting) :
    begun = 1 ∧ endings = [] ∧ c.exit = none := by
  subst hwaiting
  cases h with
  | waiting hexit => exact ⟨rfl, rfl, hexit⟩

theorem subscribe (h : Attended waiter begun endings c) (callback : Callback) :
    Attended waiter begun endings (c.subscribe callback).2 := by
  have henlisted (hexit : c.exit = none) : (c.subscribe callback).2.exit = none := by
    simp [Channel.subscribe, Channel.isDone, Channel.enlist, hexit]
  cases h with
  | ready hexit => exact .ready (henlisted hexit)
  | waiting hexit => exact .waiting (henlisted hexit)
  | told houtcome hdone =>
    apply told houtcome
    rw [hdone.subscribe]
    exact callback.run_done hdone
  | untold houtcome hexit => exact .untold houtcome (henlisted hexit)

/-- Callbacks do not change the exit. -/
theorem subscribe_exit (h : Attended waiter begun endings c) (callback : Callback) :
    (c.subscribe callback).2.exit = c.exit := by
  rw [(h.subscribe callback).exit_eq, h.exit_eq]

end Attended

/-- What the waiter of a stage on tape has come to. -/
abbrev Stage.Attended (st : Stage T (Taped σ M)) : Prop :=
  Dialogue.Attended st.session.waiter st.process.begun st.process.endings st.session.channel

/-! ## Steps apart from the waiter -/

/-- Nothing that the waiter and its channel are about has changed. -/
structure Apart (st st' : Stage T (Taped σ M)) : Prop where
  begun : st'.process.begun = st.process.begun
  endings : st'.process.endings = st.process.endings
  waiter : st'.session.waiter = st.session.waiter
  channel : st'.session.channel = st.session.channel
  link : st'.session.link = st.session.link

namespace Apart

variable {S : Setting σ M} {st st' st'' : Stage T (Taped σ M)}

theorem refl (st : Stage T (Taped σ M)) : Apart st st := ⟨rfl, rfl, rfl, rfl, rfl⟩

theorem trans (h : Apart st st') (h' : Apart st' st'') : Apart st st'' :=
  ⟨h'.begun.trans h.begun, h'.endings.trans h.endings, h'.waiter.trans h.waiter, h'.channel.trans h.channel,
    h'.link.trans h.link⟩

theorem attended (h : Apart st st') (ha : st.Attended) : st'.Attended := by
  unfold Stage.Attended
  rwa [h.begun, h.endings, h.waiter, h.channel]

/-! ### The reader -/

variable (hlink : st.session.link = S.link.taped)
include hlink

theorem readChunk : Apart st st.readChunk.2 := by
  unfold Stage.readChunk
  rw [hlink]
  exact ⟨rfl, rfl, rfl, rfl, rfl⟩

theorem endReading (hawaited : S.link.wait.isSome) : Apart st st.endReading := by
  cases hf : st.session.decoder.finish with
  | none =>
    rw [Stage.endReading_of_none st hf]
    exact ⟨rfl, rfl, rfl, rfl, rfl⟩
  | some tail =>
    -- Where the exit is waited for, its end is not the end of the output.
    have hwait : st.session.link.wait.isNone = false := by
      rw [hlink]
      simpa [Link.taped] using hawaited
    rw [Stage.endReading_of_some st hf, hwait, Bool.false_and, if_neg Bool.false_ne_true]
    unfold Stage.ended
    rw [hlink]
    exact ⟨rfl, rfl, rfl, rfl, rfl⟩

theorem readOnce (hawaited : S.link.wait.isSome) (now : T) : Apart st (st.readOnce now) := by
  have hread : st.readChunk.2.session.link = S.link.taped := hlink
  refine (readChunk hlink).trans ?_
  by_cases hgo : st.readChunk.1.goesOn st.session.decoder
  · obtain ⟨b, bs, text, decoder, -, -, heq⟩ := Stage.readOnce_of_goesOn now hgo
    rw [heq, Stage.takeIn_eq]
    exact ⟨rfl, rfl, rfl, rfl, rfl⟩
  by_cases hstops : st.readChunk.1.stops st.session.decoder
  · rcases Stage.takeChunk_of_stops st.readChunk.2 now hstops with heq | heq
    · rw [Stage.readOnce, heq]
      exact endReading hread hawaited
    · have hnoted (r : Record) : Apart st.readChunk.2 (st.readChunk.2.note r) := ⟨rfl, rfl, rfl, rfl, rfl⟩
      rw [Stage.readOnce, heq]
      exact (hnoted _).trans (endReading ((hnoted _).link.trans hread) hawaited)
  · rw [Stage.readOnce_of_blocked now (Chunk.eq_blocked hgo hstops)]
    exact ⟨rfl, rfl, rfl, rfl, rfl⟩

theorem runReader (hawaited : S.link.wait.isSome) (now : T) : Apart st (st.runReader now) := by
  have hreadOn (fuel : Nat) : Apart st (st.readOn now fuel) := by
    induction fuel generalizing st with
    | zero => exact .refl st
    | succ fuel ih =>
      have hread := readOnce hlink hawaited now
      rw [Stage.readOn_succ]
      split
      · exact hread.trans (ih (hread.link.trans hlink))
      · exact hread
  unfold Stage.runReader
  split
  · exact hreadOn _
  · exact .refl st

/-! ### The caller and the surroundings -/

omit hlink in
theorem act {α : Type} {f : Taped σ M → α × Taped σ M} (hbegun : (f st.process).2.begun = st.process.begun)
    (hendings : (f st.process).2.endings = st.process.endings) : Apart st (st.act f).2 :=
  ⟨hbegun, hendings, rfl, rfl, rfl⟩

theorem send (data : Payload) : Apart st (st.send data).2 := by
  rcases st.send_cases data with heq | ⟨noted, bytes, hnoted, hsent⟩
  · rw [heq]
    exact .refl st
  · have hnoted : Apart st noted := by
      rcases hnoted with rfl | rfl <;> exact ⟨rfl, rfl, rfl, rfl, rfl⟩
    have hwritten : Apart st (noted.act (S.link.taped.write bytes)).2 := hnoted.trans (.act rfl rfl)
    rw [hlink] at hsent
    rcases hsent with heq | heq
    · rwa [heq]
    · rw [heq]
      exact hwritten.trans (.act rfl rfl)

theorem close : Apart st st.close.2 := by
  simp only [Stage.close]
  split
  · exact .refl st
  · have hhangUp (w : Taped σ M) : (st.session.link.hangUp w).2.begun = w.begun ∧
        (st.session.link.hangUp w).2.endings = w.endings := by
      rw [hlink]
      simp only [Link.hangUp, Link.taped, Part.onLink]
      cases S.link.hook <;> exact ⟨rfl, rfl⟩
    have hclosed : Apart st { st with session := { st.session with closed := true } } := ⟨rfl, rfl, rfl, rfl, rfl⟩
    exact hclosed.trans (.act (hhangUp _).1 (hhangUp _).2)

omit hlink in
theorem outside {m : M} {f : Taped σ M → Except Failure Unit × List Record × Taped σ M}
    (hm : S.taped.moves m = .outside f) : Apart st (st.actNoting f).2 := by
  simp only [Setting.taped] at hm
  cases hmove : S.moves m with
  | session cue => simp [hmove, Move.taped] at hm
  | outside g =>
    rw [hmove] at hm
    obtain rfl := Move.outside.inj hm
    exact ⟨rfl, rfl, rfl, rfl, rfl⟩

end Apart

/-! ## The waiter -/

namespace Stage

variable {S : Setting σ M} {st : Stage T (Taped σ M)}

theorem endWaiting_attended {outcome : Except Failure Unit} (hexit : st.session.channel.exit = none)
    (hbegun : st.process.begun = 1) (hendings : st.process.endings = [outcome]) :
    (st.endWaiting outcome).Attended := by
  obtain ⟨hprocess, -⟩ := st.endWaiting_frame outcome
  unfold Stage.Attended
  rw [hprocess, hbegun, hendings]
  cases outcome with
  | ok _ => exact .told rfl (Channel.fulfil_done hexit none)
  | error e =>
    simp only [endWaiting]
    split
    · next he => exact .told (if_pos he) (Channel.fulfil_done hexit (some e))
    · next he => exact .untold (if_neg he) hexit

theorem pollExit_attended (wait : Wait σ) (hexit : st.session.channel.exit = none)
    (hbegun : st.process.begun = 1) (hendings : st.process.endings = []) :
    (st.pollExit wait.taped).Attended := by
  have hpolled : (st.actNoting wait.taped.poll).2.process.endings = (st.actNoting wait.taped.poll).1.toList := by
    have hadded : (st.actNoting wait.taped.poll).2.process.endings =
        st.process.endings ++ (st.actNoting wait.taped.poll).1.toList := rfl
    rwa [hendings] at hadded
  have hsession : (st.actNoting wait.taped.poll).2.session = st.session := rfl
  have hbegun' : (st.actNoting wait.taped.poll).2.process.begun = 1 := hbegun
  simp only [pollExit]
  split
  · next outcome st' heq =>
    rw [heq] at hpolled hsession hbegun'
    exact endWaiting_attended (hsession ▸ hexit) hbegun' hpolled
  · next st' heq =>
    rw [heq] at hpolled hsession hbegun'
    unfold Stage.Attended
    rw [hbegun', hpolled]
    exact .waiting (hsession ▸ hexit)

theorem runWaiter_attended (hlink : st.session.link = S.link.taped) (h : st.Attended) : st.runWaiter.Attended := by
  have hwait : st.session.link.wait = S.link.wait.map Wait.taped := by
    rw [hlink]
    rfl
  simp only [runWaiter, hwait]
  cases S.link.wait with
  | none => exact h
  | some wait =>
    cases hwaiter : st.session.waiter with
    | ready =>
      obtain ⟨hbegun, hendings, hexit⟩ := h.of_ready hwaiter
      refine pollExit_attended wait ?_ ?_ ?_
      · exact hexit
      · exact congrArg (· + 1) hbegun
      · exact hendings
    | waiting =>
      obtain ⟨hbegun, hendings, hexit⟩ := h.of_waiting hwaiter
      exact pollExit_attended wait hexit hbegun hendings
    | idle => exact h
    | ended => exact h

end Stage

/-! ## What is reached -/

section
variable {S : Setting σ M} {tape tape' : Stage T (Taped σ M)}

/-- What a caller does leaves the exit as it is. -/
theorem Stage.Attended.perform (h : tape.Attended) (hlink : tape.session.link = S.link.taped) (cue : SessionCue) :
    (tape.perform cue).2.Attended ∧ (tape.perform cue).2.session.channel.exit = tape.session.channel.exit := by
  cases cue with
  | send data =>
    have hapart := Apart.send hlink data
    exact ⟨hapart.attended h, congrArg Channel.exit hapart.channel⟩
  | close =>
    have hapart := Apart.close hlink
    exact ⟨hapart.attended h, congrArg Channel.exit hapart.channel⟩
  | subscribe callback => exact ⟨h.subscribe callback, h.subscribe_exit callback⟩

theorem Stage.Attended.move (h : tape.Attended) (hlink : tape.session.link = S.link.taped) (m : M) :
    ((S.taped.moves m).make tape).2.session.channel.exit = tape.session.channel.exit := by
  cases hm : S.taped.moves m with
  | session cue => exact (h.perform hlink cue).2
  | outside f => rfl

variable [Moment T]

theorem Stage.Attended.reached (h : tape.Attended) (hlink : tape.session.link = S.link.taped)
    (hawaited : S.link.wait.isSome) {t₀ t : T} {l : List (Match T)} (hreached : Reached S.taped t₀ tape t l tape') :
    tape'.Attended := by
  induction hreached with
  | start => exact h
  | pass _ _ ih => exact ih
  | read _ hr ih => exact (Apart.readOnce (hr.link_eq hlink) hawaited _).attended ih
  | watch hr ih => exact runWaiter_attended (hr.link_eq hlink) ih
  | perform cue hr ih => exact (ih.perform (hr.link_eq hlink) cue).1
  | outside hm _ ih => exact (Apart.outside hm).attended ih
  | calm _ ih => exact ih
  | consume _ _ _ ih => exact ih

/-- An exit that is known never changes. -/
theorem Stage.Attended.exit_stays (h : tape.Attended) (hlink : tape.session.link = S.link.taped)
    (hawaited : S.link.wait.isSome) {exit : Exit} (hexit : tape.session.channel.exit = some exit) {t₀ t : T}
    {l : List (Match T)} (hreached : Reached S.taped t₀ tape t l tape') : tape'.session.channel.exit = some exit := by
  have hsteady : Steady S.taped fun (_ : T) _ st => tape.process.endings <+: st.process.endings :=
    .of_process (Q := fun (w : Taped σ M) => tape.process.endings <+: w.endings)
      (fun htouch hprefix => hprefix.trans htouch.tape.2.2) (fun _ _ hprefix => hprefix) (fun _ hprefix => hprefix)
  -- The wait that ended stays the first on tape, and the exit is still how it ended.
  obtain ⟨more, hmore⟩ := (hsteady.reached ⟨hlink, List.prefix_rfl⟩ hreached).2
  rw [h.exit_eq, Option.bind_eq_some_iff] at hexit
  obtain ⟨outcome, hhead, houtcome⟩ := hexit
  rw [(h.reached hlink hawaited hreached).exit_eq, ← hmore, List.head?_append, hhead, Option.some_or]
  exact houtcome

end

/-! ## Stand-ins -/

namespace Company

/-- What the stand-in tells of the waits on tape: `waits` were begun before, and none has ended but that it has
exited. -/
structure Waited (waits : Nat) (w : Taped Company Cue) : Prop where
  waits : w.process.lead.waits = waits + w.begun
  exited : w.endings ≠ [] → w.process.lead.exited

variable {awaited : Bool} {hookError : Option (Option Failure)} {waits : Nat}

/-- What the surroundings do to a stand-in is no wait for it, and it does not come back. -/
theorem waited_of_move {cue : Cue} {f : Company → Except Failure Unit × List Record × Company}
    (hmove : cue.move = .outside f) (c : Company) :
    (f c).2.2.lead.waits = c.lead.waits ∧ (c.lead.exited → (f c).2.2.lead.exited) := by
  have hfinish (x : StandIn) : x.finish.waits = x.waits ∧ x.finish.exited = x.exited := by
    unfold StandIn.finish
    split <;> exact ⟨rfl, rfl⟩
  cases cue with
  | session cue => simp [Cue.move] at hmove
  | feed bytes =>
    obtain rfl := Move.outside.inj hmove
    have hfed : (StandIn.feed bytes c.lead).2.waits = c.lead.waits ∧
        (StandIn.feed bytes c.lead).2.exited = c.lead.exited := by
      unfold StandIn.feed
      split <;> exact ⟨rfl, rfl⟩
    exact ⟨hfed.1, fun h => hfed.2.trans h⟩
  | finish =>
    obtain rfl := Move.outside.inj hmove
    exact ⟨(hfinish c.lead).1, fun h => (hfinish c.lead).2.trans h⟩
  | exit e =>
    obtain rfl := Move.outside.inj hmove
    exact ⟨(hfinish c.lead).1, fun _ => rfl⟩
  | step s => cases s <;> (obtain rfl := Move.outside.inj hmove; exact ⟨rfl, id⟩)
  | _ =>
    obtain rfl := Move.outside.inj hmove
    exact ⟨rfl, id⟩

theorem Waited.touch {w w' : Taped Company Cue} (h : Waited waits w)
    (htouch : (setting awaited hookError).taped.Touch w w') : Waited waits w' := by
  cases htouch with
  | none => exact h
  | write => exact ⟨h.waits, h.exited⟩
  | flush => exact ⟨h.waits, h.exited⟩
  | hangUp => cases hookError <;> exact ⟨h.waits, h.exited⟩
  | begin hw =>
    obtain ⟨wait, hwait, rfl⟩ := Option.map_eq_some_iff.1 hw
    rw [wait_eq hwait]
    exact ⟨congrArg (· + 1) h.waits, h.exited⟩
  | poll hw =>
    obtain ⟨wait, hwait, rfl⟩ := Option.map_eq_some_iff.1 hw
    rw [wait_eq hwait]
    refine ⟨h.waits, fun hended => ?_⟩
    -- The wait has ended just now only if the stand-in has exited.
    have hpoll : ((leadPart.onWait StandIn.wait).taped.poll w).2.2.endings =
        w.endings ++ (if w.process.lead.exited then some (StandIn.failing w.process.lead.exitError) else none).toList :=
      rfl
    by_cases hexited : w.process.lead.exited
    · exact hexited
    · rw [hpoll, if_neg hexited, Option.toList_none, List.append_nil] at hended
      exact h.exited hended
  | @outside cue g hm =>
    have hm : cue.move.taped cue = .outside g := hm
    cases hmove : cue.move with
    | session cue => simp [hmove, Move.taped] at hm
    | outside f =>
      rw [hmove, Move.taped, Move.outside.injEq] at hm
      subst hm
      obtain ⟨hwaits, hexited⟩ := waited_of_move hmove w.process
      exact ⟨hwaits.trans h.waits, fun hended => hexited (h.exited hended)⟩

theorem Waited.steady {T : Type} [Moment T] :
    Steady (setting awaited hookError).taped fun (_ : T) _ st => Waited waits st.process :=
  .of_process (fun htouch h => h.touch htouch) (fun _ _ h => ⟨h.waits, h.exited⟩) (fun _ h => ⟨h.waits, h.exited⟩)

end Company

/-! ## The exit is told once -/

variable [Moment T] {S : Setting σ M} {t : T} {tape : Stage T (Taped σ M)} {st : Stage T σ}

/-- What holds of a stage `st` at a time `t`, if `tape` is the same stage on tape. -/
structure ToldOnce (S : Setting σ M) (t : T) (tape : Stage T (Taped σ M)) (st : Stage T σ) : Prop where
  /-- The wait is begun once, when the waiter first goes on. -/
  begun : tape.process.begun = if st.session.waiter = .ready then 0 else 1
  ended : tape.process.endings.length = if st.session.waiter = .ended then 1 else 0
  /-- The exit is how the wait ended. -/
  exit : st.session.channel.exit = tape.process.endings.head?.bind Exit.ofOutcome?
  /-- As long as the wait goes on, who publishes is not refused. -/
  accepted : st.session.waiter.isAlive → ∀ exit,
    (st.fulfil exit).1 ≠ .error .alreadyFulfilled ∧ (st.fulfil exit).2.session.channel.exit = some exit
  /-- The waiter publishes no more after the wait has ended. -/
  spent : st.session.waiter = .ended → st.runWaiter = st
  /-- Nobody else publishes. -/
  reader : (st.runReader t).session.channel = st.session.channel
  caller : ∀ cue, (st.perform cue).2.session.channel.exit = st.session.channel.exit
  surroundings : ∀ m, ((S.moves m).make st).2.session.channel.exit = st.session.channel.exit
  /-- An exit that is known never changes. -/
  final : ∀ exit, st.session.channel.exit = some exit → ∀ t' l st', Reached S t st t' l st' →
    st'.session.channel.exit = some exit
  /-- In a session that has settled the wait has ended, unless the process goes on. -/
  settled : (st.settle t).session.waiter = .ended ∨ (st.settle t).session.waiter = .waiting ∧
    ∃ wait ∈ S.link.wait, ∃ w, (wait.poll w).1 = none ∧ (wait.poll w).2.2 = (st.settle t).process

theorem Setting.Begins.attended {s : Scene T (Stage T σ) M} (h : S.Begins s) (hawaited : S.link.wait.isSome) :
    s.world.session.link = S.link ∧ (s.world.onTape S).Attended := by
  obtain ⟨c, timeout, d, hworld⟩ := h.world_eq hawaited
  rw [hworld]
  exact ⟨rfl, .ready rfl⟩

theorem Stage.Attended.toldOnce {c : Conduct T} (h : tape.Attended)
    (hoff : OffTape S Eq c c.bufferSize c.bufferSize_pos tape st) (hawaited : S.link.wait.isSome) :
    ToldOnce S t tape st := by
  have hlogs {log log' : List Record} (records : List Record) (heq : log = log') : log ++ records = log' ++ records := by
    rw [heq]
  have hwaiter : st.session.waiter = tape.session.waiter := by rw [hoff.session]
  have hchannel : st.session.channel = tape.session.channel := by rw [hoff.session]
  have hlink : st.session.link = S.link := by rw [hoff.session]
  constructor
  case begun =>
    rw [hwaiter]
    exact h.begun_eq
  case ended =>
    rw [hwaiter]
    exact h.length_eq
  case exit =>
    rw [hchannel]
    exact h.exit_eq
  case accepted =>
    intro halive exit
    have hpending : st.session.channel.exit = none := by
      rw [hchannel]
      exact h.pending (hwaiter ▸ halive)
    exact ⟨Channel.fulfil_accepted hpending exit, (Channel.fulfil_done hpending exit).exit⟩
  case spent =>
    intro hended
    obtain ⟨wait, hwait⟩ := Option.isSome_iff_exists.1 hawaited
    simp only [runWaiter, hlink, hwait, hended]
  case reader =>
    have hread := hoff.runReader t
    rw [hchannel, hread.session]
    exact (Apart.runReader hoff.link hawaited t).channel
  case caller =>
    intro cue
    have hcaller := (hoff.perform hlogs cue).2
    rw [hchannel, hcaller.session]
    exact (h.perform hoff.link cue).2
  case surroundings =>
    intro m
    have hmove := (hoff.move hlogs m).2
    rw [hchannel, hmove.session]
    exact h.move hoff.link m
  case final =>
    intro exit hexit t' l st' hst'
    obtain ⟨tape', htape', hoff'⟩ := hoff.reached hst'
    have hchannel' : st'.session.channel = tape'.session.channel := by rw [hoff'.session]
    rw [hchannel']
    exact h.exit_stays hoff.link hawaited (hchannel ▸ hexit) htape'
  case settled =>
    obtain ⟨wait, hwait⟩ := Option.isSome_iff_exists.1 hawaited
    have hread := hoff.runReader t
    have hwait' : (st.runReader t).session.link.wait = some wait := by
      rw [hread.session]
      exact hwait
    have hstarted : (st.runReader t).session.waiter ≠ .idle := by
      rw [hread.session, (Apart.runReader hoff.link hawaited t).waiter]
      exact h.ne_idle
    rcases runWaiter_polled hwait' hstarted with hended | ⟨hwaiting, hpolled⟩
    · exact .inl hended
    · exact .inr ⟨hwaiting, wait, hwait, hpolled⟩

theorem Setting.Begins.toldOnce {s : Scene T (Stage T σ) M} (h : S.Begins s) (hawaited : S.link.wait.isSome)
    {l : List (Match T)} (hst : Reached S s.now s.world t l st) :
    ∃ tape, Reached S.taped s.now (s.world.onTape S) t l tape ∧
      OffTape S Eq s.world.session.conduct s.world.session.conduct.bufferSize s.world.session.conduct.bufferSize_pos
        tape st ∧ ToldOnce S t tape st := by
  obtain ⟨hlink, hattended⟩ := h.attended hawaited
  obtain ⟨tape, htape, hoff⟩ := (OffTape.onTape hlink).reached hst
  exact ⟨tape, htape, hoff, (hattended.reached rfl hawaited htape).toldOnce hoff hawaited⟩

/-- A stand-in is waited for once, and the wait ends when it exits. -/
theorem Company.waited_once {hookError : Option (Option Failure)} {waits : Nat} {st : Stage T Company}
    {tape tape' : Stage T (Taped Company Cue)} (h : ToldOnce (setting true hookError) t tape st)
    (h' : ToldOnce (setting true hookError) t tape' (st.settle t))
    (htape' : (st.settle t).process = tape'.process.process) (hwaited : Waited waits tape'.process) :
    (st.settle t).process.lead.waits = waits + 1 ∧
      ((st.settle t).session.waiter = .ended ↔ (st.settle t).process.lead.exited) := by
  have hbegun := h'.begun
  have hended := h'.ended
  rcases h.settled with hwaiter | ⟨hwaiter, wait, hw, c, hpoll, hc⟩
  · simp only [hwaiter, reduceCtorEq, if_true, if_false] at hbegun hended ⊢
    rw [htape', hwaited.waits, hbegun]
    refine ⟨rfl, ?_⟩
    simp only [true_iff]
    apply hwaited.exited
    exact List.ne_nil_of_length_pos (by omega)
  · rw [wait_eq hw] at hpoll hc
    have hgoesOn : ¬ (st.settle t).process.lead.exited := by
      rw [← hc]
      exact poll_none hpoll
    simp only [hwaiter, reduceCtorEq, if_false] at hbegun
    simp only [hwaiter, reduceCtorEq, false_iff]
    refine ⟨?_, hgoesOn⟩
    rw [htape', hwaited.waits, hbegun]

/-- **The exit of a session that waits for it.** However such a session began, and whatever happens in whatever
order: the wait is begun once, its end is published by the waiter alone, and nothing else is ever published. What
has begun and ended of waits is read off a tape. What runs come to can be reached. A session with a stand-in that
has settled has waited once, and the wait has ended if and only if the stand-in has exited. -/
theorem exit_told_once (S : Setting σ M) (hawaited : S.link.wait.isSome) {s : Scene T (Stage T σ) M}
    (hbegins : S.Begins s) :
    (∀ t l st, Reached S s.now s.world t l st →
      ∃ tape, Reached S.taped s.now (s.world.onTape S) t l tape ∧
        OffTape S Eq s.world.session.conduct s.world.session.conduct.bufferSize s.world.session.conduct.bufferSize_pos
          tape st ∧ ToldOnce S t tape st) ∧
    (∀ deeds, Reached S s.now s.world (Deed.run S.life deeds s).2.now (Deed.allTaken S.life deeds s)
      (Deed.run S.life deeds s).2.world) ∧
    ∀ (hookError : Option (Option Failure)) (s : Scene T (Stage T Company) Cue),
      (Company.setting true hookError).Begins s →
      ∀ t l st, Reached (Company.setting true hookError) s.now s.world t l st →
        (st.settle t).process.lead.waits = s.world.process.lead.waits + 1 ∧
        ((st.settle t).session.waiter = .ended ↔ (st.settle t).process.lead.exited) := by
  refine ⟨fun t l st hst => hbegins.toldOnce hawaited hst, fun deeds => Reached.run deeds s, ?_⟩
  intro hookError s hbegins t l st hst
  obtain ⟨tape, -, -, htold⟩ := hbegins.toldOnce rfl hst
  obtain ⟨tape', htape', hoff, htold'⟩ := hbegins.toldOnce rfl hst.settle
  have hnew : Company.Waited s.world.process.lead.waits (s.world.onTape (Company.setting true hookError)).process :=
    ⟨rfl, (absurd rfl ·)⟩
  have hwaited := (Company.Waited.steady.reached ⟨rfl, hnew⟩ htape').2
  exact Company.waited_once htold htold' hoff.process hwaited

namespace Rehearsal

/-- A session with a command that was launched. -/
def farewell : Scene Int (Stage Int Company) Cue :=
  (Stage.run (Company.setting true none).life Company.launcher (.command "cat" []) (reading .utf8) ⟨5, .none⟩
    (Stage.scene {} (reading .utf8) ⟨5, .none⟩ 0 fun _ => none)).2

/-- The output of the process ends, and later it exits with a failure. -/
def parted : Scene Int (Stage Int Company) Cue :=
  (Deed.run (Company.setting true none).life
    [.move .finish, .settle, .move (.exit (some .processNotStarted)), .settle] farewell).2

/-- A process that exits again with another failure is not heard. -/
theorem farewell_told_once :
    let life : Life Int (Stage Int Company) Cue := (Company.setting true none).life
    let ended := (Deed.run life [.move .finish, .settle] farewell).2
    let last := (Deed.run life [.move (.exit (some .sessionClosed)), .settle] parted).2
    (Company.setting true none).link.wait.isSome ∧ (Company.setting true none).Begins farewell ∧
      ended.world.session.eof = true ∧ ended.world.session.channel.isDone = false ∧
      parted.world.session.channel.exit.map (·.map Failure.kind) = some (some "ProcessNotStarted") ∧
      last.world.process.lead.exitError.map Failure.kind = some "SessionClosed" ∧
      last.world.session.channel.exit = parted.world.session.channel.exit := by
  intro life ended last
  have hbegun : (Stage.run life Company.launcher (.command "cat" []) (reading .utf8) ⟨5, .none⟩
      (Stage.scene {} (reading .utf8) ⟨5, .none⟩ 0 fun _ => none)).1 = .ok () := rfl
  have hbegins : (Company.setting true none).Begins farewell :=
    .launched (l := Company.launcher) (fun _ => rfl) (.command "cat" []) (reading .utf8) ⟨5, .none⟩ (Prod.ext hbegun rfl)
  have hdone : parted.world.session.channel.exit.isSome := by decide +kernel
  obtain ⟨exit, hexit⟩ := Option.isSome_iff_exists.1 hdone
  obtain ⟨hstages, hruns, -⟩ := exit_told_once (Company.setting true none) rfl hbegins
  obtain ⟨tape, -, -, htold⟩ := hstages _ _ _
    (hruns [.move .finish, .settle, .move (.exit (some .processNotStarted)), .settle])
  refine ⟨rfl, hbegins, by decide +kernel, by decide +kernel, by decide +kernel, by decide +kernel, ?_⟩
  have htold : ToldOnce (Company.setting true none) parted.now tape parted.world := htold
  have hlast := Reached.run (S := Company.setting true none) [.move (.exit (some .sessionClosed)), .settle] parted
  rw [hexit]
  exact htold.final exit hexit _ _ _ hlast

end Rehearsal

end Dialogue
