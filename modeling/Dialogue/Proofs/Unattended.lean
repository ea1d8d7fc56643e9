import Dialogue.Proofs.Callbacks
import Dialogue.Proofs.EndOfOutput
import Dialogue.Proofs.Reached
/-!
# The exit of a session that nobody waits for

Without a wait the exit is the end of the output: once that is known, the process counts as ended well, and
whoever asks for the exit is told so (`Rehearsal.exit_told_at_end`). The reader publishes the end first, closes
the stream and publishes the exit last, so that of a stream that refuses to be closed the end is known and the
exit never is (`Rehearsal.unclosed_never_told`).
-/

namespace Dialogue

variable {T σ M : Type}

/-! ## Closing the output -/

/-- Whether closing the output succeeds is settled from the beginning: nothing that is done to the process
changes it. -/
structure Setting.Closing (S : Setting σ M) (closes : σ → Bool) : Prop where
  outcome : ∀ w, (S.link.closeOutput w).1.isOk = closes w
  touch : ∀ {w w'}, S.Touch w w' → closes w' = closes w
  read : ∀ n w, closes (S.link.read n w).2 = closes w
  close : ∀ w, closes (S.link.closeOutput w).2 = closes w

/-- Whether an output can be closed without a failure. -/
def Output.closes : Output → Bool
  | .script s => s.closeError.isNone
  | .feed _ | .memory .. => true

theorem Output.isOk_close (o : Output) : o.close.1.isOk = o.closes := by
  cases o with
  | feed f => rfl
  | memory rest closed => rfl
  | script s => cases h : s.closeError <;> simp [close, closes, h, Except.isOk, Except.toBool]

theorem Output.closes_close (o : Output) : o.close.2.closes = o.closes := by
  cases o <;> rfl

theorem Output.closes_read (most : Option Nat) (o : Output) : (o.read most).2.closes = o.closes := by
  cases o with
  | feed f =>
    simp only [read]
    split <;> rfl
  | memory rest closed =>
    simp only [read]
    split <;> rfl
  | script s => cases h : s.items <;> simp [read, closes, h]

/-- What the surroundings do to a stand-in does not change whether its output can be closed. -/
theorem Company.closes_of_move {cue : Cue} {f : Company → Except Failure Unit × List Record × Company}
    (hmove : cue.move = .outside f) (c : Company) : (f c).2.2.lead.output.closes = c.lead.output.closes := by
  have hfinish (x : StandIn) : x.finish.output.closes = x.output.closes := by
    unfold StandIn.finish
    split
    · next hfeed => rw [hfeed]; rfl
    · rfl
  cases cue with
  | session cue => simp [Cue.move] at hmove
  | feed bytes =>
    obtain rfl := Move.outside.inj hmove
    have hfed : (StandIn.feed bytes c.lead).2.output.closes = c.lead.output.closes := by
      unfold StandIn.feed
      split
      · next hfeed => rw [hfeed]; rfl
      · rfl
    exact hfed
  | finish =>
    obtain rfl := Move.outside.inj hmove
    exact hfinish c.lead
  | exit e =>
    obtain rfl := Move.outside.inj hmove
    exact hfinish c.lead
  | closeOutput =>
    obtain rfl := Move.outside.inj hmove
    exact c.lead.output.closes_close
  | step s => cases s <;> (obtain rfl := Move.outside.inj hmove; rfl)
  | _ =>
    obtain rfl := Move.outside.inj hmove
    rfl

theorem Company.closing (hookError : Option (Option Failure)) :
    (setting false hookError).Closing fun c => c.lead.output.closes where
  outcome c := c.lead.output.isOk_close
  read n c := c.lead.output.closes_read (some n)
  close c := c.lead.output.closes_close
  touch htouch := by
    cases htouch with
    | none => rfl
    | write => rfl
    | flush => rfl
    | hangUp => cases hookError <;> rfl
    | begin hw => cases hw
    | poll hw => cases hw
    | outside hm => exact closes_of_move hm _

/-! ## Steps that leave the exit alone -/

/-- Nothing that the exit hangs on has changed. -/
structure Unmoved (closes : σ → Bool) (st st' : Stage T σ) : Prop where
  closes_eq : closes st'.process = closes st.process
  alive : st'.session.reader.isAlive → st.session.reader.isAlive
  eof : st'.session.eof = st.session.eof
  channel : st'.session.channel = st.session.channel

namespace Unmoved

variable {S : Setting σ M} {closes : σ → Bool} {st : Stage T σ} (hc : S.Closing closes)
  (hlink : st.session.link = S.link)
include hc hlink

theorem readChunk : Unmoved closes st st.readChunk.2 := by
  refine ⟨?_, id, rfl, rfl⟩
  unfold Stage.readChunk
  rw [hlink]
  exact hc.read _ _

theorem send (data : Payload) : Unmoved closes st (st.send data).2 := by
  rcases st.send_cases data with heq | ⟨noted, bytes, hnoted, hsent⟩
  · rw [heq]
    exact ⟨rfl, id, rfl, rfl⟩
  · have hsession : noted.session = st.session := by
      rcases hnoted with rfl | rfl <;> rfl
    have hwritten : closes (S.link.write bytes noted.process).2 = closes st.process := by
      rw [hc.touch (.write bytes noted.process)]
      rcases hnoted with rfl | rfl <;> rfl
    have hflushed := (hc.touch (.flush (S.link.write bytes noted.process).2)).trans hwritten
    rw [hlink] at hsent
    rcases hsent with heq | heq
    · rw [heq]
      exact ⟨hwritten, hsession ▸ id, congrArg Session.eof hsession, congrArg Session.channel hsession⟩
    · rw [heq]
      exact ⟨hflushed, hsession ▸ id, congrArg Session.eof hsession, congrArg Session.channel hsession⟩

theorem close : Unmoved closes st st.close.2 := by
  simp only [Stage.close]
  split
  · exact ⟨rfl, id, rfl, rfl⟩
  · refine ⟨?_, id, rfl, rfl⟩
    rw [hlink]
    exact hc.touch (.hangUp st.process)

end Unmoved

/-! ## What the reader has come to -/

/-- The exit is known once the output has ended and was closed, and not before. -/
structure Unattended (closes : σ → Bool) (st : Stage T σ) : Prop where
  /-- The output has not ended as long as the reader lives. -/
  open_alive : st.session.reader.isAlive → st.session.eof = false
  known : st.session.eof → closes st.process → st.session.channel.Done none
  unknown : ¬ (st.session.eof ∧ closes st.process) → st.session.channel.exit = none

namespace Unattended

variable {S : Setting σ M} {closes : σ → Bool} {st st' : Stage T σ}

theorem exit_eq (h : Unattended closes st) :
    st.session.channel.exit = if st.session.eof ∧ closes st.process then some none else none := by
  split
  · next htrue => exact (h.known htrue.1 htrue.2).exit
  · next hfalse => exact h.unknown hfalse

theorem not_ended (h : Unattended closes st) (halive : st.session.reader.isAlive) : ¬ st.session.eof := by
  rw [h.open_alive halive]
  exact Bool.false_ne_true

theorem pending (h : Unattended closes st) (halive : st.session.reader.isAlive) : st.session.channel.exit = none :=
  h.unknown fun hended => h.not_ended halive hended.1

theorem unmoved (h : Unattended closes st) (hu : Unmoved closes st st') : Unattended closes st' := by
  constructor
  · intro halive
    rw [hu.eof]
    exact h.open_alive (hu.alive halive)
  · intro heof hcloses
    rw [hu.eof] at heof
    rw [hu.closes_eq] at hcloses
    rw [hu.channel]
    exact h.known heof hcloses
  · intro hnot
    rw [hu.eof, hu.closes_eq] at hnot
    rw [hu.channel]
    exact h.unknown hnot

/-- A callback that is subscribed does not change the exit. -/
theorem subscribe (h : Unattended closes st) (callback : Callback) : Unattended closes (st.subscribe callback).2 := by
  refine ⟨h.open_alive, ?_, ?_⟩
  · intro heof hcloses
    have hdone := h.known heof hcloses
    have hchannel : (st.subscribe callback).2.session.channel = (st.session.channel.subscribe callback).2 := rfl
    rw [hchannel, hdone.subscribe]
    exact callback.run_done hdone
  · intro hnot
    have hpending : st.session.channel.exit = none := h.unknown hnot
    simp [Stage.subscribe, Channel.subscribe, Channel.isDone, Channel.enlist, hpending]


theorem opened (closes : σ → Bool) (c : Conduct T) (timeout : Span T) (now : T) (agenda : List (Appointment T M))
    (d : Desk σ) : Unattended closes (S.opened c timeout now agenda d).world := by
  obtain ⟨starts, reader, waiter, heq, -⟩ := S.opened_world c timeout now agenda d
  rw [heq]
  exact ⟨fun _ => rfl, fun heof => absurd heof Bool.false_ne_true, fun _ => rfl⟩

section
variable (hc : S.Closing closes) (hunawaited : S.link.wait = none)
include hc hunawaited

/-- The end of the output is published, and with it the exit if the stream can be closed. -/
theorem endReading (hlink : st.session.link = S.link) (h : Unattended closes st)
    (halive : st.session.reader.isAlive) : Unattended closes st.endReading := by
  have hpending := h.pending halive
  cases hf : st.session.decoder.finish with
  | none =>
    rw [Stage.endReading_of_none st hf]
    exact ⟨(nomatch ·), fun heof _ => absurd heof (h.not_ended halive), fun _ => hpending⟩
  | some tail =>
    have houtcome : (st.session.link.closeOutput st.process).1.isOk = closes st.process := by
      rw [hlink]
      exact hc.outcome st.process
    have hclosed : closes (st.ended tail).process = closes st.process := by
      unfold Stage.ended
      rw [hlink]
      exact hc.close st.process
    rw [Stage.endReading_of_some st hf, houtcome, hlink, hunawaited, Option.isNone_none, Bool.true_and]
    split
    · next hcloses =>
      have hdone : ((st.ended tail).fulfil none).2.session.channel.Done none := Channel.fulfil_done hpending none
      exact ⟨(nomatch ·), fun _ _ => hdone, fun hnot => absurd ⟨rfl, hclosed.trans hcloses⟩ hnot⟩
    · next hcloses =>
      -- The close has failed after the end was published, and the exit is not published any more.
      rw [← hclosed] at hcloses
      exact ⟨(nomatch ·), fun _ htrue => absurd htrue hcloses, fun _ => hpending⟩

theorem readOnce (hlink : st.session.link = S.link) (h : Unattended closes st) (halive : st.session.reader.isAlive)
    (now : T) : Unattended closes (st.readOnce now) := by
  have hread := h.unmoved (.readChunk hc hlink)
  by_cases hgo : st.readChunk.1.goesOn st.session.decoder
  · obtain ⟨b, bs, text, decoder, -, -, heq⟩ := Stage.readOnce_of_goesOn now hgo
    rw [heq, Stage.takeIn_eq]
    exact hread.unmoved ⟨rfl, id, rfl, rfl⟩
  by_cases hstops : st.readChunk.1.stops st.session.decoder
  · rcases Stage.takeChunk_of_stops st.readChunk.2 now hstops with heq | heq
    · rw [Stage.readOnce, heq]
      exact endReading hc hunawaited hlink hread halive
    · have hnoted (r : Record) : Unattended closes (st.readChunk.2.note r) := hread.unmoved ⟨rfl, id, rfl, rfl⟩
      rw [Stage.readOnce, heq]
      exact endReading hc hunawaited hlink (hnoted _) halive
  · rw [Stage.readOnce_of_blocked now (Chunk.eq_blocked hgo hstops)]
    exact hread.unmoved ⟨rfl, fun _ => halive, rfl, rfl⟩

omit hunawaited in
theorem perform (hlink : st.session.link = S.link) (h : Unattended closes st) (cue : SessionCue) :
    Unattended closes (st.perform cue).2 := by
  cases cue with
  | send data => exact h.unmoved (.send hc hlink data)
  | close => exact h.unmoved (.close hc hlink)
  | subscribe callback => exact h.subscribe callback

variable [Moment T]

/-- What is known of the exit stays right, whatever happens. -/
theorem reached {t₀ t : T} {l : List (Match T)} (hlink : st.session.link = S.link) (h : Unattended closes st)
    (hreached : Reached S t₀ st t l st') : Unattended closes st' := by
  induction hreached with
  | start => exact h
  | pass _ _ ih => exact ih
  | read halive hr ih => exact readOnce hc hunawaited (hr.link_eq hlink) ih halive _
  | @watch _ _ st hr ih =>
    have hidle : st.runWaiter = st := by simp only [Stage.runWaiter, hr.link_eq hlink, hunawaited]
    rwa [hidle]
  | perform cue hr ih => exact perform hc (hr.link_eq hlink) ih cue
  | outside hm _ ih => exact ih.unmoved ⟨hc.touch (.outside hm _), id, rfl, rfl⟩
  | calm _ ih => exact ih.unmoved ⟨rfl, id, rfl, rfl⟩
  | consume _ _ _ ih => exact ih.unmoved ⟨rfl, id, rfl, rfl⟩

end

end Unattended

variable [Moment T]

/-- A stream that can be closed stays so, and one that cannot does too. -/
theorem Setting.Closing.reached {S : Setting σ M} {closes : σ → Bool} {st st' : Stage T σ} (hc : S.Closing closes)
    (hlink : st.session.link = S.link) {t₀ t : T} {l : List (Match T)} (hreached : Reached S t₀ st t l st') :
    closes st'.process = closes st.process := by
  have hsteady : Steady S fun (_ : T) _ st' => closes st'.process = closes st.process :=
    .of_process (Q := fun w => closes w = closes st.process) (fun htouch hw => (hc.touch htouch).trans hw)
      (fun n w hw => (hc.read n w).trans hw) (fun w hw => (hc.close w).trans hw)
  exact (hsteady.reached ⟨hlink, rfl⟩ hreached).2

/-! ## Asking for the exit -/

section
variable {W : Type} {channel : W → Channel} {life : Life T W M} {s : Scene T W M}

/-- Whoever demands the exit is answered as one who receives it, but that a failure is raised. -/
theorem Channel.result_eq (limit : Option (Span T)) : result channel life limit s =
    ((receive channel life limit s).1.bind fun exit => exit.elim (.ok ()) .error,
      (receive channel life limit s).2) := by
  simp only [result]
  split
  · next heq => rw [heq]; rfl
  · next heq => rw [heq]; rfl
  · next heq => rw [heq]; rfl

/-- Without a limit of time the answer is the exit, once it is known. -/
theorem Channel.receive_unlimited : (receive channel life none s).1 =
    match (channel (receive channel life none s).2.world).exit with
    | some exit => .ok exit
    | none => .error .blocked := by
  cases hexit : (channel s.world).exit with
  | some exit => simp [receive, hexit]
  | none =>
    simp only [receive, hexit, Option.any_none, Bool.false_eq_true, if_false, Option.map_none]
    split
    · next hnow => rw [hnow]
    · next hnow => simp [hnow]

theorem Channel.receive_known (hexit : (channel s.world).exit = some none) (limit : Option (Span T)) :
    receive channel life limit s = (.ok none, s) ∧ result channel life limit s = (.ok (), s) := by
  have hreceived : receive channel life limit s = (.ok none, s) := by simp only [receive, hexit]
  refine ⟨hreceived, ?_⟩
  rw [result_eq, hreceived]
  rfl

end

namespace Rehearsal

/-- **The end of the output is the exit.** In a session that nobody waits for, whatever its output is and whatever
happens, the exit is known if and only if the output has ended, and then the process has ended well; whoever asks
for it without a limit of time is answered, unless the output never ends. A stream that refuses to be closed is the
exception: its exit is never known, and who asks for it waits for ever. What runs come to can be reached. -/
theorem exit_told_at_end (hookError : Option (Option Failure)) (c : Conduct T) (timeout : Span T) (now : T)
    (agenda : List (Appointment T Cue)) (d : Desk Company) :
    let S := Company.setting false hookError
    let start := S.opened c timeout now agenda d
    let closes := d.process.lead.output.closes
    (∀ t l st, Reached S now start.world t l st →
      st.session.channel.exit = if st.session.eof ∧ closes then some none else none) ∧
    ∀ deeds, let last := (Deed.run S.life deeds start).2
      let received := Channel.receive (·.session.channel) S.life none last
      let demanded := Channel.result (·.session.channel) S.life none last
      Reached S now start.world last.now (Deed.allTaken S.life deeds start) last.world ∧
        (last.world.session.eof → closes → received = (.ok none, last) ∧ demanded = (.ok (), last)) ∧
        received.1 = (if received.2.world.session.eof ∧ closes then .ok none else .error .blocked) ∧
        demanded.1 = (if demanded.2.world.session.eof ∧ closes then .ok () else .error .blocked) := by
  intro S start closes
  have hlink : start.world.session.link = S.link := S.opened_link c timeout now agenda d
  have hc : S.Closing fun company => company.lead.output.closes := Company.closing hookError
  have hexit : ∀ t l st, Reached S now start.world t l st →
      st.session.channel.exit = if st.session.eof ∧ closes then some none else none := by
    intro t l st hst
    have hbegun := Unattended.opened (S := S) (fun company => company.lead.output.closes) c timeout now agenda d
    have hcloses := hc.reached hlink hst
    obtain ⟨_, _, _, hworld, -⟩ := S.opened_world c timeout now agenda d
    rw [(Unattended.reached hc rfl hlink hbegun hst).exit_eq, hcloses]
    simp only [start, hworld, closes]
  refine ⟨hexit, fun deeds => ?_⟩
  intro last received demanded
  have hlast : Reached S now start.world last.now (Deed.allTaken S.life deeds start) last.world := Reached.run deeds start
  have hknown := hexit _ _ _ hlast
  have hcall : Reached S now start.world received.2.now (Deed.allTaken S.life deeds start) received.2.world :=
    Reached.kept.receive none last hlast
  have hafter := hexit _ _ _ hcall
  have hreceived : received.1 = match received.2.world.session.channel.exit with
      | some exit => .ok exit
      | none => .error .blocked := Channel.receive_unlimited
  have hdemanded : demanded = (received.1.bind fun exit => exit.elim (.ok ()) .error, received.2) :=
    Channel.result_eq none
  refine ⟨hlast, ?_, ?_, ?_⟩
  · intro heof hcloses
    rw [if_pos ⟨heof, hcloses⟩] at hknown
    exact Channel.receive_known hknown none
  · rw [hreceived, hafter]
    by_cases hended : received.2.world.session.eof ∧ closes
    · simp only [if_pos hended]
    · simp only [if_neg hended]
  · rw [hdemanded, hreceived, hafter]
    by_cases hended : received.2.world.session.eof ∧ closes
    · simp only [if_pos hended]
      rfl
    · simp only [if_neg hended]
      rfl

/-- A session with a stand-in whose output is laid down and has some bytes, and may refuse to be closed. -/
def scripted (closeError : Option Failure) : Scene Int (Stage Int Company) Cue :=
  (Company.setting false none).opened (reading .utf8) ⟨5, .none⟩ 0 []
    { process := { lead := { output := .script { items := [.bytes [0x78]], closeError } } } }

theorem scripted_told :
    let life : Life Int (Stage Int Company) Cue := (Company.setting false none).life
    let last := (Deed.run life [.settle] (scripted none)).2
    Reached (Company.setting false none) 0 (scripted none).world last.now [] last.world ∧
      last.world.session.eof = true ∧ last.world.session.channel.exit = some none ∧
      (Channel.receive (·.session.channel) life none last).1 = .ok none := by
  intro life last
  obtain ⟨hexit, hruns⟩ := exit_told_at_end none (reading .utf8) ⟨5, .none⟩ 0 []
    { process := { lead := { output := .script { items := [.bytes [0x78]] } } } }
  have heof : last.world.session.eof = true := by decide +kernel
  obtain ⟨hlast, hknown, -, -⟩ := hruns [.settle]
  refine ⟨hlast, heof, ?_, ?_⟩
  · exact (hexit _ _ _ hlast).trans (if_pos ⟨heof, rfl⟩)
  · exact congrArg Prod.fst (hknown heof rfl).1

/-- The end of an output that refuses to be closed is known, its exit is not, and who asks for it waits for ever. -/
theorem unclosed_never_told :
    let life : Life Int (Stage Int Company) Cue := (Company.setting false none).life
    let last := (Deed.run life [.settle] (scripted (some (.ambient (.system .general) [])))).2
    Reached (Company.setting false none) 0 (scripted (some (.ambient (.system .general) []))).world last.now [] last.world ∧
      last.world.session.eof = true ∧ last.world.session.channel.isDone = false ∧
      (Channel.receive (·.session.channel) life none last).1.isOk = false := by
  refine ⟨Reached.run [.settle] (scripted (some (.ambient (.system .general) []))), ?_⟩
  decide +kernel

end Rehearsal

end Dialogue
