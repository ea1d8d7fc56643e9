import Dialogue.Proofs.Handles
/-!
# What a child is wired to

A program that is started gets on each side the end of the pipe whose other end was handed out there, and the null
device where no pipe was asked for. That holds as long as no turn in between has closed the ends that were meant for
the child (`Turn.bares`): a start that failed, or an output pipe that the system did not give. A handle can be started
after either of them, and then the program runs on the null device, while the stream of the pipe is in the hands of
the caller (`child_wired`, `wiring_forgotten`).
-/

namespace Dialogue

namespace Side

/-- The call that asks for the pipe on that side. -/
def call : Side → Handle.Call
  | input => .inputPipe
  | output => .outputPipe

/-- The making of a pipe, by its two ends: the one that the child gets and the one that is handed out. -/
def joint (childEnd stream : Fd) : Side → HostEvent
  | input => .pipe childEnd stream
  | output => .pipe stream childEnd

end Side

/-! ## Events -/

namespace Host

variable {s : Host}

theorem closeFd_events (fd : Fd) (s : Host) : (s.closeFd fd).events = s.events ++ [.close fd] := rfl

theorem closeStream_events (fd : Fd) (s : Host) : s.events <+: (s.closeStream fd).events := by
  unfold closeStream
  split
  · exact List.prefix_append _ _
  · exact List.prefix_refl _

/-- A pipe that is made is an event. -/
theorem makePipe_events (s : Host) : s.events <+: s.makePipe.2.events ∧
    ∀ r w, s.makePipe.1 = .ok (r, w) → .pipe r w ∈ s.makePipe.2.events := by
  simp only [makePipe]
  cases s.pipeFault (s.pipeCalls + 1) with
  | some e =>
    refine ⟨List.prefix_append _ _, ?_⟩
    intro r w hmade
    cases hmade
  | none =>
    refine ⟨List.prefix_append _ _, ?_⟩
    intro r w hmade
    cases hmade
    exact List.mem_append_right _ List.mem_cons_self

theorem wrap_events (fd : Fd) (writing : Bool) (s : Host) : s.events <+: (s.wrap fd writing).2.events := by
  simp only [wrap]
  cases s.wrapFault (s.wrapCalls + 1) with
  | some e => exact List.prefix_refl _
  | none => exact List.prefix_append _ _

/-- A launch is an event, whether or not the program starts. -/
theorem launch_events (args : List String) (input output : Option Fd) (directory : Option String)
    (environment : Option (List (String × String))) (s : Host) :
    (s.launch args input output directory environment).2.events =
      s.events ++ [.launch args input output directory environment] := by
  simp only [launch]
  split
  · rfl
  · cases output <;> rfl

end Host

namespace Handle

variable {h : Handle} {s : Host}

/-- The end that the child gets on that side. -/
def childEnd : Side → Handle → Option Fd
  | .input, h => h.childInput
  | .output, h => h.childOutput

/-- The stream that was handed out on that side. -/
def stream : Side → Handle → Option Fd
  | .input, h => h.input
  | .output, h => h.output

theorem childEnd_mem {side : Side} {r : Fd} (hend : h.childEnd side = some r) : r ∈ h.childEnds := by
  unfold childEnds
  cases side with
  | input => exact List.mem_append_left _ (Option.mem_toList.2 hend)
  | output => exact List.mem_append_right _ (Option.mem_toList.2 hend)

theorem stream_mem {side : Side} {w : Fd} (hstream : h.stream side = some w) : w ∈ h.streams := by
  unfold streams
  cases side with
  | input => exact List.mem_append_left _ (Option.mem_toList.2 hstream)
  | output => exact List.mem_append_right _ (Option.mem_toList.2 hstream)

theorem closeChildEnds_events (h : Handle) (s : Host) :
    (h.closeChildEnds s).2.events = s.events ++ h.childEnds.map .close := by
  unfold closeChildEnds childEnds
  cases h.childInput with
  | none =>
    cases h.childOutput with
    | none => exact (List.append_nil _).symm
    | some w => exact Host.closeFd_events w s
  | some r =>
    cases h.childOutput with
    | none => exact Host.closeFd_events r s
    | some w =>
      have hboth : ((s.closeFd r).closeFd w).events = (s.events ++ [.close r]) ++ [.close w] := rfl
      rw [List.append_assoc] at hboth
      exact hboth

theorem closeStreams_events (h : Handle) (s : Host) : s.events <+: (h.closeStreams s).events := by
  unfold closeStreams
  cases h.input with
  | none =>
    cases h.output with
    | none => exact List.prefix_refl _
    | some r => exact Host.closeStream_events r s
  | some w =>
    cases h.output with
    | none => exact Host.closeStream_events w s
    | some r => exact (Host.closeStream_events w s).trans (Host.closeStream_events r _)

theorem acquireInput_events (h : Handle) (s : Host) : s.events <+: (h.acquireInput s).2.2.events ∧
    ∀ w, (h.acquireInput s).1 = .ok w → ∃ r, (h.acquireInput s).2.1.childInput = some r ∧
      .pipe r w ∈ (h.acquireInput s).2.2.events := by
  obtain ⟨hgrown, hmade⟩ := s.makePipe_events
  cases hmay : h.mayAcquire "stdin" "stdin_pipe()" h.input with
  | error e =>
    simp only [acquireInput, hmay]
    refine ⟨List.prefix_refl _, ?_⟩
    rintro w ⟨⟩
  | ok _ =>
    rcases hpipe : s.makePipe with ⟨e | ⟨r, w⟩, s₁⟩
    all_goals rw [hpipe] at hgrown hmade
    · simp only [acquireInput, hmay, hpipe]
      refine ⟨hgrown, ?_⟩
      rintro w ⟨⟩
    · have hwrapped := s₁.wrap_events w true
      rcases hwrap : s₁.wrap w true with ⟨e | ⟨⟩, s₂⟩
      all_goals
        rw [hwrap] at hwrapped
        simp only [acquireInput, hmay, hpipe, hwrap]
        refine ⟨hgrown.trans hwrapped, ?_⟩
        rintro fd ⟨⟩
      exact ⟨r, rfl, hwrapped.subset (hmade r w rfl)⟩

theorem acquireOutput_events (h : Handle) (s : Host) : s.events <+: (h.acquireOutput s).2.2.events ∧
    ∀ r, (h.acquireOutput s).1 = .ok r → ∃ w, (h.acquireOutput s).2.1.childOutput = some w ∧
      .pipe r w ∈ (h.acquireOutput s).2.2.events := by
  obtain ⟨hgrown, hmade⟩ := s.makePipe_events
  cases hmay : h.mayAcquire "stdout" "stdout_pipe()" h.output with
  | error e =>
    simp only [acquireOutput, hmay]
    refine ⟨List.prefix_refl _, ?_⟩
    rintro r ⟨⟩
  | ok _ =>
    rcases hpipe : s.makePipe with ⟨e | ⟨r, w⟩, s₁⟩
    all_goals rw [hpipe] at hgrown hmade
    · simp only [acquireOutput, hmay, hpipe]
      split
      · refine ⟨hgrown.trans ⟨_, (h.closeChildEnds_events s₁).symm⟩, ?_⟩
        rintro r ⟨⟩
      · refine ⟨hgrown, ?_⟩
        rintro r ⟨⟩
    · have hwrapped := s₁.wrap_events r false
      rcases hwrap : s₁.wrap r false with ⟨e | ⟨⟩, s₂⟩
      all_goals
        rw [hwrap] at hwrapped
        simp only [acquireOutput, hmay, hpipe, hwrap]
        refine ⟨hgrown.trans hwrapped, ?_⟩
        rintro fd ⟨⟩
      exact ⟨w, rfl, hwrapped.subset (hmade r w rfl)⟩

/-- A start that succeeds is one launch, with the ends that the child was to get; then they are closed. -/
theorem start_events (h : Handle) (s : Host) : s.events <+: (h.start s).2.2.2.events ∧
    ((h.start s).1 = .ok () → ∃ args, h.args = some args ∧ (h.start s).2.2.2.events = s.events ++
      .launch args h.childInput h.childOutput h.directory h.environment :: h.childEnds.map .close) := by
  rcases hargs : h.args with _ | args
  · simp only [start, hargs]
    refine ⟨List.prefix_refl _, ?_⟩
    rintro ⟨⟩
  rcases hprocess : h.process with _ | process
  · have hlaunched := s.launch_events args h.childInput h.childOutput h.directory h.environment
    rcases hlaunch : s.launch args h.childInput h.childOutput h.directory h.environment with ⟨e | child, s₁⟩
    all_goals rw [hlaunch] at hlaunched
    · simp only [start, hargs, hprocess, hlaunch]
      have hgrown : s.events <+: s₁.events := ⟨_, hlaunched.symm⟩
      refine ⟨?_, by rintro ⟨⟩⟩
      by_cases hordinary : e.isOrdinary
      · simp only [hordinary, if_true]
        exact (hgrown.trans (h.closeStreams_events s₁)).trans ⟨_, (h.closeChildEnds_events _).symm⟩
      · simp only [hordinary]
        exact hgrown.trans ⟨_, (h.closeChildEnds_events _).symm⟩
    · have hclosed := closeChildEnds_events
        { h with process := some (firstProcess + s₁.launches, child.status) } s₁
      simp only [start, hargs, hprocess, hlaunch] at hclosed ⊢
      rw [hclosed, hlaunched, List.append_assoc]
      refine ⟨List.prefix_append _ _, ?_⟩
      intro _
      exact ⟨args, rfl, rfl⟩
  · simp only [start, hargs, hprocess]
    refine ⟨List.prefix_refl _, ?_⟩
    rintro ⟨⟩

theorem map_some_eq {outcome : Except Failure Fd} {fd : Fd} (h : outcome.map some = .ok (some fd)) :
    outcome = .ok fd := by
  cases outcome with
  | error e => cases h
  | ok fd' => cases h; rfl

theorem map_none_eq {outcome : Except Failure Unit} (h : (outcome.map fun _ => (none : Option Fd)) = .ok none) :
    outcome = .ok () := by
  cases outcome with
  | error e => cases h
  | ok _ => rfl

/-- After a start that succeeds the ends that the child got are closed. -/
theorem Effect.live_of_started {h' : Handle} {l l' : Ledger} {o o' : Odds}
    (heffect : Effect h l o .start (.ok none) h' l' o') : l'.live = (l.closeAll h.childEnds).live := by
  cases heffect
  rfl

/-- Events are never taken back, and where a stream is handed out the pipe was made of which it is an end. -/
theorem serve_events (call : Call) (h : Handle) (s : Host) : s.events <+: (h.serve call s).2.2.events ∧
    ∀ side w, side.call = call → (h.serve call s).1 = .ok (some w) →
      ∃ r, (h.serve call s).2.1.childEnd side = some r ∧ side.joint r w ∈ (h.serve call s).2.2.events := by
  cases call with
  | inputPipe =>
    obtain ⟨hgrown, hmade⟩ := h.acquireInput_events s
    refine ⟨hgrown, ?_⟩
    intro side w hside hanswer
    cases side with
    | input => exact hmade w (map_some_eq hanswer)
    | output => cases hside
  | outputPipe =>
    obtain ⟨hgrown, hmade⟩ := h.acquireOutput_events s
    refine ⟨hgrown, ?_⟩
    intro side w hside hanswer
    cases side with
    | input => cases hside
    | output => exact hmade w (map_some_eq hanswer)
  | start =>
    refine ⟨(h.start_events s).1, ?_⟩
    intro side w hside
    cases side <;> cases hside
  | wait =>
    have hgrown : s.events <+: (h.wait s).2.2.2.events := by
      unfold wait
      split
      · exact List.prefix_refl _
      · split
        · exact List.prefix_refl _
        · exact List.prefix_append _ _
    refine ⟨hgrown, ?_⟩
    intro side w hside
    cases side <;> cases hside

end Handle

/-! ## One turn -/

namespace Turn

/-- Whether a turn has closed the ends that were meant for the child. -/
def bares (t : Turn) : Bool :=
  match t.call, t.answer with
  | .start, _ => true
  | .outputPipe, .error e => e.isSystem
  | _, _ => false

/-- Whether a turn has closed the streams that were handed out. -/
def forsakes (t : Turn) : Bool :=
  match t.call, t.answer with
  | .start, .error e => e.isOrdinary
  | _, _ => false

/-- What a turn does to one side of a handle that has no process: it hands out the stream, or it leaves the stream
as it is and may close the end of the child, or both ends. -/
inductive Rewires (side : Side) (t : Turn) (h h' : Handle) (l l' : Ledger) : Prop
  | acquired {r w : Fd} : t.got side.call → h.stream side = none → t.stream? = some w → h'.stream side = some w →
      h'.childEnd side = some r → w ∈ l'.live → Rewires side t h h' l l'
  | kept : t.got side.call = false → h'.stream side = h.stream side →
      h'.childEnd side = (if t.bares then none else h.childEnd side) →
      (∀ w, h.stream side = some w → (w ∈ l'.live ↔ w ∈ l.live ∧ t.forsakes = false)) → Rewires side t h h' l l'

variable {side : Side} {h h' : Handle} {s : Host} {l' : Ledger} {known : List Fd}

/-- The ends that the child was to get are none of the streams. -/
theorem live_closeAll {l : Ledger} (hc : Handle.Custody known h l) {w : Fd} (hw : h.stream side = some w) :
    w ∈ (l.closeAll h.childEnds).live ↔ w ∈ l.live := by
  rw [(l.closeAll_spec h.childEnds).1]
  apply and_iff_left
  intro hchild
  exact (List.nodup_append.1 hc.distinct).2.2 w hchild w (Handle.stream_mem hw) rfl

/-- The ends of a new pipe are none of the streams that were handed out before. -/
theorem live_grant {l : Ledger} (hc : Handle.Custody known h l) {w : Fd} (hw : h.stream side = some w) :
    w ∈ l.grant.live ↔ w ∈ l.live := by
  obtain ⟨hne, hne'⟩ := hc.balanced.next_ne (hc.streamObtained w (Handle.stream_mem hw))
  simp only [Ledger.grant, List.mem_append, List.mem_cons, List.not_mem_nil, or_false]
  constructor
  · rintro (hold | rfl | rfl)
    · exact hold
    · exact absurd rfl hne
    · exact absurd rfl hne'
  · exact .inl

/-- A turn that fails without an effect on the streams. -/
theorem rewires_bared {t : Turn} {l : Ledger} (hc : Handle.Custody known h l) (hgot : t.got side.call = false)
    (hstream : h'.stream side = h.stream side) (hend : h'.childEnd side = none) (hbares : t.bares)
    (hforsakes : t.forsakes = false) : Rewires side t h h' l (l.closeAll h.childEnds) := by
  refine .kept hgot hstream ?_ ?_
  · rw [hend, hbares, if_pos rfl]
  · intro w hw
    rw [live_closeAll hc hw, hforsakes]
    exact (and_iff_left rfl).symm

/-- Before there is a process only pipes that were acquired and waits are refused. -/
theorem unharmed_of_refused {call : Handle.Call} {e : Failure} (hrefused : h.standing.refusal? call = some e)
    (hargs : h.args.isSome) (hprocess : h.process = none) :
    bares ⟨call, s, .error e⟩ = false ∧ forsakes ⟨call, s, .error e⟩ = false := by
  cases call with
  | inputPipe => exact ⟨rfl, rfl⟩
  | outputPipe =>
    refine ⟨?_, rfl⟩
    simp only [Handle.Standing.refusal?, Handle.standing, hargs, hprocess] at hrefused
    cases htaken : h.output.isSome with
    | true => simp only [htaken] at hrefused; cases hrefused; rfl
    | false => simp only [htaken] at hrefused; cases hrefused
  | start =>
    simp only [Handle.Standing.refusal?, Handle.standing, hargs, hprocess] at hrefused
    cases hrefused
  | wait => exact ⟨rfl, rfl⟩

theorem rewires_untouched {t : Turn} {l : Ledger} (hgot : t.got side.call = false) (hbares : t.bares = false)
    (hforsakes : t.forsakes = false) (hstream : h'.stream side = h.stream side)
    (hend : h'.childEnd side = h.childEnd side)
    (hlive : ∀ w, h.stream side = some w → (w ∈ l'.live ↔ w ∈ l.live)) : Rewires side t h h' l l' := by
  refine .kept hgot hstream ?_ ?_
  · rw [hbares, hend]
    rfl
  · intro w hw
    rw [hforsakes, hlive w hw]
    exact (and_iff_left rfl).symm

theorem rewires_admitted {call : Handle.Call} {answer : Except Failure (Option Fd)} {o' : Odds}
    (hadmitted : h.standing.refusal? call = none) (heffect : h.Effect s.ledger s.odds call answer h' l' o')
    (hprocess : h'.process = none) (hfault : s.odds.stream 0 = none) (hc : Handle.Custody known h s.ledger) :
    Rewires side ⟨call, s, answer⟩ h h' s.ledger l' := by
  have hnot : (call == side.call && false) = false := Bool.and_false _
  have hnew : s.ledger.next ∈ s.ledger.grant.live ∧ s.ledger.next + 1 ∈ s.ledger.grant.live := by
    simp [Ledger.grant]
  cases heffect with
  | noInput => exact rewires_untouched hnot rfl rfl rfl rfl fun _ _ => Iff.rfl
  | inputUnwrapped _ hunwrapped => rw [hfault] at hunwrapped; cases hunwrapped
  | input =>
    have hinput := Handle.input_of_admitted hadmitted
    cases side with
    | input => exact .acquired rfl hinput rfl rfl rfl hnew.2
    | output => exact rewires_untouched rfl rfl rfl rfl rfl fun _ hw => live_grant hc hw
  | noOutput _ hsystem => cases side <;> exact rewires_bared hc hnot rfl rfl hsystem rfl
  | outputFault _ hsystem => exact rewires_untouched hnot hsystem rfl rfl rfl fun _ _ => Iff.rfl
  | outputUnwrapped _ hunwrapped => rw [hfault] at hunwrapped; cases hunwrapped
  | output =>
    have houtput := Handle.output_of_admitted hadmitted
    cases side with
    | input => exact rewires_untouched rfl rfl rfl rfl rfl fun _ hw => live_grant hc hw
    | output => exact .acquired rfl houtput rfl rfl rfl hnew.1
  | started number => cases hprocess
  | unstarted _ hordinary =>
    refine .kept hnot (by cases side <;> rfl) (by cases side <;> rfl) ?_
    intro w hw
    rw [(Ledger.closeAll_spec _ _).1, (Ledger.releaseAll_spec _ _).1]
    constructor
    · intro hopen
      exact absurd (Handle.stream_mem hw) hopen.1.2
    · intro hopen
      cases hordinary.symm.trans hopen.2
  | interrupted _ hordinary => cases side <;> exact rewires_bared hc hnot rfl rfl rfl hordinary
  | waited => cases side <;> exact rewires_untouched rfl rfl rfl rfl rfl fun _ _ => Iff.rfl

end Turn

/-! ## Runs -/

/-- What the past of a handle that has no process tells of one of its sides: if no stream was handed out there, there
is nothing; if one was, the handle has it, and it is open unless it was forsaken since, and the end of the child is
the other end of its pipe unless it was closed since. -/
structure Wired (side : Side) (past : List Turn) (h : Handle) (s : Host) : Prop where
  unasked : (∀ t ∈ past, t.got side.call = false) → h.stream side = none ∧ h.childEnd side = none
  asked : ∀ before t after, past = before ++ t :: after → t.got side.call → ∃ w, t.stream? = some w ∧
    h.stream side = some w ∧ (w ∈ s.ledger.live ↔ ∀ t' ∈ after, t'.forsakes = false) ∧
      if after.any Turn.bares then h.childEnd side = none
      else ∃ r, h.childEnd side = some r ∧ side.joint r w ∈ s.events

namespace Wired

variable {side : Side} {past : List Turn} {h h' : Handle} {s s' : Host} {t : Turn}

/-- One more turn. -/
theorem turn (hw : Wired side past h s) (hrewires : t.Rewires side h h' s.ledger s'.ledger)
    (hgrown : s.events <+: s'.events)
    (hmade : ∀ w, t.got side.call → t.stream? = some w → ∃ r, h'.childEnd side = some r ∧ side.joint r w ∈ s'.events) :
    Wired side (past ++ [t]) h' s' where
  unasked := by
    intro hnever
    cases hrewires with
    | acquired hgot =>
      rw [hnever t (List.mem_append_right _ List.mem_cons_self)] at hgot
      cases hgot
    | kept _ hstream hend =>
      obtain ⟨hnone, hnone'⟩ := hw.unasked fun t' ht' => hnever t' (List.mem_append_left _ ht')
      refine ⟨hstream.trans hnone, ?_⟩
      rw [hend, hnone', ite_self]
  asked := by
    intro before t' after heq hgot
    rcases List.eq_nil_or_concat after with rfl | ⟨after', last, rfl⟩
    -- The turn is the one that handed out the stream.
    · obtain ⟨-, hlast⟩ := List.append_inj' heq rfl
      obtain rfl : t = t' := List.head_eq_of_cons_eq hlast
      cases hrewires with
      | kept hnot =>
        rw [hnot] at hgot
        cases hgot
      | @acquired r w _ hfree hstream? hstream hend hlive =>
        refine ⟨w, hstream?, hstream, ⟨fun _ t' ht' => absurd ht' List.not_mem_nil, fun _ => hlive⟩, ?_⟩
        exact hmade w hgot hstream?
    · rw [List.concat_eq_append, ← List.cons_append, ← List.append_assoc] at heq
      obtain ⟨hpast, hlast⟩ := List.append_inj' heq rfl
      obtain rfl : t = last := List.head_eq_of_cons_eq hlast
      obtain ⟨w, hstream?, hstream, hlive, hend⟩ := hw.asked before t' after' hpast hgot
      cases hrewires with
      | acquired _ hfree =>
        rw [hfree] at hstream
        cases hstream
      | kept _ hstream' hend' hlive' =>
        refine ⟨w, hstream?, hstream'.trans hstream, ?_, ?_⟩
        · rw [hlive' w hstream, hlive, List.concat_eq_append, List.forall_mem_append]
          simp
        · rw [List.concat_eq_append, List.any_append, List.any_cons, List.any_nil, Bool.or_false, hend']
          cases hbares : t.bares with
          | true => simp
          | false =>
            rw [Bool.or_false]
            split at hend
            · next hclosed => simpa [hclosed] using hend
            · next hclosed =>
              obtain ⟨r, hr, hjoint⟩ := hend
              rw [if_neg hclosed]
              exact ⟨r, hr, hgrown.subset hjoint⟩

end Wired

namespace Dealing

open Handle

variable {args : List String} {s₀ : Host} {d : Dealing}

/-- As long as there is no process, each side is as the past tells. -/
def Unstarted (d : Dealing) : Prop := d.handle.process = none → ∀ side, Wired side d.past d.handle d.host

theorem Unstarted.of_new {directory : Option String} {environment : Option (List (String × String))} :
    Unstarted { handle := { args := some args, directory, environment }, host := s₀ } := by
  intro _ side
  refine ⟨fun _ => by cases side <;> exact ⟨rfl, rfl⟩, ?_⟩
  intro before t after hpast
  exact absurd hpast (by simp)

theorem Unstarted.serve (hu : d.Unstarted) (hf : Faithful (some args) s₀ d) (call : Call) :
    (d.serve call).Unstarted := by
  unfold Unstarted Dealing.serve
  intro hprocess side
  obtain ⟨hgrown, hjoint⟩ := serve_events call d.handle d.host
  have hmade (w : Fd) (hgot : Turn.got side.call ⟨call, d.host, (d.handle.serve call d.host).1⟩)
      (hstream? : Turn.stream? ⟨call, d.host, (d.handle.serve call d.host).1⟩ = some w) :
      ∃ r, (d.handle.serve call d.host).2.1.childEnd side = some r ∧
        side.joint r w ∈ (d.handle.serve call d.host).2.2.events := by
    have hcall := beq_iff_eq.1 (Bool.and_eq_true_iff.1 hgot).1
    apply hjoint side w hcall.symm
    cases hanswer : (d.handle.serve call d.host).1 with
    | error e => rw [hanswer] at hstream?; cases hstream?
    | ok fd => rw [hanswer] at hstream?; exact congrArg Except.ok hstream?
  cases hrule : d.handle.standing.refusal? call with
  | some e =>
    have hsame := serve_refused (s := d.host) hrule
    simp only [hsame] at hprocess hgrown hmade ⊢
    have hargs : d.handle.args.isSome := by rw [hf.args_eq]; rfl
    obtain ⟨hbares, hforsakes⟩ := Turn.unharmed_of_refused (s := d.host) hrule hargs hprocess
    exact (hu hprocess side).turn
      (Turn.rewires_untouched (Bool.and_false _) hbares hforsakes rfl rfl fun _ _ => Iff.rfl) hgrown hmade
  | none =>
    have heffect := serve_admitted (s := d.host) hrule
    have hbefore : d.handle.process = none := by
      rcases (Turn.tells_admitted hrule heffect).process with ⟨-, hsame⟩ | ⟨-, hnone, -⟩
      · exact hsame.symm.trans hprocess
      · exact hnone
    exact (hu hbefore side).turn (Turn.rewires_admitted hrule heffect hprocess (hf.streams 0) hf.custody) hgrown hmade

theorem Unstarted.run (hu : d.Unstarted) (hf : Faithful (some args) s₀ d) (calls : List Call) :
    (d.run calls).Unstarted := by
  induction calls generalizing d with
  | nil => exact hu
  | cons call calls ih => exact ih (hu.serve hf call) (hf.serve call)

/-- A handle keeps its directory and its environment. -/
theorem serve_place (call : Call) (d : Dealing) : (d.serve call).handle.directory = d.handle.directory ∧
    (d.serve call).handle.environment = d.handle.environment := by
  unfold Dealing.serve
  cases hrule : d.handle.standing.refusal? call with
  | some e =>
    rw [serve_refused hrule]
    exact ⟨rfl, rfl⟩
  | none =>
    obtain ⟨answer, h', s', l', o', hserve, -, -, heffect⟩ := serve_cases call d.handle d.host hrule
    rw [hserve]
    cases heffect <;> exact ⟨rfl, rfl⟩

theorem run_place (calls : List Call) (d : Dealing) : (d.run calls).handle.directory = d.handle.directory ∧
    (d.run calls).handle.environment = d.handle.environment := by
  induction calls generalizing d with
  | nil => exact ⟨rfl, rfl⟩
  | cons call calls ih =>
    obtain ⟨hdirectory, henvironment⟩ := serve_place call d
    obtain ⟨hdirectory', henvironment'⟩ := ih (d.serve call)
    exact ⟨hdirectory'.trans hdirectory, henvironment'.trans henvironment⟩

/-- **The child is wired to the pipes that were handed out,** as far as their ends are still there. Whatever was asked
of a handle for a command, and whichever pipes and programs the host failed to give: a start that succeeds is one
launch of the command, after which the parent closes the ends that the child got. On a side on which no stream was
handed out the child has the null device. On a side on which one was, the child has the other end of the same pipe,
still open when it starts, unless that end was closed since by a start that failed or by an output pipe that the
system did not give: then it has the null device there too. And the stream is open, unless a start has failed since. -/
theorem child_wired (args : List String) (directory : Option String) (environment : Option (List (String × String)))
    (s₀ : Host) (hbalanced : s₀.ledger.Balanced) (hstreams : ∀ n, s₀.wrapFault n = none) (calls : List Call) :
    let d := Dealing.run calls { handle := { args := some args, directory, environment }, host := s₀ }
    (d.handle.serve .start d.host).1 = .ok none → ∃ child : Side → Option Fd,
      (d.handle.serve .start d.host).2.2.events = d.host.events ++
        .launch args (child .input) (child .output) directory environment ::
          ((child .input).toList ++ (child .output).toList).map .close ∧
      ∀ side : Side, ((∀ t ∈ d.past, t.got side.call = false) → child side = none) ∧
        ∀ before t after, d.past = before ++ t :: after → t.got side.call → ∃ w, t.stream? = some w ∧
          (w ∈ (d.handle.serve .start d.host).2.2.openFds ↔ ∀ t' ∈ after, t'.forsakes = false) ∧
          if after.any Turn.bares then child side = none
          else ∃ r, child side = some r ∧ side.joint r w ∈ d.host.events ∧ r ∈ d.host.openFds := by
  intro d hstarted
  have hnew : Faithful (some args) s₀ { handle := { args := some args, directory, environment }, host := s₀ } :=
    .of_new hbalanced hstreams
  have hf : Faithful (some args) s₀ d := hnew.run calls
  have hwired : d.Unstarted := Unstarted.of_new.run hnew calls
  obtain ⟨hdirectory, henvironment⟩ :=
    run_place calls { handle := { args := some args, directory, environment }, host := s₀ }
  have hadmitted : d.handle.standing.refusal? .start = none := by
    cases hrule : d.handle.standing.refusal? .start with
    | none => rfl
    | some e =>
      rw [serve_refused hrule] at hstarted
      cases hstarted
  have hprocess := process_of_admitted hadmitted
  refine ⟨fun side => d.handle.childEnd side, ?_, ?_⟩
  · obtain ⟨args', hargs, hevents⟩ := (d.handle.start_events d.host).2 (map_none_eq hstarted)
    rw [hf.args_eq] at hargs
    obtain rfl := Option.some.inj hargs
    rw [hdirectory, henvironment] at hevents
    exact hevents
  · intro side
    refine ⟨fun hnever => ((hwired hprocess side).unasked hnever).2, ?_⟩
    intro before t after hpast hgot
    obtain ⟨w, hstream?, hstream, hlive, hend⟩ := (hwired hprocess side).asked before t after hpast hgot
    refine ⟨w, hstream?, ?_, ?_⟩
    · rw [← hlive, ← Turn.live_closeAll hf.custody hstream]
      have heffect := serve_admitted (s := d.host) hadmitted
      unfold Served at heffect
      rw [hstarted] at heffect
      have hclosed := heffect.live_of_started
      exact Iff.of_eq (congrArg (w ∈ ·) hclosed)
    · split at hend
      · next hclosed => rw [if_pos hclosed]; exact hend
      · next hclosed =>
        rw [if_neg hclosed]
        obtain ⟨r, hr, hjoint⟩ := hend
        exact ⟨r, hr, hjoint, hf.custody.childOpen r (childEnd_mem hr)⟩

/-- The second pipe is refused, and given when it is asked for again: the child writes into the pipe from it, and
reads from the null device. -/
theorem second_pipe_wired :
    let d := Dealing.run [.inputPipe, .outputPipe, .outputPipe]
      { handle := { args := some ["cat"] }, host := shortOfPipes }
    shortOfPipes.ledger.Balanced ∧ (d.handle.serve .start d.host).1 = .ok none ∧
      .launch ["cat"] none (some 6) none none ∈ (d.handle.serve .start d.host).2.2.events ∧
      (5 ∈ (d.handle.serve .start d.host).2.2.openFds) ∧ 6 ∈ d.host.openFds := by
  intro d
  have hbalanced : shortOfPipes.ledger.Balanced := Host.new_balanced rfl rfl
  have hstarted : (d.handle.serve .start d.host).1 = .ok none := rfl
  obtain ⟨child, hevents, hsides⟩ := child_wired ["cat"] none none shortOfPipes hbalanced (fun _ => rfl) _ hstarted
  obtain ⟨_, -, -, (hinput : child .input = none)⟩ := (hsides .input).2 [] _ [_, _] rfl rfl
  obtain ⟨w, hstream?, hopen, hend⟩ := (hsides .output).2 [_, _] _ [] rfl rfl
  obtain rfl : 5 = w := Option.some.inj hstream?
  obtain ⟨r, houtput, hjoint, hheld⟩ :
    ∃ r, child .output = some r ∧ HostEvent.pipe 5 r ∈ d.host.events ∧ r ∈ d.host.openFds := hend
  have hmade : d.host.events = [.pipe 3 4, .wrap 4 true, .pipeFailed, .close 3, .pipe 5 6, .wrap 5 false] := rfl
  obtain rfl : r = 6 := by simpa [hmade] using hjoint
  have hkept := hopen.2 fun t' ht' => absurd ht' List.not_mem_nil
  refine ⟨hbalanced, hstarted, ?_, hkept, hheld⟩
  rw [hevents, hinput, houtput]
  exact List.mem_append_right _ List.mem_cons_self

/-- The handle has handed out the stream to the input of its child, and the system has no second pipe to give. The
program starts all the same, on the null device, and the stream is still there. -/
theorem wiring_forgotten :
    let d := Dealing.run [.inputPipe, .outputPipe] { handle := { args := some ["cat"] }, host := shortOfPipes }
    d.handedOut = [4] ∧ (d.handle.serve .start d.host).1 = .ok none ∧
      (d.handle.serve .start d.host).2.2.events =
        [.pipe 3 4, .wrap 4 true, .pipeFailed, .close 3, .launch ["cat"] none none none none] ∧
      (d.handle.serve .start d.host).2.2.openFds = [4] :=
  ⟨rfl, rfl, rfl, rfl⟩

end Dealing

end Dialogue
