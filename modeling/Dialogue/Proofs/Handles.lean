import Dialogue.Host.Handle
import Dialogue.Proofs.Descriptors
/-!
# The rules of a handle

A handle is asked for its two pipes, to start, and to wait, in any order and any number of times, while its host
may fail at whatever it is asked for. What it refuses depends only on what it has answered before
(`Standing.refusal?` of `Turn.standing`), and what it refuses changes nothing. What it does about a call that is
admitted is said once, by the answer (`Handle.Effect`).
-/

namespace Dialogue

namespace Handle

/-- What can be asked of a handle. -/
inductive Call where
  | inputPipe
  | outputPipe
  | start
  | wait
deriving Repr, DecidableEq

/-- A call: with the answer, in case of a pipe, goes the descriptor of the stream that is handed out. -/
def serve (call : Call) (h : Handle) (s : Host) : Except Failure (Option Fd) × Handle × Host :=
  match call with
  | .inputPipe =>
    let (outcome, h, s) := h.acquireInput s
    (outcome.map some, h, s)
  | .outputPipe =>
    let (outcome, h, s) := h.acquireOutput s
    (outcome.map some, h, s)
  | .start =>
    let (outcome, _, h, s) := h.start s
    (outcome.map fun _ => none, h, s)
  | .wait =>
    let (outcome, _, h, s) := h.wait s
    (outcome.map fun _ => none, h, s)

/-- The ends that belong to the child. -/
def childEnds (h : Handle) : List Fd := h.childInput.toList ++ h.childOutput.toList

/-- The streams that were handed out. -/
def streams (h : Handle) : List Fd := h.input.toList ++ h.output.toList

/-- The child has its ends, or will never get them. -/
def bared (h : Handle) : Handle := { h with childInput := none, childOutput := none }

/-- What has become of a handle, as far as its rules go. -/
structure Standing where
  configured : Bool
  inputTaken : Bool
  outputTaken : Bool
  started : Bool
  waited : Bool

/-- The rules: why a call is refused, if it is. -/
def Standing.refusal? (st : Standing) : Call → Option Failure
  | .inputPipe =>
    if !st.configured then some .commandNotConfigured
    else if st.inputTaken then some (.pipeAlreadyAcquired (.text "stdin"))
    else if st.started then some (.processAlreadyStarted (.text "stdin_pipe()"))
    else none
  | .outputPipe =>
    if !st.configured then some .commandNotConfigured
    else if st.outputTaken then some (.pipeAlreadyAcquired (.text "stdout"))
    else if st.started then some (.processAlreadyStarted (.text "stdout_pipe()"))
    else none
  | .start =>
    if !st.configured then some .commandNotConfigured
    else if st.started then some (.processAlreadyStarted (.text "start()"))
    else none
  | .wait =>
    if !st.started then some .processNotStarted
    else if st.waited then some .waitAlreadyCalled
    else none

def standing (h : Handle) : Standing where
  configured := h.args.isSome
  inputTaken := h.input.isSome
  outputTaken := h.output.isSome
  started := h.process.isSome
  waited := h.waited

/-- How the wait for a child ends that exits with a status. -/
def exitOf (args : List String) (status : Int) : Except Failure (Option Fd) :=
  if status = 0 then .ok none else .error (.processExit status (some (args.map .text)))

/-! ## What a call does -/

variable {h : Handle} {s : Host}

theorem mayAcquire_input (h : Handle) : h.mayAcquire "stdin" "stdin_pipe()" h.input =
    (h.standing.refusal? .inputPipe).elim (.ok ()) .error := by
  unfold mayAcquire Standing.refusal? standing
  cases h.args <;> cases h.input <;> cases h.process <;> rfl

theorem mayAcquire_output (h : Handle) : h.mayAcquire "stdout" "stdout_pipe()" h.output =
    (h.standing.refusal? .outputPipe).elim (.ok ()) .error := by
  unfold mayAcquire Standing.refusal? standing
  cases h.args <;> cases h.output <;> cases h.process <;> rfl

/-- A call that is refused changes neither the handle nor its host. -/
theorem serve_refused {call : Call} {e : Failure} (hrefused : h.standing.refusal? call = some e) :
    h.serve call s = (.error e, h, s) := by
  cases call with
  | inputPipe =>
    have hmay := h.mayAcquire_input
    rw [hrefused, Option.elim_some] at hmay
    simp only [serve, acquireInput, hmay, Except.map]
  | outputPipe =>
    have hmay := h.mayAcquire_output
    rw [hrefused, Option.elim_some] at hmay
    simp only [serve, acquireOutput, hmay, Except.map]
  | start =>
    cases hargs : h.args <;> cases hprocess : h.process <;>
      simp_all [Standing.refusal?, standing, serve, start, Except.map]
  | wait =>
    cases hprocess : h.process <;> cases hwaited : h.waited <;>
      simp_all [Standing.refusal?, standing, serve, wait, Except.map]

theorem closeChildEnds_eq (h : Handle) (s : Host) : (h.closeChildEnds s).1 = h.bared ∧
    (h.closeChildEnds s).2.ledger = s.ledger.closeAll h.childEnds ∧ (h.closeChildEnds s).2.odds = s.odds := by
  unfold closeChildEnds childEnds
  cases h.childInput with
  | none =>
    cases h.childOutput with
    | none => exact ⟨rfl, rfl, rfl⟩
    | some w => exact ⟨rfl, Host.closeFd_eq w s⟩
  | some r =>
    obtain ⟨hledger, hodds⟩ := Host.closeFd_eq r s
    cases h.childOutput with
    | none => exact ⟨rfl, hledger, hodds⟩
    | some w =>
      obtain ⟨hledger', hodds'⟩ := Host.closeFd_eq w (s.closeFd r)
      refine ⟨rfl, ?_, hodds'.trans hodds⟩
      rw [hledger] at hledger'
      exact hledger'

theorem closeStreams_eq (h : Handle) (s : Host) :
    (h.closeStreams s).ledger = s.ledger.releaseAll h.streams ∧ (h.closeStreams s).odds = s.odds := by
  unfold closeStreams streams
  cases h.input with
  | none =>
    cases h.output with
    | none => exact ⟨rfl, rfl⟩
    | some r => exact Host.closeStream_eq r s
  | some w =>
    obtain ⟨hledger, hodds⟩ := Host.closeStream_eq w s
    cases h.output with
    | none => exact ⟨hledger, hodds⟩
    | some r =>
      obtain ⟨hledger', hodds'⟩ := Host.closeStream_eq r (s.closeStream w)
      refine ⟨?_, hodds'.trans hodds⟩
      rw [hledger] at hledger'
      exact hledger'

/-- What a call that is admitted does to the handle, to the ledger of its host and to the odds, by its answer. -/
inductive Effect (h : Handle) (l : Ledger) (o : Odds) :
    Call → Except Failure (Option Fd) → Handle → Ledger → Odds → Prop
  | noInput {e : Failure} : o.pipe 0 = some e → Effect h l o .inputPipe (.error e) h l o.afterPipe
  /-- The pipe is there, and no stream can be made over it. -/
  | inputUnwrapped {e : Failure} : o.pipe 0 = none → o.stream 0 = some e →
      Effect h l o .inputPipe (.error e) { h with childInput := some l.next } l.grant o.afterPipe.afterStream
  | input : o.pipe 0 = none → o.stream 0 = none →
      Effect h l o .inputPipe (.ok (some (l.next + 1)))
        { h with childInput := some l.next, input := some (l.next + 1) } l.grant o.afterPipe.afterStream
  /-- Only after an error of the system is the end of the other pipe closed. -/
  | noOutput {e : Failure} : o.pipe 0 = some e → e.isSystem →
      Effect h l o .outputPipe (.error e) h.bared (l.closeAll h.childEnds) o.afterPipe
  | outputFault {e : Failure} : o.pipe 0 = some e → e.isSystem = false →
      Effect h l o .outputPipe (.error e) h l o.afterPipe
  | outputUnwrapped {e : Failure} : o.pipe 0 = none → o.stream 0 = some e →
      Effect h l o .outputPipe (.error e) { h with childOutput := some (l.next + 1) } l.grant o.afterPipe.afterStream
  | output : o.pipe 0 = none → o.stream 0 = none →
      Effect h l o .outputPipe (.ok (some l.next))
        { h with childOutput := some (l.next + 1), output := some l.next } l.grant o.afterPipe.afterStream
  | started {child : Child} (number : Nat) : o.child 0 = .ok child →
      Effect h l o .start (.ok none) { h.bared with process := some (number, child.status) } (l.closeAll h.childEnds)
        o.afterChild
  | unstarted {e : Failure} : o.child 0 = .error e → e.isOrdinary →
      Effect h l o .start (.error e) h.bared ((l.releaseAll h.streams).closeAll h.childEnds) o.afterChild
  /-- What is no ordinary failure leaves the streams open. -/
  | interrupted {e : Failure} : o.child 0 = .error e → e.isOrdinary = false →
      Effect h l o .start (.error e) h.bared (l.closeAll h.childEnds) o.afterChild
  | waited {number : Nat} {status : Int} : h.process = some (number, status) →
      Effect h l o .wait (exitOf (h.args.getD []) status) { h with waited := true } l.wait o

/-- Serving that call has an effect on the handle and its host. -/
def Served (h : Handle) (s : Host) (call : Call) : Prop :=
  Effect h s.ledger s.odds call (h.serve call s).1 (h.serve call s).2.1 (h.serve call s).2.2.ledger
    (h.serve call s).2.2.odds

theorem serve_inputPipe (hadmitted : h.standing.refusal? .inputPipe = none) : Served h s .inputPipe := by
  unfold Served
  have hmay := h.mayAcquire_input
  rw [hadmitted, Option.elim_none] at hmay
  simp only [serve, acquireInput, hmay]
  obtain ⟨s₁, hodds, ⟨e, hpipe, hmade, hledger⟩ | ⟨hpipe, hmade, hledger⟩⟩ := s.makePipe_cases
  · simp only [hmade, hledger, hodds]
    exact .noInput hpipe
  · simp only [hmade]
    obtain ⟨s₂, hledger', hodds', ⟨e, hstream, hwrap⟩ | ⟨hstream, hwrap⟩⟩ := s₁.wrap_cases (s.ledger.next + 1) true
    all_goals
      rw [hodds] at hstream hodds'
      simp only [hwrap, hledger', hodds', hledger]
    · exact .inputUnwrapped hpipe hstream
    · exact .input hpipe hstream

theorem serve_outputPipe (hadmitted : h.standing.refusal? .outputPipe = none) : Served h s .outputPipe := by
  unfold Served
  have hmay := h.mayAcquire_output
  rw [hadmitted, Option.elim_none] at hmay
  simp only [serve, acquireOutput, hmay]
  obtain ⟨s₁, hodds, ⟨e, hpipe, hmade, hledger⟩ | ⟨hpipe, hmade, hledger⟩⟩ := s.makePipe_cases
  · simp only [hmade]
    obtain ⟨hbared, hclosed, hkept⟩ := h.closeChildEnds_eq s₁
    split
    · next hsystem =>
      simp only [hbared, hclosed, hkept, hledger, hodds]
      exact .noOutput hpipe hsystem
    · next hsystem =>
      simp only [hledger, hodds]
      exact .outputFault hpipe (Bool.not_eq_true _ ▸ hsystem)
  · simp only [hmade]
    obtain ⟨s₂, hledger', hodds', ⟨e, hstream, hwrap⟩ | ⟨hstream, hwrap⟩⟩ := s₁.wrap_cases s.ledger.next false
    all_goals
      rw [hodds] at hstream hodds'
      simp only [hwrap, hledger', hodds', hledger]
    · exact .outputUnwrapped hpipe hstream
    · exact .output hpipe hstream

theorem serve_start (hadmitted : h.standing.refusal? .start = none) : Served h s .start := by
  unfold Served
  rcases h with ⟨_ | args, directory, environment, _ | process, waited, input, output, childInput, childOutput⟩
  case some.none =>
    obtain ⟨s₁, hledger, hodds, hlaunch⟩ := s.launch_cases args childInput childOutput directory environment
    have hbared (process : Option (Nat × Int)) (s : Host) := closeChildEnds_eq
      ⟨some args, directory, environment, process, waited, input, output, childInput, childOutput⟩ s
    have hreleased (s : Host) := closeStreams_eq
      ⟨some args, directory, environment, none, waited, input, output, childInput, childOutput⟩ s
    simp only [serve, start, hlaunch]
    cases hchild : s.odds.child 0 with
    | ok child =>
      simp only [hbared, hledger, hodds]
      exact .started _ hchild
    | error e =>
      by_cases hordinary : e.isOrdinary
      · simp only [hordinary, if_true, hbared, hreleased, hledger, hodds]
        exact .unstarted hchild hordinary
      · rw [Bool.not_eq_true] at hordinary
        simp only [hordinary, Bool.false_eq_true, if_false, hbared, hledger, hodds]
        exact .interrupted hchild hordinary
  all_goals simp [Standing.refusal?, standing] at hadmitted

theorem serve_wait (hadmitted : h.standing.refusal? .wait = none) : Served h s .wait := by
  unfold Served
  rcases h with ⟨args, directory, environment, _ | process, _ | _, input, output, childInput, childOutput⟩
  case some.false =>
    obtain ⟨hledger, hodds⟩ := s.wait_eq
    have hexit : ((if process.2 == 0 then .ok ()
        else .error (.processExit process.2 (some ((args.getD []).map .text))) : Except Failure Unit).map
          fun _ => none) = exitOf (args.getD []) process.2 := by
      unfold exitOf
      by_cases hzero : process.2 = 0 <;> simp [hzero, Except.map]
    simp only [serve, wait, Bool.false_eq_true, if_false, hledger, hodds, hexit]
    exact .waited rfl
  all_goals simp [Standing.refusal?, standing] at hadmitted

theorem serve_admitted {call : Call} (hadmitted : h.standing.refusal? call = none) : Served h s call := by
  cases call with
  | inputPipe => exact serve_inputPipe hadmitted
  | outputPipe => exact serve_outputPipe hadmitted
  | start => exact serve_start hadmitted
  | wait => exact serve_wait hadmitted

/-- What serving an admitted call comes to. -/
theorem serve_cases (call : Call) (h : Handle) (s : Host) (hadmitted : h.standing.refusal? call = none) :
    ∃ answer h' s' l' o', h.serve call s = (answer, h', s') ∧ s'.ledger = l' ∧ s'.odds = o' ∧
      Effect h s.ledger s.odds call answer h' l' o' :=
  ⟨_, _, _, _, _, rfl, rfl, rfl, serve_admitted hadmitted⟩

/-! ## Who holds what -/

/-- Who holds the descriptors that a handle has obtained: one that is open is an end for the child or the end of a
stream that was handed out, and not both. What is `known` is none of its business. -/
structure Custody (known : List Fd) (h : Handle) (l : Ledger) : Prop where
  balanced : l.Balanced
  distinct : (h.childEnds ++ h.streams).Nodup
  childOpen : ∀ fd ∈ h.childEnds, fd ∈ l.live
  /-- A stream may have been closed. -/
  streamObtained : ∀ fd ∈ h.streams, fd ∈ l.obtained
  held : ∀ fd ∈ l.live, fd ∉ known → fd ∈ h.childEnds ∨ fd ∈ h.streams
  noInput : h.input = none → h.childInput = none
  noOutput : h.output = none → h.childOutput = none

namespace Custody

variable {known : List Fd} {h h' : Handle} {l : Ledger}

/-- Of a new pipe the child gets one end, and the other one is handed out. -/
theorem granted (hc : Custody known h l) {end₁ end₂ : Fd}
    (hends : [end₁, end₂].Perm [l.next, l.next + 1]) (hchild : h'.childEnds.Perm (end₁ :: h.childEnds))
    (hstreams : h'.streams.Perm (end₂ :: h.streams)) (hnoInput : h'.input = none → h'.childInput = none)
    (hnoOutput : h'.output = none → h'.childOutput = none) : Custody known h' l.grant where
  balanced := hc.balanced.grant
  noInput := hnoInput
  noOutput := hnoOutput
  distinct := by
    have hobtained : ∀ fd ∈ h.childEnds ++ h.streams, fd ∈ l.obtained := by
      intro fd hfd
      rcases List.mem_append.1 hfd with hfd | hfd
      · exact hc.balanced.mem_iff.2 (.inl (hc.childOpen fd hfd))
      · exact hc.streamObtained fd hfd
    have hnew : ([end₁, end₂] ++ (h.childEnds ++ h.streams)).Nodup := by
      rw [(hends.append_right _).nodup_iff, List.nodup_append]
      refine ⟨by simp, hc.distinct, ?_⟩
      intro fd hfd other hother heq
      subst heq
      obtain ⟨hne, hne'⟩ := hc.balanced.next_ne (hobtained fd hother)
      rcases List.mem_cons.1 hfd with rfl | hfd
      · exact hne rfl
      · exact hne' (List.mem_singleton.1 hfd)
    have hall : (h'.childEnds ++ h'.streams).Perm ([end₁, end₂] ++ (h.childEnds ++ h.streams)) :=
      (hchild.append hstreams).trans (List.perm_middle.cons end₁)
    exact hall.nodup_iff.2 hnew
  childOpen := by
    intro fd hfd
    rcases List.mem_cons.1 (hchild.mem_iff.1 hfd) with rfl | hfd
    · exact List.mem_append_right _ (hends.mem_iff.1 List.mem_cons_self)
    · exact List.mem_append_left _ (hc.childOpen fd hfd)
  streamObtained := by
    intro fd hfd
    rcases List.mem_cons.1 (hstreams.mem_iff.1 hfd) with rfl | hfd
    · exact List.mem_append_right _ (hends.mem_iff.1 (List.mem_cons_of_mem _ List.mem_cons_self))
    · exact List.mem_append_left _ (hc.streamObtained fd hfd)
  held := by
    intro fd hlive hunknown
    rw [hchild.mem_iff, hstreams.mem_iff, List.mem_cons, List.mem_cons]
    rcases List.mem_append.1 hlive with hold | hnew
    · exact (hc.held fd hold hunknown).imp .inr .inr
    · have hend := hends.mem_iff.2 hnew
      rw [List.mem_cons, List.mem_singleton] at hend
      exact hend.imp .inl .inl

theorem bared (hc : Custody known h l) : Custody known h.bared (l.closeAll h.childEnds) := by
  obtain ⟨hlive, hobtained, -⟩ := l.closeAll_spec h.childEnds
  obtain ⟨hchildren, hstreams, -⟩ := List.nodup_append.1 hc.distinct
  refine ⟨hc.balanced.closeAll hc.childOpen hchildren, hstreams, nofun, ?_, ?_, fun _ => rfl, fun _ => rfl⟩
  · rw [hobtained]
    exact hc.streamObtained
  · intro fd hopen hunknown
    obtain ⟨hopen, hother⟩ := (hlive fd).1 hopen
    exact .inr ((hc.held fd hopen hunknown).resolve_left hother)

theorem released (hc : Custody known h l) : Custody known h (l.releaseAll h.streams) := by
  obtain ⟨hlive, hobtained, -⟩ := l.releaseAll_spec h.streams
  refine ⟨hc.balanced.releaseAll _, hc.distinct, ?_, ?_, ?_, hc.noInput, hc.noOutput⟩
  · intro fd hfd
    refine (hlive fd).2 ⟨hc.childOpen fd hfd, ?_⟩
    intro hstream
    exact (List.nodup_append.1 hc.distinct).2.2 fd hfd fd hstream rfl
  · rw [hobtained]
    exact hc.streamObtained
  · intro fd hopen hunknown
    exact hc.held fd ((hlive fd).1 hopen).1 hunknown

/-- Custody is about pipes only. -/
theorem congr (hc : Custody known h l) (hchild : h'.childInput = h.childInput) (hchild' : h'.childOutput = h.childOutput)
    (hinput : h'.input = h.input) (houtput : h'.output = h.output) : Custody known h' l := by
  have hends : h'.childEnds = h.childEnds := by unfold childEnds; rw [hchild, hchild']
  have hstreams : h'.streams = h.streams := by unfold streams; rw [hinput, houtput]
  refine ⟨hc.balanced, ?_, ?_, ?_, ?_, ?_, ?_⟩
  · rw [hends, hstreams]; exact hc.distinct
  · rw [hends]; exact hc.childOpen
  · rw [hstreams]; exact hc.streamObtained
  · rw [hends, hstreams]; exact hc.held
  · rw [hinput, hchild]; exact hc.noInput
  · rw [houtput, hchild']; exact hc.noOutput

end Custody

theorem input_of_admitted (hadmitted : h.standing.refusal? .inputPipe = none) : h.input = none := by
  cases hinput : h.input with
  | none => rfl
  | some w => cases hargs : h.args <;> simp [Standing.refusal?, standing, hinput, hargs] at hadmitted

theorem output_of_admitted (hadmitted : h.standing.refusal? .outputPipe = none) : h.output = none := by
  cases houtput : h.output with
  | none => rfl
  | some r => cases hargs : h.args <;> simp [Standing.refusal?, standing, houtput, hargs] at hadmitted

theorem process_of_admitted (hadmitted : h.standing.refusal? .start = none) : h.process = none := by
  cases hprocess : h.process with
  | none => rfl
  | some process => cases hargs : h.args <;> simp [Standing.refusal?, standing, hprocess, hargs] at hadmitted

theorem waited_of_admitted (hadmitted : h.standing.refusal? .wait = none) : h.waited = false := by
  cases hwaited : h.waited with
  | false => rfl
  | true => cases hprocess : h.process <;> simp [Standing.refusal?, standing, hprocess, hwaited] at hadmitted

theorem Effect.unfaulted {h' : Handle} {l l' : Ledger} {o o' : Odds} {call : Call} {answer : Except Failure (Option Fd)}
    (heffect : Effect h l o call answer h' l' o') (hstreams : ∀ n, o.stream n = none) (n : Nat) :
    o'.stream n = none := by
  cases heffect <;> first | exact hstreams n | exact hstreams (n + 1)

/-- As long as streams can be made, whatever is asked of a handle leaves everything in custody. -/
theorem Effect.custody {known : List Fd} {h' : Handle} {l l' : Ledger} {o o' : Odds} {call : Call}
    {answer : Except Failure (Option Fd)} (heffect : Effect h l o call answer h' l' o')
    (hadmitted : h.standing.refusal? call = none) (hstream : o.stream 0 = none) (hc : Custody known h l) :
    Custody known h' l' := by
  cases heffect with
  | noInput => exact hc
  | outputFault => exact hc
  | inputUnwrapped _ hfault => rw [hstream] at hfault; cases hfault
  | outputUnwrapped _ hfault => rw [hstream] at hfault; cases hfault
  | input =>
    have hinput := input_of_admitted hadmitted
    have hchild := hc.noInput hinput
    have hends : h.childEnds = h.childOutput.toList := by simp [childEnds, hchild]
    have hstreams : h.streams = h.output.toList := by simp [streams, hinput]
    refine hc.granted (.refl _) ?_ ?_ nofun hc.noOutput
    · rw [hends]; exact .refl _
    · rw [hstreams]; exact .refl _
  | output =>
    have houtput := output_of_admitted hadmitted
    have hchild := hc.noOutput houtput
    have hends : h.childEnds = h.childInput.toList := by simp [childEnds, hchild]
    have hstreams : h.streams = h.input.toList := by simp [streams, houtput]
    refine hc.granted (.swap ..) ?_ ?_ hc.noInput nofun
    · rw [hends]; exact List.perm_append_singleton ..
    · rw [hstreams]; exact List.perm_append_singleton ..
  | noOutput => exact hc.bared
  | started => exact hc.bared.congr rfl rfl rfl rfl
  -- The streams go first: the ends of the child are none of them, so they are still open.
  | unstarted => exact hc.released.bared
  | interrupted => exact hc.bared
  | waited =>
    exact ⟨hc.balanced.wait, hc.distinct, hc.childOpen, hc.streamObtained, hc.held, hc.noInput, hc.noOutput⟩

end Handle

/-! ## Dealing with a handle -/

/-- A call that was made of a handle, the host that it met and the answer that it got. -/
structure Turn where
  call : Handle.Call
  host : Host
  answer : Except Failure (Option Fd)

namespace Turn

/-- Whether it was that call, and got what it asked for. -/
def got (call : Handle.Call) (t : Turn) : Bool := t.call == call && t.answer.isOk

/-- Whether it was a wait that has seen the exit of the child. -/
def sawExit (t : Turn) : Bool :=
  t.call == .wait && match t.answer with
    | .ok _ | .error (.processExit ..) => true
    | .error _ => false

/-- The descriptor of the stream that was handed out. -/
def stream? (t : Turn) : Option Fd :=
  match t.answer with
  | .ok fd => fd
  | .error _ => none

/-- What has become of a handle, as far as its answers tell. -/
def standing (configured : Bool) (past : List Turn) : Handle.Standing where
  configured
  inputTaken := past.any (got .inputPipe)
  outputTaken := past.any (got .outputPipe)
  started := past.any (got .start)
  waited := past.any sawExit

/-- One more turn. -/
def onto (t : Turn) (st : Handle.Standing) : Handle.Standing where
  configured := st.configured
  inputTaken := st.inputTaken || t.got .inputPipe
  outputTaken := st.outputTaken || t.got .outputPipe
  started := st.started || t.got .start
  waited := st.waited || t.sawExit

theorem standing_append (configured : Bool) (past : List Turn) (t : Turn) :
    standing configured (past ++ [t]) = t.onto (standing configured past) := by
  simp [standing, onto]

/-- What a turn tells of the change of a handle. -/
structure Tells (t : Turn) (h h' : Handle) (l l' : Ledger) : Prop where
  args_eq : h'.args = h.args
  standing : h'.standing = t.onto h.standing
  streams : h'.streams.Perm (h.streams ++ t.stream?.toList)
  process : t.got .start = false ∧ h'.process = h.process ∨
    t.got .start ∧ h.process = none ∧
      ∃ number child, t.host.odds.child 0 = .ok child ∧ h'.process = some (number, child.status)
  waits : h.waited = h'.waited ∧ l'.waits = l.waits ∨ h.waited = false ∧ h'.waited = true ∧ l'.waits = l.waits + 1

variable {h : Handle} {s : Host}

/-- A refusal does not look like the exit of a child. -/
theorem refusal_unseen {call : Handle.Call} {e : Failure} (hrefused : h.standing.refusal? call = some e) :
    sawExit ⟨call, s, .error e⟩ = false := by
  cases call with
  | wait =>
    simp only [Handle.Standing.refusal?] at hrefused
    split at hrefused
    · cases hrefused; rfl
    · split at hrefused
      · cases hrefused; rfl
      · cases hrefused
  | _ => rfl

theorem tells_refused {call : Handle.Call} {e : Failure} (hrefused : h.standing.refusal? call = some e) (l : Ledger) :
    Tells ⟨call, s, .error e⟩ h h l l := by
  have hnot (other : Handle.Call) : got other ⟨call, s, .error e⟩ = false := Bool.and_false _
  refine ⟨rfl, ?_, by simp [stream?], .inl ⟨hnot _, rfl⟩, .inl ⟨rfl, rfl⟩⟩
  simp only [onto, hnot, refusal_unseen hrefused, Bool.or_false]

theorem sawExit_exitOf (args : List String) (status : Int) : sawExit ⟨.wait, s, Handle.exitOf args status⟩ = true := by
  unfold Handle.exitOf
  split <;> rfl

theorem stream_exitOf (args : List String) (status : Int) : stream? ⟨.wait, s, Handle.exitOf args status⟩ = none := by
  unfold Handle.exitOf
  split <;> rfl

/-- A call that fails and is no wait tells nothing. -/
theorem tells_failed {call : Handle.Call} (hcall : call ≠ .wait) (e : Failure) {h' : Handle} {l l' : Ledger}
    (hargs : h'.args = h.args) (hstanding : h'.standing = h.standing) (hstreams : h'.streams = h.streams)
    (hprocess : h'.process = h.process) (hwaits : l'.waits = l.waits) : Tells ⟨call, s, .error e⟩ h h' l l' := by
  have hnot (other : Handle.Call) : got other ⟨call, s, .error e⟩ = false := Bool.and_false _
  have hunseen : sawExit ⟨call, s, .error e⟩ = false := by cases call <;> first | rfl | exact absurd rfl hcall
  refine ⟨hargs, ?_, ?_, .inl ⟨hnot _, hprocess⟩, .inl ⟨?_, hwaits⟩⟩
  · simp only [onto, hnot, hunseen, Bool.or_false, hstanding]
  · simp [stream?, hstreams]
  · exact (congrArg Handle.Standing.waited hstanding).symm

theorem tells_admitted {call : Handle.Call} {answer : Except Failure (Option Fd)} {h' : Handle} {l l' : Ledger}
    {o' : Odds} (hadmitted : h.standing.refusal? call = none) (heffect : h.Effect l s.odds call answer h' l' o') :
    Tells ⟨call, s, answer⟩ h h' l l' := by
  have hclosed (l : Ledger) := (l.closeAll_spec h.childEnds).2.2
  have hreleased := (l.releaseAll_spec h.streams).2.2
  cases heffect with
  | noInput | outputFault | inputUnwrapped | outputUnwrapped => exact tells_failed (by decide) _ rfl rfl rfl rfl rfl
  | noOutput | interrupted => exact tells_failed (by decide) _ rfl rfl rfl rfl (hclosed l)
  | unstarted => exact tells_failed (by decide) _ rfl rfl rfl rfl ((hclosed _).trans hreleased)
  | input =>
    have hinput := Handle.input_of_admitted hadmitted
    refine ⟨rfl, ?_, ?_, .inl ⟨rfl, rfl⟩, .inl ⟨rfl, rfl⟩⟩
    · simp [onto, got, sawExit, Handle.standing, Except.isOk, Except.toBool]
    · simp only [Handle.streams, hinput, stream?]
      exact (List.perm_append_singleton ..).symm
  | output =>
    have houtput := Handle.output_of_admitted hadmitted
    refine ⟨rfl, ?_, ?_, .inl ⟨rfl, rfl⟩, .inl ⟨rfl, rfl⟩⟩
    · simp [onto, got, sawExit, Handle.standing, Except.isOk, Except.toBool]
    · simp [Handle.streams, houtput, stream?]
  | started number hchild =>
    have hprocess := Handle.process_of_admitted hadmitted
    refine ⟨rfl, ?_, ?_, .inr ⟨rfl, hprocess, number, _, hchild, rfl⟩, .inl ⟨rfl, hclosed l⟩⟩
    · simp [onto, got, sawExit, Handle.standing, Handle.bared, Except.isOk, Except.toBool]
    · simp [stream?, Handle.streams, Handle.bared]
  | waited =>
    have hwaited := Handle.waited_of_admitted hadmitted
    refine ⟨rfl, ?_, ?_, .inl ⟨rfl, rfl⟩, .inr ⟨hwaited, rfl, rfl⟩⟩
    · simp only [onto, sawExit_exitOf]
      simp [got, Handle.standing]
    · rw [stream_exitOf]
      simp [Handle.streams]

end Turn

/-- A handle on its host, with the calls that were made of it. -/
structure Dealing where
  handle : Handle
  host : Host
  past : List Turn := []

namespace Dealing

open Handle

def serve (call : Call) (d : Dealing) : Dealing :=
  let (answer, handle, host) := d.handle.serve call d.host
  { handle, host, past := d.past ++ [⟨call, d.host, answer⟩] }

def run (calls : List Call) (d : Dealing) : Dealing := calls.foldl (fun d call => d.serve call) d

/-- The streams that were handed out. -/
def handedOut (d : Dealing) : List Fd := d.past.filterMap Turn.stream?

def openStreams (d : Dealing) : List Fd := d.handedOut.filter fun fd => d.host.isOpen fd

/-- What is due for a call that the rules admit: what the host makes of it. A wait ends as the program exits that
was started. -/
def Due (d : Dealing) (args : List String) (answer : Except Failure (Option Fd)) : Call → Prop
  | .inputPipe => answer = (d.host.odds.pipe 0).elim (.ok (some (d.host.ledger.next + 1))) .error
  | .outputPipe => answer = (d.host.odds.pipe 0).elim (.ok (some d.host.ledger.next)) .error
  | .start => answer = (d.host.odds.child 0).map fun _ => none
  | .wait => ∃ t ∈ d.past, t.got .start ∧ ∃ child, t.host.odds.child 0 = .ok child ∧ answer = exitOf args child.status

/-- The handle is what its past says, and everything is in custody. -/
structure Faithful (args : Option (List String)) (s₀ : Host) (d : Dealing) : Prop where
  args_eq : d.handle.args = args
  standing : d.handle.standing = Turn.standing args.isSome d.past
  handedOut : d.handedOut.Perm d.handle.streams
  process : ∀ number status, d.handle.process = some (number, status) →
    ∃ t ∈ d.past, t.got .start ∧ ∃ child, t.host.odds.child 0 = .ok child ∧ child.status = status
  starts : d.past.countP (Turn.got .start) = if d.handle.process.isSome then 1 else 0
  waits : d.host.ledger.waits = s₀.ledger.waits + if d.handle.waited then 1 else 0
  streams : ∀ n, d.host.odds.stream n = none
  custody : Custody s₀.ledger.obtained d.handle d.host.ledger

namespace Faithful

variable {args : Option (List String)} {s₀ : Host} {d : Dealing}

theorem of_new {directory : Option String} {environment : Option (List (String × String))}
    (hbalanced : s₀.ledger.Balanced) (hstreams : ∀ n, s₀.wrapFault n = none) :
    Faithful args s₀ { handle := { args, directory, environment }, host := s₀ } where
  args_eq := rfl
  standing := rfl
  handedOut := .refl _
  process := nofun
  starts := rfl
  waits := rfl
  streams _ := hstreams _
  custody := ⟨hbalanced, .nil, nofun, nofun, fun _ hlive hunknown => absurd (hbalanced.mem_iff.2 (.inl hlive)) hunknown,
    fun _ => rfl, fun _ => rfl⟩

/-- What one more turn tells is true. -/
theorem turn (hf : Faithful args s₀ d) {t : Turn} {h : Handle} {s : Host}
    (htells : t.Tells d.handle h d.host.ledger s.ledger) (hstreams : ∀ n, s.odds.stream n = none)
    (hcustody : Custody s₀.ledger.obtained h s.ledger) : Faithful args s₀ ⟨h, s, d.past ++ [t]⟩ where
  args_eq := htells.args_eq.trans hf.args_eq
  standing := by rw [Turn.standing_append, ← hf.standing]; exact htells.standing
  handedOut := by
    have hall : Dealing.handedOut ⟨h, s, d.past ++ [t]⟩ = d.handedOut ++ t.stream?.toList := by
      unfold Dealing.handedOut
      cases hstream : t.stream? <;> simp [hstream]
    rw [hall]
    exact (hf.handedOut.append_right _).trans htells.streams.symm
  process := by
    intro number status hprocess
    rcases htells.process with ⟨-, hsame⟩ | ⟨hgot, -, number', child, hchild, hnew⟩
    · obtain ⟨t', ht', hstarted⟩ := hf.process number status (hsame ▸ hprocess)
      exact ⟨t', List.mem_append_left _ ht', hstarted⟩
    · rw [hnew] at hprocess
      obtain ⟨-, rfl⟩ := Prod.mk.inj (Option.some.inj hprocess)
      exact ⟨t, List.mem_append_right _ List.mem_cons_self, hgot, child, hchild, rfl⟩
  starts := by
    rw [List.countP_append, List.countP_singleton, hf.starts]
    rcases htells.process with ⟨hgot, hsame⟩ | ⟨hgot, hnone, number, child, -, hnew⟩
    · rw [hgot, hsame]; rfl
    · rw [hgot, hnone, hnew]; rfl
  waits := by
    rcases htells.waits with ⟨hsame, hwaits⟩ | ⟨hbefore, hafter, hwaits⟩
    · rw [hwaits, ← hsame]; exact hf.waits
    · rw [hwaits, hf.waits, hbefore, hafter]; rfl
  streams := hstreams
  custody := hcustody

theorem serve (hf : Faithful args s₀ d) (call : Call) : Faithful args s₀ (d.serve call) := by
  unfold Dealing.serve
  cases hrule : d.handle.standing.refusal? call with
  | some e =>
    rw [serve_refused hrule]
    exact hf.turn (Turn.tells_refused hrule _) hf.streams hf.custody
  | none =>
    have heffect := serve_admitted (s := d.host) hrule
    exact hf.turn (Turn.tells_admitted hrule heffect) (heffect.unfaulted hf.streams)
      (heffect.custody hrule (hf.streams 0) hf.custody)

theorem run (hf : Faithful args s₀ d) (calls : List Call) : Faithful args s₀ (d.run calls) := by
  induction calls generalizing d with
  | nil => exact hf
  | cons call calls ih => exact ih (hf.serve call)

end Faithful

/-- A call that is admitted gets what is due. -/
theorem Faithful.due {args : Option (List String)} {s₀ : Host} {d : Dealing} (hf : Faithful args s₀ d) {call : Call}
    {answer : Except Failure (Option Fd)} {h' : Handle} {l' : Ledger} {o' : Odds}
    (heffect : d.handle.Effect d.host.ledger d.host.odds call answer h' l' o') : d.Due (args.getD []) answer call := by
  have hnofault {e : Failure} : d.host.odds.stream 0 ≠ some e := by
    rw [hf.streams 0]
    nofun
  cases heffect with
  | noInput hpipe | noOutput hpipe | outputFault hpipe => simp only [Due, hpipe, Option.elim_some]
  | input hpipe | output hpipe => simp only [Due, hpipe, Option.elim_none]
  | inputUnwrapped _ hfault | outputUnwrapped _ hfault => exact absurd hfault hnofault
  | started _ hchild | unstarted hchild | interrupted hchild => simp only [Due, hchild, Except.map]
  | @waited number status hprocess =>
    obtain ⟨t, ht, hgot, child, hchild, rfl⟩ := hf.process number status hprocess
    exact ⟨t, ht, hgot, child, hchild, by rw [hf.args_eq]⟩

/-- Every descriptor is in one place only. -/
theorem Faithful.one_holder {args : Option (List String)} {s₀ : Host} {d : Dealing} (hf : Faithful args s₀ d) {fd : Fd}
    (hfd : fd ∈ d.host.ledger.obtained) (hnew : fd ∉ s₀.ledger.obtained) :
    d.handle.childEnds.count fd + d.openStreams.count fd + d.host.ledger.closed.count fd = 1 := by
  have hc := hf.custody
  obtain ⟨hchildren, hstreams, hapart⟩ := List.nodup_append.1 hc.distinct
  have hhanded : d.handedOut.Nodup := hf.handedOut.nodup_iff.2 hstreams
  have hopen : fd ∈ d.openStreams ↔ fd ∈ d.handle.streams ∧ fd ∈ d.host.ledger.live := by
    rw [openStreams, List.mem_filter, hf.handedOut.mem_iff]
    exact and_congr_right fun _ => List.contains_iff_mem
  have hdistinct : d.openStreams.Nodup := hhanded.filter _
  -- An open descriptor has one holder; any other was closed, and then it has none.
  rw [hchildren.count, hdistinct.count, hc.balanced.closed_once]
  by_cases hlive : fd ∈ d.host.ledger.live
  · rw [if_neg (hc.balanced.not_closed hlive)]
    rcases hc.held fd hlive hnew with hchild | hstream
    · rw [if_pos hchild, if_neg fun h => hapart fd hchild fd (hopen.1 h).1 rfl]
    · rw [if_neg fun h => hapart fd h fd hstream rfl, if_pos (hopen.2 ⟨hstream, hlive⟩)]
  · have hclosed := (hc.balanced.mem_iff.1 hfd).resolve_left hlive
    rw [if_neg fun h => hlive (hc.childOpen fd h), if_neg fun h => hlive (hopen.1 h).2, if_pos hclosed]

/-- **A handle keeps its rules.** Whatever is asked of a handle, in whatever order and however often, and whichever
pipes and programs the host fails to give: the rules are those of its past, and a call that they refuse changes
nothing at all; any other gets what the host makes of it, and a wait the exit of the program that was started. No
more than one program is started and no more than one wait is made. Of the descriptors that the handle obtained,
each is an end for the child, or the open end of a stream that was handed out, or was closed, once; it is only one
of these. -/
theorem rules_kept (args : Option (List String)) (directory : Option String)
    (environment : Option (List (String × String))) (s₀ : Host) (hbalanced : s₀.ledger.Balanced)
    (hstreams : ∀ n, s₀.wrapFault n = none) (calls : List Call) :
    let d := Dealing.run calls { handle := { args, directory, environment }, host := s₀ }
    (∀ call, match (Turn.standing args.isSome d.past).refusal? call with
      | some e => d.handle.serve call d.host = (.error e, d.handle, d.host)
      | none => d.Due (args.getD []) (d.handle.serve call d.host).1 call) ∧
    d.past.countP (Turn.got .start) ≤ 1 ∧
    d.host.ledger.waits ≤ s₀.ledger.waits + 1 ∧
    d.host.ledger.Balanced ∧
    ∀ fd ∈ d.host.ledger.obtained, fd ∉ s₀.ledger.obtained →
      d.handle.childEnds.count fd + d.openStreams.count fd + d.host.ledger.closed.count fd = 1 := by
  intro d
  have hf : Faithful args s₀ d := (Faithful.of_new hbalanced hstreams).run calls
  refine ⟨?_, ?_, ?_, hf.custody.balanced, fun _ hfd hnew => hf.one_holder hfd hnew⟩
  · intro call
    rw [← hf.standing]
    split
    · next e hrefused => exact serve_refused hrefused
    · next hadmitted => exact hf.due (serve_admitted hadmitted)
  · rw [hf.starts]
    split <;> decide
  · rw [hf.waits]
    split <;> omega

/-- A host that has no second pipe to give at first, and whose programs exit with a status of their own. -/
def shortOfPipes : Host where
  pipeFault n := if n = 2 then some (.ambient (.system .general) []) else none
  child _ := .ok { status := 3 }

/-- The second pipe fails, is asked for again, and the program is waited for twice. -/
theorem short_of_pipes_rules :
    let calls : List Call := [.inputPipe, .outputPipe, .outputPipe, .start, .wait]
    let d := Dealing.run calls { handle := { args := some ["cat"] }, host := shortOfPipes }
    d.handle.serve .inputPipe d.host = (.error (.pipeAlreadyAcquired (.text "stdin")), d.handle, d.host) ∧
      d.handle.serve .wait d.host = (.error .waitAlreadyCalled, d.handle, d.host) ∧
      d.host.ledger.obtained = [3, 4, 5, 6] ∧
      (d.handle.childEnds.count 3 + d.openStreams.count 3 + d.host.ledger.closed.count 3 = 1) ∧
      d.handedOut = [4, 5] ∧ d.host.ledger.closed = [3, 6] := by
  intro calls d
  have hbalanced : shortOfPipes.ledger.Balanced := Host.new_balanced rfl rfl
  obtain ⟨hrules, -, -, -, hheld⟩ := rules_kept (some ["cat"]) none none shortOfPipes hbalanced (fun _ => rfl) calls
  have hobtained : d.host.ledger.obtained = [3, 4, 5, 6] := by decide
  refine ⟨hrules .inputPipe, hrules .wait, hobtained, hheld 3 ?_ List.not_mem_nil, by decide, by decide⟩
  exact hobtained ▸ List.mem_cons_self

end Dealing

end Dialogue
