import Dialogue.Proofs.EndOfOutput
import Dialogue.Proofs.Handles
/-!
# What launches leave open

Launches through one factory of handles, one after the other, each on the host that the sessions before it have
left. A launch that succeeds leaves two more descriptors open, the write end of the pipe to the process and the
read end of the pipe from it. One that fails leaves what the step that failed has left (`Obstacle.left`): nothing,
unless no stream could be made over a pipe, or the second pipe was refused for a reason that is no error of the
system.
-/

namespace Dialogue

/-- What a launch can fail at, and the background work of the session after it. -/
inductive Obstacle where
  | inputPipe
  | inputStream
  | outputPipe
  | outputStream
  | program
  | reader
  | waiter
deriving Repr, DecidableEq

/-- What a launch leaves open that has failed there for that reason, if `next` was the next descriptor. -/
def Obstacle.left (next : Fd) (e : Failure) : Obstacle → List Fd
  | inputStream => [next, next + 1]
  | outputPipe => if e.isSystem then [] else [next]
  | outputStream => [next, next + 2, next + 3]
  | inputPipe | program | reader | waiter => []

/-- The first obstacle on the way to a process, by the odds of the host. -/
def Odds.obstacle? (o : Odds) : Option (Obstacle × Failure) :=
  match o.pipe 0, o.stream 0, o.pipe 1, o.stream 1, o.child 0 with
  | some e, _, _, _, _ => some (.inputPipe, e)
  | none, some e, _, _, _ => some (.inputStream, e)
  | none, none, some e, _, _ => some (.outputPipe, e)
  | none, none, none, some e, _ => some (.outputStream, e)
  | none, none, none, none, .error e => some (.program, e)
  | none, none, none, none, .ok _ => none

/-- The first obstacle after both pipes. -/
def Odds.startObstacle? (o : Odds) : Option (Obstacle × Failure) :=
  match o.child 0 with
  | .error e => some (.program, e)
  | .ok _ => none

/-- The first obstacle after the first pipe. -/
def Odds.outputObstacle? (o : Odds) : Option (Obstacle × Failure) :=
  match o.pipe 0, o.stream 0 with
  | some e, _ => some (.outputPipe, e)
  | none, some e => some (.outputStream, e)
  | none, none => o.afterPipe.afterStream.startObstacle?

theorem Odds.obstacle?_after_input {o : Odds} (hpipe : o.pipe 0 = none) (hstream : o.stream 0 = none) :
    o.obstacle? = o.afterPipe.afterStream.outputObstacle? := by
  have hpipe' : o.afterPipe.afterStream.pipe 0 = o.pipe 1 := rfl
  have hstream' : o.afterPipe.afterStream.stream 0 = o.stream 1 := rfl
  have hchild' : o.afterPipe.afterStream.afterPipe.afterStream.child 0 = o.child 0 := rfl
  simp only [obstacle?, outputObstacle?, startObstacle?, hpipe, hstream, hpipe', hstream', hchild']
  cases o.pipe 1 <;> cases o.stream 1 <;> cases o.child 0 <;> rfl

/-! ## Additions to a ledger -/

namespace Ledger

/-- A ledger that goes on from another one: these descriptors were handed out since, and of these those are open. -/
structure Adds (l l' : Ledger) (made left : List Fd) : Prop where
  balanced : l'.Balanced
  next : l'.next = l.next + made.length
  obtained : l'.obtained = l.obtained ++ made
  live : l'.live = l.live ++ left

namespace Adds

variable {l l' : Ledger} {made left : List Fd} {fd : Fd}

theorem none (h : l.Balanced) : Adds l l [] [] := ⟨h, rfl, by simp, by simp⟩

theorem grant (h : Adds l l' made left) :
    Adds l l'.grant (made ++ [l'.next, l'.next + 1]) (left ++ [l'.next, l'.next + 1]) where
  balanced := h.balanced.grant
  next := by simp [Ledger.grant, h.next, Nat.add_assoc]
  obtained := by simp [Ledger.grant, h.obtained]
  live := by simp [Ledger.grant, h.live]

/-- What was open before is not closed with what is new. -/
theorem keep (h : l.Balanced) (hfd : l.next ≤ fd) (left : List Fd) :
    (l.live ++ left).filter (· != fd) = l.live ++ left.filter (· != fd) := by
  rw [List.filter_append]
  congr 1
  rw [List.filter_eq_self]
  intro other hother
  have hlt := h.live_lt hother
  exact bne_iff_ne.2 (Nat.ne_of_lt (Nat.lt_of_lt_of_le hlt hfd))

theorem close (h : Adds l l' made left) (hl : l.Balanced) (hfd : l.next ≤ fd) (hleft : fd ∈ left) :
    Adds l (l'.close fd) made (left.filter (· != fd)) where
  balanced := h.balanced.close (h.live ▸ List.mem_append_right _ hleft)
  next := h.next
  obtained := h.obtained
  live := by rw [Ledger.close, h.live, keep hl hfd]

theorem release (h : Adds l l' made left) (hl : l.Balanced) (hfd : l.next ≤ fd) :
    Adds l (l'.release fd) made (left.filter (· != fd)) := by
  unfold Ledger.release
  split
  · next hlive =>
    rw [h.live] at hlive
    rcases List.mem_append.1 hlive with hold | hnew
    · exact absurd (hl.live_lt hold) (Nat.not_lt.2 hfd)
    · exact h.close hl hfd hnew
  · next hclosed =>
    have hnot : fd ∉ left := fun hleft => hclosed (h.live ▸ List.mem_append_right _ hleft)
    have hsame : left.filter (· != fd) = left := by
      rw [List.filter_eq_self]
      intro other hother
      exact bne_iff_ne.2 fun heq => hnot (heq ▸ hother)
    rw [hsame]
    exact h

theorem wait (h : Adds l l' made left) : Adds l l'.wait made left :=
  ⟨h.balanced.wait, h.next, h.obtained, h.live⟩

theorem of_left {left' : List Fd} (h : Adds l l' made left) (heq : left = left') : Adds l l' made left' := heq ▸ h

end Adds

end Ledger

/-! ## The newest handle -/

namespace Registry

/-- A registry after which one more handle was made, and what has become of the host since. -/
def joined (h : Handle) (s : Host) (m : Registry) : Registry where
  host := s
  handles := m.handles ++ [h]

variable {m : Registry} {h : Handle} {s : Host}

theorem handle_joined : (m.joined h s).handle m.handles.length = h := by
  simp [handle, joined]

theorem on_joined {α : Type} (f : Handle → Host → α × Handle × Host) :
    (m.joined h s).on m.handles.length f = ((f h s).1, m.joined (f h s).2.1 (f h s).2.2) := by
  simp only [on, handle_joined, setHandle]
  simp [joined]

theorem onNoting_joined {α : Type} (f : Handle → Host → α × List Record × Handle × Host) :
    (m.joined h s).onNoting m.handles.length f =
      ((f h s).1, (f h s).2.1, m.joined (f h s).2.2.1 (f h s).2.2.2) := by
  simp only [onNoting, handle_joined, setHandle]
  simp [joined]

end Registry

namespace Desk

/-- A desk with a registry after which one more handle was made. -/
def holding (h : Handle) (s : Host) (log : List Record) (d : Desk Registry) : Desk Registry :=
  { d with process := d.process.joined h s, log }

variable {d : Desk Registry} {h : Handle} {s : Host} {log : List Record}

theorem inputPipe_holding (factory : Nat) :
    (d.holding h s log).act ((Registry.launcher factory).inputPipe d.process.handles.length) =
      ((h.serve .inputPipe s).1.map fun _ => (),
        d.holding (h.serve .inputPipe s).2.1 (h.serve .inputPipe s).2.2 log) := by
  simp only [act, Registry.launcher, holding, Registry.on_joined, Handle.serve]
  cases (h.acquireInput s).1 <;> rfl

theorem outputPipe_holding (factory : Nat) :
    (d.holding h s log).act ((Registry.launcher factory).outputPipe d.process.handles.length) =
      ((h.serve .outputPipe s).1.map fun _ => (),
        d.holding (h.serve .outputPipe s).2.1 (h.serve .outputPipe s).2.2 log) := by
  simp only [act, Registry.launcher, holding, Registry.on_joined, Handle.serve]
  cases (h.acquireOutput s).1 <;> rfl

theorem start_holding (factory : Nat) :
    (d.holding h s log).actNoting ((Registry.launcher factory).start d.process.handles.length) =
      ((h.serve .start s).1.map fun _ => (),
        d.holding (h.serve .start s).2.1 (h.serve .start s).2.2 (log ++ (h.start s).2.1)) := by
  simp only [actNoting, Registry.launcher, holding, Registry.onNoting_joined, Handle.serve]
  cases (h.start s).1 <;> rfl

theorem link_launcher (factory : Nat) : (Registry.launcher factory).link = Registry.link := rfl

/-- Closing streams of the newest handle never fails. -/
theorem closeInput_holding : (d.holding h s log).closeQuietly (Registry.link d.process.handles.length) [.input] =
    (.ok (), d.holding h (h.input.elim s fun fd => s.closeStream fd) log) := by
  simp only [closeQuietly, act, Registry.link, Registry.closeStream, holding, Registry.handle_joined]
  rfl

theorem closeBoth_holding :
    (d.holding h s log).closeQuietly (Registry.link d.process.handles.length) [.input, .output] =
      (.ok (), d.holding h (h.closeStreams s) log) := by
  have hinput : (d.holding h s log).act (Registry.link d.process.handles.length).closeInput =
      (.ok (), d.holding h (h.input.elim s fun fd => s.closeStream fd) log) := by
    simp only [act, Registry.link, Registry.closeStream, holding, Registry.handle_joined]
    rfl
  have houtput (s : Host) : (d.holding h s log).act (Registry.link d.process.handles.length).closeOutput =
      (.ok (), d.holding h (h.output.elim s fun fd => s.closeStream fd) log) := by
    simp only [act, Registry.link, Registry.closeStream, holding, Registry.handle_joined]
    rfl
  simp only [closeQuietly, hinput, houtput]
  rfl

theorem note_holding (r : Record) : (d.holding h s log).note r = d.holding h s (log ++ [r]) := rfl

section
variable (factory : Nat) (command : String) (args : List String)

theorem command_holding : d.act ((Registry.launcher factory).command command args) =
    (.ok d.process.handles.length, d.holding ((d.process.handle factory).command command args) d.process.host d.log) :=
  rfl

variable {a₁ a₂ a₃ : Option Fd} {e : Failure} {h₁ h₂ h₃ : Handle} {s₁ s₂ s₃ : Host}

theorem launch_no_input (hordinary : e.isOrdinary)
    (h₁_eq : ((d.process.handle factory).command command args).serve .inputPipe d.process.host = (.error e, h₁, s₁)) :
    ∃ log, d.launch (Registry.launcher factory) command args = (.error e, d.holding h₁ s₁ log) := by
  simp only [launch, command_holding, note_holding, inputPipe_holding, h₁_eq, Except.map, abandon, hordinary, if_true,
    closeQuietly]
  exact ⟨_, rfl⟩

theorem launch_no_output (hordinary : e.isOrdinary)
    (h₁_eq : ((d.process.handle factory).command command args).serve .inputPipe d.process.host = (.ok a₁, h₁, s₁))
    (h₂_eq : h₁.serve .outputPipe s₁ = (.error e, h₂, s₂)) :
    ∃ log, d.launch (Registry.launcher factory) command args =
      (.error e, d.holding h₂ (h₂.input.elim s₂ fun fd => s₂.closeStream fd) log) := by
  simp only [launch, command_holding, note_holding, inputPipe_holding, h₁_eq, outputPipe_holding, h₂_eq, Except.map,
    abandon, hordinary, if_true, link_launcher, closeInput_holding]
  exact ⟨_, rfl⟩

theorem launch_no_start (hordinary : e.isOrdinary)
    (h₁_eq : ((d.process.handle factory).command command args).serve .inputPipe d.process.host = (.ok a₁, h₁, s₁))
    (h₂_eq : h₁.serve .outputPipe s₁ = (.ok a₂, h₂, s₂)) (h₃_eq : h₂.serve .start s₂ = (.error e, h₃, s₃)) :
    ∃ log, d.launch (Registry.launcher factory) command args = (.error e, d.holding h₃ (h₃.closeStreams s₃) log) := by
  simp only [launch, command_holding, note_holding, inputPipe_holding, h₁_eq, outputPipe_holding, h₂_eq, start_holding,
    h₃_eq, Except.map, abandon, hordinary, if_true, link_launcher, closeBoth_holding]
  exact ⟨_, rfl⟩

theorem launch_started
    (h₁_eq : ((d.process.handle factory).command command args).serve .inputPipe d.process.host = (.ok a₁, h₁, s₁))
    (h₂_eq : h₁.serve .outputPipe s₁ = (.ok a₂, h₂, s₂)) (h₃_eq : h₂.serve .start s₂ = (.ok a₃, h₃, s₃)) :
    ∃ log, d.launch (Registry.launcher factory) command args =
      (.ok d.process.handles.length, d.holding h₃ s₃ log) := by
  simp only [launch, command_holding, note_holding, inputPipe_holding, h₁_eq, outputPipe_holding, h₂_eq, start_holding,
    h₃_eq, Except.map]
  exact ⟨_, rfl⟩

end

end Desk

/-! ## A launch -/

/-- The ledger after a launch, by its first obstacle. -/
def Ledger.afterLaunch (l : Ledger) : Option (Obstacle × Failure) → Ledger
  | none => l.grant.grant.closeAll [l.next, l.next + 3]
  | some (.inputPipe, _) => l
  | some (.inputStream, _) => l.grant
  | some (.outputPipe, e) =>
    if e.isSystem then (l.grant.closeAll [l.next]).releaseAll [l.next + 1] else l.grant.releaseAll [l.next + 1]
  | some (.outputStream, _) => l.grant.grant.releaseAll [l.next + 1]
  | some (.program, _) =>
    ((l.grant.grant.releaseAll [l.next + 1, l.next + 2]).closeAll [l.next, l.next + 3]).releaseAll
      [l.next + 1, l.next + 2]
  | some (.reader, _) | some (.waiter, _) =>
    ((l.grant.grant.closeAll [l.next, l.next + 3]).releaseAll [l.next + 1, l.next + 2]).wait

/-- Of what a launch has obtained, only these are open after it. -/
theorem Ledger.afterLaunch_adds {l : Ledger} (hl : l.Balanced) (obstacle : Option (Obstacle × Failure)) :
    ∃ made, l.Adds (l.afterLaunch obstacle) made
        (obstacle.elim [l.next + 1, l.next + 2] fun x => x.1.left l.next x.2) ∧
      (obstacle = none → made = [l.next, l.next + 1, l.next + 2, l.next + 3]) := by
  have hle (n : Nat) : l.next ≤ l.next + n := Nat.le_add_right ..
  have hone : l.Adds l.grant [l.next, l.next + 1] [l.next, l.next + 1] := (Adds.none hl).grant
  have hboth : l.Adds l.grant.grant [l.next, l.next + 1, l.next + 2, l.next + 3]
      [l.next, l.next + 1, l.next + 2, l.next + 3] := hone.grant
  have hstarted : l.Adds (l.grant.grant.closeAll [l.next, l.next + 3]) [l.next, l.next + 1, l.next + 2, l.next + 3]
      [l.next + 1, l.next + 2] :=
    ((hboth.close hl (hle 0) (by simp)).close hl (hle 3) (by simp)).of_left (by simp)
  rcases obstacle with _ | ⟨o, e⟩
  · exact ⟨_, hstarted, fun _ => rfl⟩
  suffices hfailed : ∃ made, l.Adds (l.afterLaunch (some (o, e))) made (o.left l.next e) from
    hfailed.imp fun made hadds => ⟨hadds, nofun⟩
  cases o with
  | inputPipe => exact ⟨_, Adds.none hl⟩
  | inputStream => exact ⟨_, hone⟩
  | outputPipe =>
    simp only [afterLaunch, Obstacle.left]
    split
    · exact ⟨_, ((hone.close hl (hle 0) (by simp)).release hl (hle 1)).of_left (by simp)⟩
    · exact ⟨_, (hone.release hl (hle 1)).of_left (by simp)⟩
  | outputStream => exact ⟨_, (hboth.release hl (hle 1)).of_left (by simp [Obstacle.left])⟩
  | program =>
    have hreleased := ((hboth.release hl (hle 1)).release hl (hle 2)).of_left
      (show _ = [l.next, l.next + 3] by simp)
    have hclosed := ((hreleased.close hl (hle 0) (by simp)).close hl (hle 3) (by simp)).of_left (show _ = [] by simp)
    simp only [afterLaunch, closeAll, releaseAll, List.foldl_cons, List.foldl_nil, Obstacle.left]
    exact ⟨_, ((hclosed.release hl (hle 1)).release hl (hle 2)).of_left rfl⟩
  | reader | waiter =>
    exact ⟨_, ((hstarted.release hl (hle 1)).release hl (hle 2)).wait.of_left (by simp [Obstacle.left])⟩

namespace Desk

/-- A launch ends at that obstacle, or at none with a handle that has its two streams and a process. -/
def EndsAt (factory : Nat) (command : String) (args : List String) (d : Desk Registry)
    (obstacle : Option (Obstacle × Failure)) : Prop :=
  ∃ h s log, d.launch (Registry.launcher factory) command args =
      (obstacle.elim (.ok d.process.handles.length) fun x => .error x.2, d.holding h s log) ∧
    s.ledger = d.process.host.ledger.afterLaunch obstacle ∧
    (obstacle = none →
      h.streams = [d.process.host.ledger.next + 1, d.process.host.ledger.next + 2] ∧ h.process.isSome ∧
        h.waited = false)

section
variable {factory : Nat} {command : String} {args : List String} {d : Desk Registry}
  {a₁ a₂ : Option Fd} {h₁ h₂ : Handle} {s₁ s₂ : Host}

theorem endsAt_start
    (h₁_eq : ((d.process.handle factory).command command args).serve .inputPipe d.process.host = (.ok a₁, h₁, s₁))
    (h₂_eq : h₁.serve .outputPipe s₁ = (.ok a₂, h₂, s₂))
    (hnew : h₂.standing.refusal? .start = none ∧ h₂.waited = false)
    (hchildEnds : h₂.childEnds = [d.process.host.ledger.next, d.process.host.ledger.next + 3])
    (hstreams : h₂.streams = [d.process.host.ledger.next + 1, d.process.host.ledger.next + 2])
    (hl₂ : s₂.ledger = d.process.host.ledger.grant.grant)
    (hordinary : ∀ o e, s₂.odds.startObstacle? = some (o, e) → e.isOrdinary) :
    EndsAt factory command args d s₂.odds.startObstacle? := by
  obtain ⟨a₃, h₃, s₃, l₃, o₃, h₃_eq, hl₃, -, heffect⟩ := Handle.serve_cases .start h₂ s₂ hnew.1
  cases heffect with
  | @started child number hchild =>
    have hobstacle : s₂.odds.startObstacle? = none := by simp only [Odds.startObstacle?, hchild]
    obtain ⟨log, hlaunch⟩ := launch_started factory command args h₁_eq h₂_eq h₃_eq
    rw [hobstacle]
    refine ⟨_, _, log, hlaunch, ?_, fun _ => ⟨hstreams, rfl, hnew.2⟩⟩
    rw [hl₃, hl₂, hchildEnds]
    rfl
  | @unstarted e hchild _ =>
    have hobstacle : s₂.odds.startObstacle? = some (.program, e) := by simp only [Odds.startObstacle?, hchild]
    obtain ⟨log, hlaunch⟩ := launch_no_start factory command args (hordinary _ _ hobstacle) h₁_eq h₂_eq h₃_eq
    rw [hobstacle]
    refine ⟨_, _, log, hlaunch, (Handle.closeStreams_eq _ s₃).1.trans ?_, nofun⟩
    have hbared : h₂.bared.streams = h₂.streams := rfl
    rw [hl₃, hl₂, hchildEnds, hbared, hstreams]
    rfl
  | @interrupted e hchild hinterrupt =>
    have he := hordinary .program e (by simp only [Odds.startObstacle?, hchild])
    rw [hinterrupt] at he
    cases he

theorem endsAt_output
    (h₁_eq : ((d.process.handle factory).command command args).serve .inputPipe d.process.host = (.ok a₁, h₁, s₁))
    (hh₁ : h₁ = { (d.process.handle factory).command command args with
      childInput := some d.process.host.ledger.next, input := some (d.process.host.ledger.next + 1) })
    (hl₁ : s₁.ledger = d.process.host.ledger.grant)
    (hordinary : ∀ o e, s₁.odds.outputObstacle? = some (o, e) → e.isOrdinary) :
    EndsAt factory command args d s₁.odds.outputObstacle? := by
  obtain ⟨a₂, h₂, s₂, l₂, o₂, h₂_eq, hl₂, ho₂, heffect⟩ := Handle.serve_cases .outputPipe h₁ s₁ (by rw [hh₁]; rfl)
  -- Whatever the second pipe fails at, the stream over the first one is closed after it.
  have hfailed (o : Obstacle) (e : Failure) (hobstacle : s₁.odds.outputObstacle? = some (o, e)) (ha₂ : a₂ = .error e)
      (hinput : h₂.input = some (d.process.host.ledger.next + 1))
      (hledger : l₂.release (d.process.host.ledger.next + 1) = d.process.host.ledger.afterLaunch (some (o, e))) :
      EndsAt factory command args d s₁.odds.outputObstacle? := by
    obtain ⟨log, hlaunch⟩ :=
      launch_no_output factory command args (hordinary o e hobstacle) h₁_eq (ha₂ ▸ h₂_eq)
    rw [hobstacle]
    refine ⟨_, _, log, hlaunch, ?_, nofun⟩
    rw [hinput, Option.elim_some, (Host.closeStream_eq _ s₂).1, hl₂, hledger]
  rw [hl₁, hh₁] at heffect
  cases heffect with
  | @noOutput e hpipe hsystem =>
    refine hfailed .outputPipe e (by simp only [Odds.outputObstacle?, hpipe]) rfl rfl ?_
    simp only [Ledger.afterLaunch, hsystem, if_true]
    rfl
  | @outputFault e hpipe hsystem =>
    refine hfailed .outputPipe e (by simp only [Odds.outputObstacle?, hpipe]) rfl rfl ?_
    simp only [Ledger.afterLaunch, hsystem, Bool.false_eq_true, if_false]
    rfl
  | @outputUnwrapped e hpipe hstream =>
    exact hfailed .outputStream e (by simp only [Odds.outputObstacle?, hpipe, hstream]) rfl rfl rfl
  | output hpipe hstream =>
    have hobstacle : s₁.odds.outputObstacle? = s₂.odds.startObstacle? := by
      simp only [Odds.outputObstacle?, hpipe, hstream, ho₂]
    rw [hobstacle] at hordinary ⊢
    exact endsAt_start h₁_eq h₂_eq ⟨rfl, rfl⟩ rfl rfl hl₂ hordinary

end

theorem launch_cases (factory : Nat) (command : String) (args : List String) (d : Desk Registry)
    (hordinary : ∀ o e, d.process.host.odds.obstacle? = some (o, e) → e.isOrdinary) :
    EndsAt factory command args d d.process.host.odds.obstacle? := by
  obtain ⟨a₁, h₁, s₁, l₁, o₁, h₁_eq, hl₁, ho₁, heffect⟩ :=
    Handle.serve_cases .inputPipe ((d.process.handle factory).command command args) d.process.host rfl
  cases heffect with
  | @noInput e hpipe =>
    have hobstacle : d.process.host.odds.obstacle? = some (.inputPipe, e) := by simp only [Odds.obstacle?, hpipe]
    obtain ⟨log, hlaunch⟩ := launch_no_input factory command args (hordinary _ _ hobstacle) h₁_eq
    rw [hobstacle]
    exact ⟨_, _, log, hlaunch, hl₁, nofun⟩
  | @inputUnwrapped e hpipe hstream =>
    have hobstacle : d.process.host.odds.obstacle? = some (.inputStream, e) := by
      simp only [Odds.obstacle?, hpipe, hstream]
    obtain ⟨log, hlaunch⟩ := launch_no_input factory command args (hordinary _ _ hobstacle) h₁_eq
    rw [hobstacle]
    exact ⟨_, _, log, hlaunch, hl₁, nofun⟩
  | input hpipe hstream =>
    have hobstacle : d.process.host.odds.obstacle? = s₁.odds.outputObstacle? := by
      rw [ho₁]
      exact Odds.obstacle?_after_input hpipe hstream
    rw [hobstacle] at hordinary ⊢
    exact endsAt_output h₁_eq rfl hl₁ hordinary

end Desk

/-! ## A session after it -/

namespace Stage

variable {T M : Type} [Moment T]

/-- The first obstacle on the way to a session. -/
def obstacle? (st : Stage T Registry) : Option (Obstacle × Failure) :=
  match st.process.host.odds.obstacle?, st.refusal (st.starts + 1), st.refusal (st.starts + 1 + 1) with
  | some x, _, _ => some x
  | none, some e, _ => some (.reader, e)
  | none, none, some e => some (.waiter, e)
  | none, none, none => none

/-- The wait for a program that was started ends at once, and any failure of it is ordinary. -/
theorem wait_cases {h : Handle} (s : Host) (hstarted : h.process.isSome) (hwaited : h.waited = false) :
    ∃ outcome records h', h.wait s = (outcome, records, h', s.record .wait) ∧
      ∀ e, outcome = .error e → e.isOrdinary := by
  obtain ⟨⟨number, status⟩, hprocess⟩ := Option.isSome_iff_exists.1 hstarted
  simp only [Handle.wait, hprocess, hwaited, Bool.false_eq_true, if_false]
  refine ⟨_, _, _, rfl, ?_⟩
  intro e he
  split at he
  · cases he
  · cases he
    rfl

/-- Giving up the newest handle closes its streams and waits for it. -/
theorem forsake_holding (life : Life T (Stage T Registry) M) (factory : Nat) (command : String) (e : Failure)
    (d : Desk Registry) {h : Handle} {s : Host} (log : List Record) (scene : Scene T (Stage T Registry) M)
    (hscene : scene.world.toDesk = d.holding h s log) (hstarted : h.process.isSome) (hwaited : h.waited = false) :
    (forsake life (Registry.launcher factory) d.process.handles.length command e scene).1 = e ∧
      ∃ h', (forsake life (Registry.launcher factory) d.process.handles.length command e scene).2.world.process =
        d.process.joined h' ((h.closeStreams s).record .wait) := by
  obtain ⟨outcome, records, h', hwait, hordinary⟩ := wait_cases (h.closeStreams s) hstarted hwaited
  simp only [forsake, hscene, Desk.note_holding, Desk.link_launcher, Desk.closeBoth_holding]
  simp only [reap, Desk.link_launcher, Registry.link, await, Stage.actNoting, Desk.actNoting, Desk.holding, id,
    Registry.onNoting_joined, hwait]
  cases outcome with
  | ok _ => exact ⟨rfl, h', rfl⟩
  | error e' =>
    simp only [hordinary e' rfl, if_true]
    exact ⟨trivial, h', rfl⟩

theorem spawn_cases (life : Life T (Stage T Registry) M) (factory : Nat) (command : String) (args : List String)
    (conduct : Conduct T) (timeout : Span T) (s : Scene T (Stage T Registry) M)
    (hordinary : ∀ o e, s.world.obstacle? = some (o, e) → e.isOrdinary) :
    let l := s.world.process.host.ledger
    let spawned := spawn life (Registry.launcher factory) command args conduct timeout s
    spawned.1 = s.world.obstacle?.elim (.ok ()) (fun x => .error x.2) ∧
      ∃ h host, spawned.2.world.process = s.world.process.joined h host ∧
        host.ledger = l.afterLaunch s.world.obstacle? ∧
        (s.world.obstacle? = none → h.streams = [l.next + 1, l.next + 2] ∧
          spawned.2.world.session.link = Registry.link s.world.process.handles.length) := by
  intro l spawned
  have hfirst (o e) (h : s.world.process.host.odds.obstacle? = some (o, e)) : s.world.obstacle? = some (o, e) := by
    simp only [obstacle?, h]
  obtain ⟨h, host, log, hlaunch, hledger, hmade⟩ :=
    Desk.launch_cases factory command args s.world.toDesk fun o e h => hordinary o e (hfirst o e h)
  cases hodds : s.world.process.host.odds.obstacle? with
  | some x =>
    have hobstacle := hfirst _ _ hodds
    simp only [hodds, Option.elim_some] at hlaunch hledger
    simp only [spawned, spawn, hlaunch, hobstacle, Option.elim_some, true_and]
    exact ⟨h, host, rfl, hledger, nofun⟩
  | none =>
    obtain ⟨hstreams, hstarted, hwaited⟩ := hmade hodds
    simp only [hodds, Option.elim_none] at hlaunch hledger
    -- A session that was refused its background work gives the process up.
    have hforsaken (o : Obstacle) (e : Failure) (starts : Nat) (session : Session T Registry)
        (hobstacle : s.world.obstacle? = some (o, e))
        (hafter : l.afterLaunch (some (o, e)) = (host.ledger.releaseAll h.streams).wait) :
        let scene : Scene T (Stage T Registry) M :=
          { s with world := { s.world.toDesk.holding h host log with starts, session } }
        let forsaken := forsake life (Registry.launcher factory) s.world.process.handles.length command e scene
        e.isOrdinary ∧ forsaken.1 = e ∧ ∃ h host, forsaken.2.world.process = s.world.process.joined h host ∧
          host.ledger = l.afterLaunch (some (o, e)) := by
      intro scene forsaken
      obtain ⟨hfailure, h', hworld⟩ := forsake_holding life factory command e { s.world.toDesk with starts } log
        scene rfl hstarted hwaited
      refine ⟨hordinary o e hobstacle, hfailure, h', _, hworld, ?_⟩
      rw [(Host.wait_eq _).1, (h.closeStreams_eq host).1, hafter]
    have hafter : ∀ e, l.afterLaunch (some (.reader, e)) = (host.ledger.releaseAll h.streams).wait := by
      intro e
      rw [hledger, hstreams]
      rfl
    simp only [spawned, spawn, hlaunch, Desk.link_launcher]
    obtain ⟨e, hreader, hbegin⟩ | ⟨hreader, ⟨e, hwaiter, hbegin⟩ | ⟨hwaiter, hbegin⟩⟩ := begin_cases
      (.ofLink (Registry.link s.world.process.handles.length) conduct timeout s.now) rfl
      (s.world.toDesk.holding h host log)
    · have hobstacle : s.world.obstacle? = some (.reader, e) := by
        simp only [obstacle?, hodds, show s.world.refusal (s.world.starts + 1) = some e from hreader]
      obtain ⟨he, hfailure, h', host', hworld, hledger'⟩ := hforsaken .reader e _ _ hobstacle (hafter e)
      simp only [hobstacle, hbegin, he, if_true]
      exact ⟨congrArg Except.error hfailure, h', host', hworld, hledger', nofun⟩
    · have hobstacle : s.world.obstacle? = some (.waiter, e) := by
        simp only [obstacle?, hodds, show s.world.refusal (s.world.starts + 1) = none from hreader,
          show s.world.refusal (s.world.starts + 1 + 1) = some e from hwaiter]
      obtain ⟨he, hfailure, h', host', hworld, hledger'⟩ := hforsaken .waiter e _ _ hobstacle (hafter e)
      simp only [hobstacle, hbegin, he, if_true]
      exact ⟨congrArg Except.error hfailure, h', host', hworld, hledger', nofun⟩
    · have hobstacle : s.world.obstacle? = none := by
        simp only [obstacle?, hodds, show s.world.refusal (s.world.starts + 1) = none from hreader,
          show s.world.refusal (s.world.starts + 1 + 1) = none from hwaiter]
      simp only [hobstacle, hbegin]
      exact ⟨rfl, h, host, rfl, hledger, fun _ => ⟨hstreams, rfl⟩⟩

end Stage

/-! ## One launch after another -/

namespace Registry

/-- What sessions can do to a registry, through the links of its handles. -/
inductive Used (m : Registry) : Registry → Prop
  | unused : Used m m
  | write {m' : Registry} (n : Nat) (bytes : List UInt8) : Used m m' → Used m ((link n).write bytes m').2
  | closeInput {m' : Registry} (n : Nat) : Used m m' → Used m ((link n).closeInput m').2
  | read {m' : Registry} (n most : Nat) : Used m m' → Used m ((link n).read most m').2
  | closeOutput {m' : Registry} (n : Nat) : Used m m' → Used m ((link n).closeOutput m').2
  | wait {m' : Registry} (n : Nat) : Used m m' → Used m (m'.onNoting n Handle.wait).2.2

/-- Sessions close what is open only. -/
theorem Used.balanced {m m' : Registry} (hused : Used m m') (hm : m.host.ledger.Balanced) :
    m'.host.ledger.Balanced := by
  have hclosed (fd : Option Fd) {m : Registry} (hm : m.host.ledger.Balanced) :
      (m.closeStream fd).2.host.ledger.Balanced := by
    cases fd with
    | none => exact hm
    | some fd =>
      simp only [closeStream, Option.elim_some, (Host.closeStream_eq fd m.host).1]
      exact hm.release fd
  induction hused with
  | unused => exact hm
  | @write m' n bytes _ ih =>
    simp only [link]
    cases (m'.handle n).input with
    | none => exact ih
    | some fd => exact (Host.write_eq bytes fd m'.host) ▸ ih
  | closeInput n _ ih => exact hclosed _ ih
  | @read m' n most _ ih =>
    simp only [link]
    cases (m'.handle n).output with
    | none => exact ih
    | some fd => exact (Host.read_eq most fd m'.host) ▸ ih
  | closeOutput n _ ih => exact hclosed _ ih
  | @wait m' n _ ih =>
    have hwait (h : Handle) (s : Host) :
        (h.wait s).2.2.2.ledger = s.ledger ∨ (h.wait s).2.2.2.ledger = s.ledger.wait := by
      unfold Handle.wait
      split
      · exact .inl rfl
      · split
        · exact .inl rfl
        · exact .inr (Host.wait_eq s).1
    have hhost : (m'.onNoting n Handle.wait).2.2.host = ((m'.handle n).wait m'.host).2.2.2 := rfl
    rw [hhost]
    rcases hwait (m'.handle n) m'.host with heq | heq <;> rw [heq]
    · exact ih
    · exact ih.wait

end Registry

section
variable {T M : Type} [Moment T]

/-- Launches through one factory, one after the other, none of which is interrupted by what is no ordinary failure.
Between them sessions use the registry, and anything else may change. -/
inductive Launches (life : Life T (Stage T Registry) M) (factory : Nat) (s₀ : Scene T (Stage T Registry) M) :
    Scene T (Stage T Registry) M → Prop
  | start : Launches life factory s₀ s₀
  | spawn {s : Scene T (Stage T Registry) M} (command : String) (args : List String) (conduct : Conduct T)
      (timeout : Span T) (hordinary : ∀ o e, s.world.obstacle? = some (o, e) → e.isOrdinary) :
      Launches life factory s₀ s →
      Launches life factory s₀ (Stage.spawn life (Registry.launcher factory) command args conduct timeout s).2
  | between {s s' : Scene T (Stage T Registry) M} : Registry.Used s.world.process s'.world.process →
      Launches life factory s₀ s → Launches life factory s₀ s'

variable {life : Life T (Stage T Registry) M} {factory : Nat} {s₀ s : Scene T (Stage T Registry) M}

theorem Launches.balanced (hlaunches : Launches life factory s₀ s) (hbalanced : s₀.world.process.host.ledger.Balanced) :
    s.world.process.host.ledger.Balanced := by
  induction hlaunches with
  | start => exact hbalanced
  | @spawn s command args conduct timeout hordinary _ ih =>
    obtain ⟨-, h, host, hprocess, hledger, -⟩ :=
      Stage.spawn_cases life factory command args conduct timeout s hordinary
    obtain ⟨made, hadds, -⟩ := Ledger.afterLaunch_adds ih s.world.obstacle?
    rw [hprocess]
    rw [← hledger] at hadds
    exact hadds.balanced
  | between hused _ ih => exact hused.balanced ih

/-- **What launches leave open.** However many launches through a factory have come before, successful or not, and
whatever their sessions have done since: no descriptor was closed twice. The next launch succeeds if no step of it
fails, and leaves open the write end of the one pipe and the read end of the other; else it fails as the first of
its steps that fails, and of what it has obtained it leaves open what that obstacle has left. What was open before
is open after it, and nothing else. -/
theorem launch_leaves (life : Life T (Stage T Registry) M) (factory : Nat) {s₀ s : Scene T (Stage T Registry) M}
    (hbalanced : s₀.world.process.host.ledger.Balanced) (hlaunches : Launches life factory s₀ s) :
    (∀ fd, s.world.process.host.ledger.closed.count fd ≤ 1) ∧
    ∀ command args conduct timeout, (∀ o e, s.world.obstacle? = some (o, e) → e.isOrdinary) →
      let l := s.world.process.host.ledger
      let spawned := Stage.spawn life (Registry.launcher factory) command args conduct timeout s
      let after := spawned.2.world.process
      match s.world.obstacle? with
      | none => spawned.1 = .ok () ∧ ∃ h r₁ w₁ r₂ w₂, after.handles = s.world.process.handles ++ [h] ∧
          spawned.2.world.session.link = Registry.link s.world.process.handles.length ∧ h.streams = [w₁, r₂] ∧
          after.host.ledger.obtained = l.obtained ++ [r₁, w₁, r₂, w₂] ∧ after.host.ledger.live = l.live ++ [w₁, r₂]
      | some (o, e) => spawned.1 = .error e ∧ ∃ made, after.host.ledger.obtained = l.obtained ++ made ∧
          after.host.ledger.live = l.live ++ o.left l.next e := by
  have hl := hlaunches.balanced hbalanced
  refine ⟨?_, ?_⟩
  · intro fd
    rw [hl.closed_once]
    split <;> decide
  · intro command args conduct timeout hordinary l spawned after
    obtain ⟨houtcome, h, host, hprocess, hledger, hmade⟩ :=
      Stage.spawn_cases life factory command args conduct timeout s hordinary
    obtain ⟨made, hadds, hfour⟩ := Ledger.afterLaunch_adds hl s.world.obstacle?
    rw [← hledger] at hadds
    have hafter : after = s.world.process.joined h host := hprocess
    rw [hafter]
    split
    · next hnone =>
      obtain ⟨hstreams, hlink⟩ := hmade hnone
      rw [hnone, hfour hnone] at hadds
      rw [hnone, Option.elim_none] at houtcome
      exact ⟨houtcome, h, _, _, _, _, rfl, hlink, hstreams, hadds.obtained, hadds.live⟩
    · next o e hsome =>
      rw [hsome] at hadds houtcome
      exact ⟨houtcome, made, hadds.obtained, hadds.live⟩

end

/-- A factory of handles on a host, and no session yet. -/
def bareFactory (host : Host) : Scene Int (Stage Int Registry) SessionCue :=
  Stage.scene { host, handles := [{}] } (Rehearsal.reading .utf8) ⟨5, .none⟩ 0 fun _ => none

/-- The second launch finds no pipe for its output. -/
theorem second_launch_leaves :
    let e : Failure := .ambient (.system .general) []
    let s₀ := bareFactory { pipeFault := fun n => if n = 4 then some e else none }
    let spawn := Stage.spawn Stage.life (Registry.launcher 0) "cat" [] (Rehearsal.reading .utf8) ⟨5, .none⟩
    let s := (spawn s₀).2
    s.world.process.host.ledger.live = [4, 5] ∧ (spawn s).1 = .error e ∧
      (spawn s).2.world.process.host.ledger.live = [4, 5] := by
  intro e s₀ spawn s
  have hbalanced : s₀.world.process.host.ledger.Balanced := Host.new_balanced rfl rfl
  have hnone : s₀.world.obstacle? = none := rfl
  have hsome : s.world.obstacle? = some (.outputPipe, e) := rfl
  have hfirst : Launches Stage.life 0 s₀ s :=
    .spawn "cat" [] _ _ (fun o e h => by rw [hnone] at h; cases h) .start
  have hlive : s.world.process.host.ledger.live = [4, 5] := rfl
  have hsecond := (launch_leaves Stage.life 0 hbalanced hfirst).2 "cat" [] (Rehearsal.reading .utf8) ⟨5, .none⟩
    fun o e h => by rw [hsome] at h; cases h; rfl
  have hnothing : Obstacle.outputPipe.left s.world.process.host.ledger.next e = [] := rfl
  simp only [hsome, hnothing, hlive, List.append_nil] at hsecond
  obtain ⟨houtcome, made, -, hleft⟩ := hsecond
  clear_value s
  exact ⟨hlive, houtcome, hleft⟩

/-- If the second pipe is refused for a reason that is no error of the system, the child's end of the first one
stays open. -/
theorem fault_leaves_open :
    let e : Failure := .ambient .runtime [.text "no pipe"]
    let s := bareFactory { pipeFault := fun n => if n = 2 then some e else none }
    let (outcome, s') := Stage.spawn Stage.life (Registry.launcher 0) "cat" [] (Rehearsal.reading .utf8) ⟨5, .none⟩ s
    s.world.process.host.ledger.Balanced ∧ e.isOrdinary ∧ outcome = .error e ∧
      s.world.process.host.ledger.live = [] ∧ s'.world.process.host.ledger.live = [3] := by
  refine ⟨Host.new_balanced rfl rfl, rfl, rfl, rfl, rfl⟩

end Dialogue
