import Dialogue.Host
/-!
# The ledger of a host

What a host has done with descriptors is in its events: which it handed out and which it closed. A ledger is
balanced if each descriptor was handed out once and is open or was closed, but not both, so that none was closed
twice (`Ledger.Balanced.closed_once`). Every operation of a host keeps its ledger balanced, closing included if
what is closed is open. The odds of a host are how its next calls will go.
-/

namespace Dialogue

/-- The descriptors that an event hands out. -/
def HostEvent.obtained : HostEvent → List Fd
  | pipe readEnd writeEnd => [readEnd, writeEnd]
  | _ => []

/-- The descriptor that an event closes. -/
def HostEvent.closed? : HostEvent → Option Fd
  | close fd => some fd
  | _ => none

/-- Whether an event is a wait for a child. -/
def HostEvent.isWait : HostEvent → Bool
  | wait => true
  | _ => false

/-! ## Ledgers -/

structure Ledger where
  /-- The next descriptor that will be handed out. -/
  next : Fd
  /-- The descriptors that are open. -/
  live : List Fd
  /-- The descriptors that were handed out, in order. -/
  obtained : List Fd
  /-- The descriptors that were closed, in order. -/
  closed : List Fd
  /-- How often a child was waited for. -/
  waits : Nat

namespace Ledger

/-- The two ends of a new pipe. -/
def grant (l : Ledger) : Ledger :=
  { l with next := l.next + 2, live := l.live ++ [l.next, l.next + 1], obtained := l.obtained ++ [l.next, l.next + 1] }

def close (fd : Fd) (l : Ledger) : Ledger :=
  { l with live := l.live.filter (· != fd), closed := l.closed ++ [fd] }

/-- What is closed as a stream is closed only if it is open. -/
def release (fd : Fd) (l : Ledger) : Ledger := if fd ∈ l.live then l.close fd else l

def closeAll (fds : List Fd) (l : Ledger) : Ledger := fds.foldl (fun l fd => l.close fd) l

def releaseAll (fds : List Fd) (l : Ledger) : Ledger := fds.foldl (fun l fd => l.release fd) l

/-- One more wait for a child. -/
def wait (l : Ledger) : Ledger := { l with waits := l.waits + 1 }

structure Balanced (l : Ledger) : Prop where
  fresh : ∀ fd ∈ l.obtained, fd < l.next
  distinct : l.obtained.Nodup
  /-- What was handed out is open or was closed. -/
  accounted : (l.live ++ l.closed).Perm l.obtained

namespace Balanced

variable {l : Ledger} {fd : Fd}

theorem nodup (h : l.Balanced) : (l.live ++ l.closed).Nodup := h.accounted.nodup_iff.2 h.distinct

theorem live_nodup (h : l.Balanced) : l.live.Nodup := (List.nodup_append.1 h.nodup).1

theorem mem_iff (h : l.Balanced) : fd ∈ l.obtained ↔ fd ∈ l.live ∨ fd ∈ l.closed := by
  rw [← h.accounted.mem_iff, List.mem_append]

theorem live_lt (h : l.Balanced) (hlive : fd ∈ l.live) : fd < l.next := h.fresh fd (h.mem_iff.2 (.inl hlive))

theorem not_closed (h : l.Balanced) (hlive : fd ∈ l.live) : fd ∉ l.closed := by
  intro hclosed
  exact (List.nodup_append.1 h.nodup).2.2 fd hlive fd hclosed rfl

/-- No descriptor is closed twice. -/
theorem closed_once (h : l.Balanced) (fd : Fd) : l.closed.count fd = if fd ∈ l.closed then 1 else 0 :=
  (List.nodup_append.1 h.nodup).2.1.count

/-- The ends of a new pipe are new. -/
theorem next_ne (h : l.Balanced) (hfd : fd ∈ l.obtained) : fd ≠ l.next ∧ fd ≠ l.next + 1 :=
  ⟨Nat.ne_of_lt (h.fresh fd hfd), Nat.ne_of_lt (Nat.lt_succ_of_lt (h.fresh fd hfd))⟩

theorem grant (h : l.Balanced) : l.grant.Balanced := by
  constructor
  · intro fd hfd
    rcases List.mem_append.1 hfd with hold | hnew
    · exact Nat.lt_add_right 2 (h.fresh fd hold)
    · rcases List.mem_cons.1 hnew with rfl | hnew
      · exact Nat.lt_add_of_pos_right Nat.two_pos
      · rw [List.mem_singleton.1 hnew]
        exact Nat.lt_succ_self _
  · simp only [Ledger.grant, List.nodup_append]
    refine ⟨h.distinct, by simp, ?_⟩
    intro fd hfd other hother
    rcases List.mem_cons.1 hother with rfl | hother
    · exact (h.next_ne hfd).1
    · rw [List.mem_singleton.1 hother]
      exact (h.next_ne hfd).2
  · simp only [Ledger.grant]
    calc ((l.live ++ [l.next, l.next + 1]) ++ l.closed).Perm (l.live ++ ([l.next, l.next + 1] ++ l.closed)) := by
          rw [List.append_assoc]
      _ |>.Perm (l.live ++ (l.closed ++ [l.next, l.next + 1])) := List.perm_append_comm.append_left _
      _ |>.Perm (l.obtained ++ [l.next, l.next + 1]) := by
          rw [← List.append_assoc]
          exact h.accounted.append_right _

theorem close (h : l.Balanced) (hlive : fd ∈ l.live) : (l.close fd).Balanced := by
  refine ⟨h.fresh, h.distinct, ?_⟩
  have hrest : l.live.filter (· != fd) = l.live.erase fd := (h.live_nodup.erase_eq_filter fd).symm
  simp only [Ledger.close, hrest]
  refine List.Perm.trans ?_ h.accounted
  have hmoved : (l.live.erase fd ++ (l.closed ++ [fd])).Perm (fd :: l.live.erase fd ++ l.closed) := by
    rw [← List.append_assoc]
    exact List.perm_append_comm
  exact hmoved.trans ((List.perm_cons_erase hlive).symm.append_right _)

theorem release (h : l.Balanced) (fd : Fd) : (l.release fd).Balanced := by
  unfold Ledger.release
  split
  · next hlive => exact h.close hlive
  · exact h

theorem wait (h : l.Balanced) : l.wait.Balanced := ⟨h.fresh, h.distinct, h.accounted⟩

end Balanced

variable {fds : List Fd} {fd : Fd} {l : Ledger}

theorem mem_close {other : Fd} : other ∈ (l.close fd).live ↔ other ∈ l.live ∧ other ≠ fd := by
  simp [close]

theorem mem_release {other : Fd} : other ∈ (l.release fd).live ↔ other ∈ l.live ∧ other ≠ fd := by
  unfold release
  split
  · exact mem_close
  · next hclosed =>
    constructor
    · intro hother
      exact ⟨hother, fun heq => hclosed (heq ▸ hother)⟩
    · exact And.left

theorem release_obtained : (l.release fd).obtained = l.obtained := by
  unfold release
  split <;> rfl

theorem release_waits : (l.release fd).waits = l.waits := by
  unfold release
  split <;> rfl

/-- What is closed in a row is closed, and nothing else is. -/
theorem closeAll_spec (fds : List Fd) (l : Ledger) :
    (∀ fd, fd ∈ (l.closeAll fds).live ↔ fd ∈ l.live ∧ fd ∉ fds) ∧ (l.closeAll fds).obtained = l.obtained ∧
      (l.closeAll fds).waits = l.waits := by
  induction fds generalizing l with
  | nil => simp [closeAll]
  | cons first rest ih =>
    obtain ⟨hlive, hobtained, hwaits⟩ := ih (l.close first)
    refine ⟨?_, hobtained, hwaits⟩
    intro fd
    have hstep := hlive fd
    rw [mem_close, and_assoc] at hstep
    rw [List.mem_cons, not_or]
    exact hstep

theorem releaseAll_spec (fds : List Fd) (l : Ledger) :
    (∀ fd, fd ∈ (l.releaseAll fds).live ↔ fd ∈ l.live ∧ fd ∉ fds) ∧ (l.releaseAll fds).obtained = l.obtained ∧
      (l.releaseAll fds).waits = l.waits := by
  induction fds generalizing l with
  | nil => simp [releaseAll]
  | cons first rest ih =>
    obtain ⟨hlive, hobtained, hwaits⟩ := ih (l.release first)
    refine ⟨?_, hobtained.trans release_obtained, hwaits.trans release_waits⟩
    intro fd
    have hstep := hlive fd
    rw [mem_release, and_assoc] at hstep
    rw [List.mem_cons, not_or]
    exact hstep

theorem Balanced.closeAll (h : l.Balanced) (hlive : ∀ fd ∈ fds, fd ∈ l.live) (hdistinct : fds.Nodup) :
    (l.closeAll fds).Balanced := by
  induction fds generalizing l with
  | nil => exact h
  | cons first rest ih =>
    obtain ⟨hfirst, hrest⟩ := List.nodup_cons.1 hdistinct
    apply ih (h.close (hlive first List.mem_cons_self)) _ hrest
    intro fd hfd
    exact mem_close.2 ⟨hlive fd (List.mem_cons_of_mem _ hfd), fun heq => hfirst (heq ▸ hfd)⟩

theorem Balanced.releaseAll (h : l.Balanced) (fds : List Fd) : (l.releaseAll fds).Balanced := by
  induction fds generalizing l with
  | nil => exact h
  | cons first rest ih => exact ih (h.release first)

end Ledger

/-! ## Hosts -/

/-- How the next calls of a host go, from the next one on. -/
structure Odds where
  /-- Why a call for a pipe fails. -/
  pipe : Nat → Option Failure
  /-- Why a stream cannot be made. -/
  stream : Nat → Option Failure
  child : Nat → Except Failure Child

namespace Odds

def afterPipe (o : Odds) : Odds := { o with pipe := fun n => o.pipe (n + 1) }

def afterStream (o : Odds) : Odds := { o with stream := fun n => o.stream (n + 1) }

def afterChild (o : Odds) : Odds := { o with child := fun n => o.child (n + 1) }

end Odds

namespace Host

def ledger (s : Host) : Ledger where
  next := s.nextFd
  live := s.openFds
  obtained := s.events.flatMap HostEvent.obtained
  closed := s.events.filterMap HostEvent.closed?
  waits := s.events.countP HostEvent.isWait

def odds (s : Host) : Odds where
  pipe n := s.pipeFault (s.pipeCalls + 1 + n)
  stream n := s.wrapFault (s.wrapCalls + 1 + n)
  child n := s.child (s.launches + 1 + n)

/-- A host that has not done anything. -/
theorem new_balanced {s : Host} (hopen : s.openFds = []) (hevents : s.events = []) : s.ledger.Balanced := by
  constructor <;> simp [ledger, hopen, hevents]

theorem record_ledger (e : HostEvent) (s : Host) : (s.record e).ledger = { s.ledger with
    obtained := s.ledger.obtained ++ e.obtained
    closed := s.ledger.closed ++ e.closed?.toList
    waits := s.ledger.waits + if e.isWait then 1 else 0 } := by
  cases e <;> simp [record, ledger, HostEvent.obtained, HostEvent.closed?, HostEvent.isWait]

variable {s : Host}

/-- What a call for a pipe does. -/
theorem makePipe_cases (s : Host) : ∃ s', s'.odds = s.odds.afterPipe ∧
    ((∃ e, s.odds.pipe 0 = some e ∧ s.makePipe = (.error e, s') ∧ s'.ledger = s.ledger) ∨
      s.odds.pipe 0 = none ∧ s.makePipe = (.ok (s.ledger.next, s.ledger.next + 1), s') ∧
        s'.ledger = s.ledger.grant) := by
  have hnext (n : Nat) : s.pipeCalls + 1 + 1 + n = s.pipeCalls + 1 + (n + 1) := by omega
  refine ⟨s.makePipe.2, ?_, ?_⟩
  · simp only [makePipe]
    split <;> simp only [record, odds, Odds.afterPipe, hnext]
  · cases hfault : s.pipeFault (s.pipeCalls + 1) with
    | some e =>
      refine .inl ⟨e, hfault, ?_⟩
      simp only [makePipe, hfault, record_ledger, true_and]
      simp [HostEvent.obtained, HostEvent.closed?, HostEvent.isWait, ledger]
    | none =>
      refine .inr ⟨hfault, ?_⟩
      simp only [makePipe, hfault, record_ledger]
      refine ⟨rfl, ?_⟩
      simp [HostEvent.obtained, HostEvent.closed?, HostEvent.isWait, ledger, Ledger.grant]

/-- What making a stream does. -/
theorem wrap_cases (fd : Fd) (writing : Bool) (s : Host) : ∃ s', s'.ledger = s.ledger ∧ s'.odds = s.odds.afterStream ∧
    ((∃ e, s.odds.stream 0 = some e ∧ s.wrap fd writing = (.error e, s')) ∨
      s.odds.stream 0 = none ∧ s.wrap fd writing = (.ok (), s')) := by
  have hnext (n : Nat) : s.wrapCalls + 1 + 1 + n = s.wrapCalls + 1 + (n + 1) := by omega
  cases hfault : s.wrapFault (s.wrapCalls + 1) with
  | some e =>
    refine ⟨{ s with wrapCalls := s.wrapCalls + 1 }, rfl, ?_, .inl ⟨e, hfault, ?_⟩⟩
    · simp only [odds, Odds.afterStream, hnext]
    · simp only [wrap, hfault]
  | none =>
    refine ⟨record (.wrap fd writing) { s with wrapCalls := s.wrapCalls + 1 }, ?_, ?_, .inr ⟨hfault, ?_⟩⟩
    · rw [record_ledger]
      simp [HostEvent.obtained, HostEvent.closed?, HostEvent.isWait, ledger]
    · simp only [record, odds, Odds.afterStream, hnext]
    · simp only [wrap, hfault]

theorem closeFd_eq (fd : Fd) (s : Host) : (s.closeFd fd).ledger = s.ledger.close fd ∧ (s.closeFd fd).odds = s.odds := by
  simp only [closeFd, record_ledger]
  exact ⟨by simp [HostEvent.obtained, HostEvent.closed?, HostEvent.isWait, ledger, Ledger.close], rfl⟩

theorem closeStream_eq (fd : Fd) (s : Host) :
    (s.closeStream fd).ledger = s.ledger.release fd ∧ (s.closeStream fd).odds = s.odds := by
  have hopen : s.isOpen fd = true ↔ fd ∈ s.ledger.live := List.contains_iff_mem
  simp only [closeStream, Ledger.release, hopen]
  split
  · exact closeFd_eq fd s
  · exact ⟨rfl, rfl⟩

/-- What starting a program does. -/
theorem launch_cases (args : List String) (input output : Option Fd) (directory : Option String)
    (environment : Option (List (String × String))) (s : Host) :
    ∃ s', s'.ledger = s.ledger ∧ s'.odds = s.odds.afterChild ∧
      s.launch args input output directory environment = (s.odds.child 0, s') := by
  have hnext (n : Nat) : s.launches + 1 + 1 + n = s.launches + 1 + (n + 1) := by omega
  have hstarted : (record (.launch args input output directory environment)
      { s with launches := s.launches + 1 }).ledger = s.ledger := by
    rw [record_ledger]
    simp [HostEvent.obtained, HostEvent.closed?, HostEvent.isWait, ledger]
  have hchild : s.odds.child 0 = s.child (s.launches + 1) := rfl
  refine ⟨(s.launch args input output directory environment).2, ?_, ?_, ?_⟩
  · simp only [launch]
    split
    · exact hstarted
    · cases output <;> exact hstarted
  · simp only [launch]
    split
    · simp only [record, odds, Odds.afterChild, hnext]
    · cases output <;> simp only [record, odds, Odds.afterChild, hnext, deliver, Option.elim]
  · rw [hchild]
    simp only [launch]
    split
    · next e hc => exact Prod.ext hc.symm rfl
    · next child hc => exact Prod.ext hc.symm rfl

theorem wait_eq (s : Host) : (s.record .wait).ledger = s.ledger.wait ∧ (s.record .wait).odds = s.odds := by
  rw [record_ledger]
  exact ⟨by simp [HostEvent.obtained, HostEvent.closed?, HostEvent.isWait, Ledger.wait], rfl⟩

theorem read_eq (most : Nat) (fd : Fd) (s : Host) : (s.read most fd).2.ledger = s.ledger := by
  simp only [read]
  split <;> rfl

theorem write_eq (bytes : List UInt8) (fd : Fd) (s : Host) : (s.write bytes fd).2.ledger = s.ledger := by
  simp only [write]
  split
  · rw [record_ledger]
    simp [HostEvent.obtained, HostEvent.closed?, HostEvent.isWait]
  · rfl

end Host

end Dialogue
