import Dialogue.Proofs.Exact
import Dialogue.Retry
/-!
# Retrying to the end of the time

While polls fail in time, each begins an interval after the end of the one before: that is the timetable `begins`.
The first poll that does not fail in time is the last one (`Last`), and retrying ends with it (`pollFrom_ends`). There
is such a poll: every failed one takes an interval off the time that is left, so that `Moment.rounds` of them use it up.
-/

namespace Dialogue.Retry

open Moment (Exact Counted)

variable {T : Type} [Moment T]

/-! ## The timetable -/

section

variable (polls : Nat → Poll T) (interval now : T)

/-- When the poll numbered `n` begins if all before it fail in time: the first at once, every other one an interval
after the end of the one before. -/
def begins : Nat → T
  | 0 => now
  | n + 1 => begins n + (polls n).cost + interval

/-- When the poll numbered `n` ends. -/
def ends (n : Nat) : T := begins polls interval now n + (polls n).cost

/-- At the end of the poll numbered `n` time is up. -/
def Late (limit : Span T) (n : Nat) : Prop := limit.length ≤ ends polls interval now n - now

/-- The poll numbered `n` is the last one: those before it fail with time left, and it does not. -/
structure Last (limit : Span T) (n : Nat) : Prop where
  before : ∀ m < n, (polls m).answer = .ok false ∧ ¬ Late polls interval now limit m
  last : (polls n).answer = .ok false → Late polls interval now limit n

end

/-- What retrying ends with, by the answer of the last poll. -/
def verdict (limit : Span T) (raises : Bool) : Except Failure Bool → Except Failure Bool
  | .ok false => giveUp limit raises
  | answer => answer

omit [Moment T] in
theorem verdict_eq_true_iff {limit : Span T} {raises : Bool} {answer : Except Failure Bool} :
    verdict limit raises answer = .ok true ↔ answer = .ok true := by
  unfold verdict giveUp
  split
  · cases raises <;> simp
  · rfl

variable {polls : Nat → Poll T} {interval now : T} {limit : Span T} {raises : Bool} {n : Nat}

theorem range_succ_begins (n : Nat) : (List.range (n + 1)).map (begins polls interval now) =
    (List.range n).map (begins polls interval now) ++ [begins polls interval now n] := by
  rw [List.range_succ, List.map_append, List.map_singleton]

variable [Exact T]

/-- Each poll and the interval after it take as much time as the interval, or more. -/
theorem steps_le_begins (hcost : ∀ n, 0 ≤ (polls n).cost) (n : Nat) :
    now + Moment.steps interval n ≤ begins polls interval now n := by
  induction n with
  | zero =>
    change now + 0 ≤ now
    rw [Exact.add_zero]
    exact Exact.le_refl now
  | succ n ih =>
    have hend : now + Moment.steps interval n ≤ begins polls interval now n + (polls n).cost :=
      Exact.le_trans ih (Exact.le_add (hcost n) _)
    change now + (Moment.steps interval n + interval) ≤ begins polls interval now n + (polls n).cost + interval
    rw [← Exact.add_assoc, Exact.add_comm _ interval, Exact.add_comm _ interval]
    exact Exact.add_le_add interval hend

/-- A poll that ends with time left is not the last that there is time for. -/
theorem lt_rounds_of_not_late [Counted T] (hinterval : 0 < interval) (hcost : ∀ n, 0 ≤ (polls n).cost)
    (h : ¬ Late polls interval now limit n) : n < Moment.rounds limit.length interval := by
  apply Nat.lt_of_not_le
  intro hrounds
  apply h
  have hcover : limit.length ≤ Moment.steps interval n := (Counted.rounds_le_iff hinterval).1 hrounds
  have hsteps : now + Moment.steps interval n ≤ ends polls interval now n :=
    Exact.le_trans (steps_le_begins hcost n) (Exact.le_add (hcost n) _)
  exact Exact.le_sub_iff.2 (Exact.le_trans (Exact.add_le_add now hcover) hsteps)

/-! ## The loop -/

/-- After a poll that fails in time the loop goes on with the next one, when the timetable says. -/
theorem pollFrom_of_failed (hinterval : 0 < interval) (hcost : 0 ≤ (polls n).cost)
    (hfailed : (polls n).answer = .ok false) (hearly : ¬ Late polls interval now limit n) (fuel : Nat) :
    pollFrom polls limit interval raises now (fuel + 1) ((List.range n).map (begins polls interval now))
        (begins polls interval now n) =
      pollFrom polls limit interval raises now fuel ((List.range (n + 1)).map (begins polls interval now))
        (begins polls interval now (n + 1)) := by
  have hearly : ¬ limit.length ≤ begins polls interval now n + (polls n).cost - now := hearly
  rw [pollFrom, List.length_map, List.length_range, ← range_succ_begins]
  simp only [if_neg (Exact.not_lt hcost), hfailed, if_neg hearly, if_neg (Exact.not_lt (Exact.le_of_lt hinterval))]
  rfl

/-- Any other poll ends the loop. -/
theorem pollFrom_of_last (hcost : 0 ≤ (polls n).cost)
    (hlast : (polls n).answer = .ok false → Late polls interval now limit n) (fuel : Nat) :
    pollFrom polls limit interval raises now (fuel + 1) ((List.range n).map (begins polls interval now))
        (begins polls interval now n) =
      ⟨verdict limit raises (polls n).answer, (List.range (n + 1)).map (begins polls interval now),
        ends polls interval now n⟩ := by
  rw [pollFrom, List.length_map, List.length_range, ← range_succ_begins]
  simp only [if_neg (Exact.not_lt hcost)]
  rcases hanswer : (polls n).answer with e | _ | _
  · rfl
  · have hlate : limit.length ≤ begins polls interval now n + (polls n).cost - now := hlast hanswer
    simp only [if_pos hlate]
    rfl
  · rfl

variable [Counted T]

/-- The loop ends with the last poll, before its fuel does. -/
theorem pollFrom_ends (hinterval : 0 < interval) (hcost : ∀ n, 0 ≤ (polls n).cost) (fuel : Nat)
    (hbefore : ∀ m < n, (polls m).answer = .ok false ∧ ¬ Late polls interval now limit m)
    (hn : n ≤ Moment.rounds limit.length interval) (hfuel : Moment.rounds limit.length interval < n + fuel) :
    ∃ last, Last polls interval now limit last ∧ last ≤ Moment.rounds limit.length interval ∧
      pollFrom polls limit interval raises now fuel ((List.range n).map (begins polls interval now))
          (begins polls interval now n) =
        ⟨verdict limit raises (polls last).answer, (List.range (last + 1)).map (begins polls interval now),
          ends polls interval now last⟩ := by
  induction fuel generalizing n with
  | zero => omega
  | succ fuel ih =>
    by_cases hfailed : (polls n).answer = .ok false ∧ ¬ Late polls interval now limit n
    · have hnext : ∀ m < n + 1, (polls m).answer = .ok false ∧ ¬ Late polls interval now limit m := by
        intro m hm
        rcases Nat.lt_succ_iff_lt_or_eq.1 hm with hm | rfl
        · exact hbefore m hm
        · exact hfailed
      rw [pollFrom_of_failed hinterval (hcost n) hfailed.1 hfailed.2]
      exact ih hnext (lt_rounds_of_not_late hinterval hcost hfailed.2) (by omega)
    · have hlast : (polls n).answer = .ok false → Late polls interval now limit n := by
        intro hanswer
        exact Classical.byContradiction fun hearly => hfailed ⟨hanswer, hearly⟩
      exact ⟨n, ⟨hbefore, hlast⟩, hn, pollFrom_of_last (hcost n) hlast fuel⟩

theorem run_ends (hinterval : 0 < interval) (hcost : ∀ n, 0 ≤ (polls n).cost) :
    ∃ last, Last polls interval now limit last ∧ last ≤ Moment.rounds limit.length interval ∧
      run polls limit interval raises now =
        ⟨verdict limit raises (polls last).answer, (List.range (last + 1)).map (begins polls interval now),
          ends polls interval now last⟩ := by
  have hbefore : ∀ m < 0, (polls m).answer = .ok false ∧ ¬ Late polls interval now limit m := by
    intro m hm
    omega
  exact pollFrom_ends hinterval hcost _ hbefore (Nat.zero_le _) (by omega)

omit [Exact T] [Counted T] in
/-- Retrying succeeds if some poll holds that is reached in time. -/
theorem Last.holds_iff (h : Last polls interval now limit n) : (polls n).answer = .ok true ↔
    ∃ m, (polls m).answer = .ok true ∧ ∀ k < m, (polls k).answer.isOk ∧ ¬ Late polls interval now limit k := by
  constructor
  · intro hholds
    refine ⟨n, hholds, fun k hk => ?_⟩
    obtain ⟨hfailed, hearly⟩ := h.before k hk
    rw [hfailed]
    exact ⟨rfl, hearly⟩
  · rintro ⟨m, hholds, hreached⟩
    rcases Nat.lt_trichotomy n m with hlt | rfl | hgt
    · -- The last poll would have ended in time, so that it did not fail.
      obtain ⟨hok, hearly⟩ := hreached n hlt
      rcases hanswer : (polls n).answer with e | _ | _
      · rw [hanswer] at hok
        cases hok
      · exact absurd (h.last hanswer) hearly
      · rfl
    · exact hholds
    · have hfailed := (h.before m hgt).1
      rw [hholds] at hfailed
      cases hfailed

/-- Retrying goes on to the end of its time. Its polls begin as the timetable says; all but the last fail in time. It
ends with the last one, which holds or raises an error however late it is, or fails when time is up; in that case
retrying gives up. It succeeds exactly if some poll holds and all before it, none of which raises an error, end with
time left. There is at most one poll more than intervals cover the time. -/
theorem polls_until_time_is_up (polls : Nat → Poll T) (limit : Span T) (interval : T) (raises : Bool) (now : T)
    (hinterval : 0 < interval) (hcost : ∀ n, 0 ≤ (polls n).cost) :
    let r := run polls limit interval raises now
    (∃ last, r.polled = (List.range (last + 1)).map (begins polls interval now) ∧ r.now = ends polls interval now last ∧
      (∀ n < last, (polls n).answer = .ok false ∧ ¬ Late polls interval now limit n) ∧
      ((polls last).answer ≠ .ok false ∧ r.outcome = (polls last).answer ∨
        (polls last).answer = .ok false ∧ Late polls interval now limit last ∧
          r.outcome = if raises then .error (.conditionOverdue limit.written) else .ok false)) ∧
    (r.outcome = .ok true ↔ ∃ n, (polls n).answer = .ok true ∧
      ∀ m < n, (polls m).answer.isOk ∧ ¬ Late polls interval now limit m) ∧
    r.calls ≤ Moment.rounds limit.length interval + 1 ∧
    (Failure.conditionOverdue limit.written).kind = "WaitTimeout" ∧
    (Failure.conditionOverdue limit.written).message = "Timed out after " ++ limit.written.plain ++ " seconds" := by
  intro r
  obtain ⟨last, hlast, hrounds, heq⟩ : ∃ last, Last polls interval now limit last ∧
      last ≤ Moment.rounds limit.length interval ∧ r = _ := run_ends hinterval hcost
  rw [heq]
  refine ⟨⟨last, rfl, rfl, hlast.before, ?_⟩, ?_, ?_, rfl, rfl⟩
  · by_cases hfailed : (polls last).answer = .ok false
    · right
      refine ⟨hfailed, hlast.last hfailed, ?_⟩
      rw [hfailed]
      rfl
    · left
      refine ⟨hfailed, ?_⟩
      unfold verdict
      split
      · next hanswer => exact absurd hanswer hfailed
      · rfl
  · rw [verdict_eq_true_iff]
    exact hlast.holds_iff
  · simp only [Retried.calls, List.length_map, List.length_range]
    omega

/-- A condition that holds from its second poll on. -/
def slow : Nat → Poll Rat := fun n => ⟨1 / 2, .ok (n != 0)⟩

/-- A poll that holds counts, though it begins after time is up. -/
theorem slow_holds_late :
    0 < (1 / 20 : Rat) ∧ (∀ n, 0 ≤ (slow n).cost) ∧
      let r := run slow ⟨51 / 100, .none⟩ (1 / 20) true 0
      r.outcome = .ok true ∧ r.polled = [0, 11 / 20] ∧ r.now = 21 / 20 ∧ r.calls ≤ 12 := by
  have hinterval : 0 < (1 / 20 : Rat) := by decide +kernel
  have hcost (n : Nat) : 0 ≤ (slow n).cost := by
    change (0 : Rat) ≤ 1 / 2
    decide +kernel
  obtain ⟨-, hholds, hcalls, -⟩ := polls_until_time_is_up slow ⟨51 / 100, .none⟩ (1 / 20) true 0 hinterval hcost
  refine ⟨hinterval, hcost, hholds.2 ⟨1, rfl, ?_⟩, by decide +kernel, by decide +kernel, ?_⟩
  · intro m hm
    obtain rfl : m = 0 := by omega
    refine ⟨rfl, ?_⟩
    change ¬ (51 / 100 : Rat) ≤ 0 + 1 / 2 - 0
    decide +kernel
  · have hrounds : Moment.rounds (51 / 100 : Rat) (1 / 20) = 11 := by decide +kernel
    exact Nat.le_trans hcalls (Nat.le_of_eq (congrArg (· + 1) hrounds))

end Dialogue.Retry
