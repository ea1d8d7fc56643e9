import Dialogue.Proofs.Timeline
/-!
# Waiting for quiet

A call without partial matches takes a match only once nothing has come in for an interval. While things come in
again and again within an interval (`Instant.Burst`), every wait is long enough for the next of them, whether the
text matches or not, and no wait but the last is over before something comes in. So it is the text after the
last of them that is matched, an interval later (`Restful.expectAny_burst`).
-/

namespace Dialogue

variable {T σ M : Type}

/-- What has come in has come in now, if it is not the end of the output. -/
def Stage.Fresh (now : T) (st : Stage T σ) : Prop :=
  st.session.stirred = true → st.session.eof = true ∨ st.session.lastRead = now

theorem Stage.Fresh.ongoing {S : Setting σ M} (now : T) : Ongoing S now (Stage.Fresh (T := T) (σ := σ) now) where
  aside h ha := by
    obtain ⟨closed, channel, waiter, hs⟩ := ha.session
    unfold Stage.Fresh
    rw [hs]
    exact h
  pause _ h _ _ := h
  take _ _ _ _ _ _ := by
    rw [Stage.takeIn_eq]
    exact fun _ => .inr rfl
  stop _ _ _ _ _ := fun _ => .inl rfl
  fail _ h _ _ _ := h

variable [Moment T]

/-- What a match takes is told by the buffer alone. -/
theorem Stage.consume_congr {st st' : Stage T σ} (h : st'.session.buffer = st.session.buffer) (f : Finding)
    (elapsed : T) : (st'.consume f elapsed).1 = (st.consume f elapsed).1 ∧
      (st'.consume f elapsed).2.before = (st.consume f elapsed).2.before := by
  constructor
  · simp only [Stage.consume, h]
  · show (st'.session.buffer.extract f.found.stop st'.session.buffer.size).toList = _
    rw [h]
    rfl

namespace Instant

variable {life : Life T (Stage T σ) M} {deadline deadline' interval : T} {agenda : List (Appointment T M)}
  {i j : Instant T σ}

/-- From an instant on something comes in again and again, each time before an interval is over, and then
nothing for an interval; `j` is the instant of the last. -/
inductive Burst (life : Life T (Stage T σ) M) (interval : T) :
    List (Appointment T M) → Instant T σ → Instant T σ → Prop
  | quiet {agenda : List (Appointment T M)} {i : Instant T σ} (h : next life (i.now + interval) agenda i = none) :
    Burst life interval agenda i i
  | more {agenda rest : List (Appointment T M)} {i k j : Instant T σ}
    (h : next life (i.now + interval) agenda i = some (rest, k)) (hopen : k.world.session.eof = false)
    (hmore : Burst life interval rest k j) : Burst life interval agenda i j

variable [Moment.Exact T]

/-- What comes in by a deadline comes in by a later one. -/
theorem next_mono (hle : deadline ≤ deadline') {found : List (Appointment T M) × Instant T σ}
    (h : next life deadline agenda i = some found) : next life deadline' agenda i = some found := by
  induction agenda generalizing i with
  | nil => simp [next] at h
  | cons a agenda ih =>
    simp only [next] at h ⊢
    split at h
    · next hdue =>
      rw [if_pos (Moment.Exact.le_trans hdue hle)]
      split at h
      · next hstirred => rwa [if_pos hstirred]
      · next hstirred =>
        rw [if_neg hstirred]
        exact ih h
    · simp at h

theorem Burst.le (h : Burst life interval agenda i j) (hinterval : 0 < interval) : i.now ≤ j.now := by
  induction h with
  | quiet => exact Moment.Exact.le_refl _
  | more h _ _ ih =>
    have hbounds := next_bounds (Moment.Exact.le_add (Moment.Exact.le_of_lt hinterval) _) h
    exact Moment.Exact.le_trans hbounds.1 ih

end Instant

namespace Restful

variable {S : Setting σ M} {G : Stage T σ → Prop} {c : Conduct T} {agenda rest : List (Appointment T M)}
  {i j k : Instant T σ} {deadline : T} {patterns : List Pattern} {f : Finding}

/-- Whatever comes in comes in with an appointment. -/
theorem exists_after (hr : Restful S G) (h : Linked S G i.world)
    (hnext : Instant.next S.life deadline agenda i = some (rest, j)) :
    ∃ (i' : Instant T σ) (a : Appointment T M), Linked S G i'.world ∧ j = i'.after S.life a ∧ j.world.session.stirred = true := by
  induction agenda generalizing i with
  | nil => simp [Instant.next] at hnext
  | cons a agenda ih =>
    simp only [Instant.next] at hnext
    split at hnext
    · split at hnext
      · next hstirred =>
        obtain ⟨-, rfl⟩ := Prod.mk.inj (Option.some.inj hnext)
        exact ⟨i, a, h, rfl, hstirred⟩
      · exact ih (hr.after a h).1 hnext
    · simp at hnext

/-- A chunk that has come in is as old as the instant with which it did. -/
theorem lastRead_of_next (hr : Restful S G) (h : Linked S G i.world)
    (hnext : Instant.next S.life deadline agenda i = some (rest, j)) (hopen : j.world.session.eof = false) :
    j.world.session.lastRead = j.now := by
  obtain ⟨i', a, hi', rfl, hstirred⟩ := hr.exists_after h hnext
  have ho : Ongoing S (Moment.later i'.now a.due) (Stage.Fresh (Moment.later i'.now a.due)) :=
    Stage.Fresh.ongoing _
  have hcalm : Linked S (Stage.Fresh (Moment.later i'.now a.due)) i'.world.calm := ⟨hi'.1, fun hs => nomatch hs⟩
  have hfresh := (ho.settle (ho.moved a.moves hcalm)).2
  rcases hfresh hstirred with heof | hread
  · exact absurd (heof.symm.trans hopen) (by simp)
  · exact hread

variable [Moment.Exact T]

/-- While the output has been quiet for less than an interval, a call waits, for an interval at least, and for
no longer if it has found something. -/
theorem judge_unsettled (patterns : List Pattern) (deadline : T) {st : Stage T σ} {now : T}
    (hpartial : st.session.conduct.partialMatch = false)
    (hinterval : 0 < st.session.conduct.checkInterval) (hopen : st.session.eof = false)
    (hread : st.session.lastRead = now) (hdeadline : now + st.session.conduct.checkInterval ≤ deadline) :
    ∃ length, st.judge patterns deadline now = .wait length ∧ st.session.conduct.checkInterval ≤ length ∧
      ∀ f, Finding.search patterns st.session.buffer = some f → length = st.session.conduct.checkInterval := by
  have henough : st.session.conduct.checkInterval ≤ deadline - now := Moment.Exact.le_sub_iff.2 hdeadline
  have hremaining : ¬ deadline - now ≤ 0 := fun hle =>
    Moment.Exact.not_lt (Moment.Exact.le_trans henough hle) hinterval
  cases hsearch : Finding.search patterns st.session.buffer with
  | none =>
    refine ⟨deadline - now, ?_, henough, fun f hf => nomatch hf⟩
    simp [Stage.judge, hsearch, hopen, hremaining]
  | some f =>
    have hunsettled : st.settled now = false := by
      have hnow : ¬ st.session.conduct.checkInterval ≤ now - st.session.lastRead := by
        rw [hread, Moment.Exact.le_sub_iff]
        exact Moment.Exact.not_add_le hinterval now
      simp [Stage.settled, hpartial, hopen, hnow]
    refine ⟨st.session.conduct.checkInterval, ?_, Moment.Exact.le_refl _, fun _ _ => rfl⟩
    have hshorter : Moment.shorter (deadline - now) st.session.conduct.checkInterval =
        st.session.conduct.checkInterval := by
      unfold Moment.shorter
      split
      · rfl
      · next hlt => exact Moment.Exact.le_antisymm (Moment.Exact.le_of_not_lt hlt) henough
    simp [Stage.judge, hsearch, hunsettled, hremaining, hshorter]

/-- After an interval of quiet a match is taken. -/
theorem judge_settled (deadline : T) {st : Stage T σ} {now : T} (hread : st.session.lastRead = now)
    (hfound : Finding.search patterns st.session.buffer = some f) :
    st.judge patterns deadline (now + st.session.conduct.checkInterval) = .found f := by
  have hquiet : st.session.conduct.checkInterval ≤
      now + st.session.conduct.checkInterval - st.session.lastRead := by
    rw [hread, Moment.Exact.le_sub_iff]
    exact Moment.Exact.le_refl _
  simp [Stage.judge, hfound, Stage.settled, hquiet]

section
variable {limit : Span T} {started : T} {fuel : Nat}

/-- Where nothing comes in for an interval, a call takes its match when that is over. -/
theorem expectUntil_quiet (hr : Restful S G) (hconduct : ∀ st, G st → st.session.conduct = c)
    (hpartial : c.partialMatch = false) (hinterval : 0 < c.checkInterval) (h : Linked S G i.world)
    (hrest : i.world.AtRest) (hopen : i.world.session.eof = false) (hread : i.world.session.lastRead = i.now)
    (hnext : Instant.next S.life (i.now + c.checkInterval) agenda i = none)
    (hdeadline : i.now + c.checkInterval ≤ started + limit.length)
    (hfound : Finding.search patterns i.world.session.buffer = some f) (faults : List Failure) :
    let call := Stage.expectUntil S.life patterns limit started (fuel + 2) ⟨i.now, agenda, faults, i.world⟩
    let taken := i.world.consume f (i.now + c.checkInterval - started)
    call.1 = .ok taken.1 ∧ call.2.now = i.now + c.checkInterval ∧ call.2.world.before = taken.2.before := by
  have hlonger : i.now ≤ i.now + c.checkInterval := Moment.Exact.le_add (Moment.Exact.le_of_lt hinterval) i.now
  obtain ⟨length, hjudge, -, hlength⟩ := judge_unsettled patterns (started + limit.length)
    (by rw [hconduct _ h.2, hpartial]) (by rwa [hconduct _ h.2]) hopen hread (by rwa [hconduct _ h.2])
  obtain rfl : length = c.checkInterval := (hlength f hfound).trans (by rw [hconduct _ h.2])
  -- The call waits, and finds what it has found before.
  have hends := hr.lull_ends (s := ⟨i.now, agenda, faults, i.world⟩) c.checkInterval h hlonger
  rw [next_nothing hrest hlonger, hnext] at hends
  rw [Stage.expectUntil_succ, hjudge]
  simp only
  generalize Stage.lull S.life c.checkInterval ⟨i.now, agenda, faults, i.world⟩ = r at hends ⊢
  obtain ⟨rnow, ragenda, rfaults, rworld⟩ := r
  obtain ⟨rfl, hsame⟩ := hends
  have hsettled := judge_settled (started + limit.length) (hsame.lastRead.trans hread)
    ((congrArg (Finding.search patterns) hsame.buffer).trans hfound)
  rw [hsame.conduct.trans (hconduct _ h.2)] at hsettled
  rw [Stage.expectUntil_succ, hsettled]
  obtain ⟨htaken, hbefore⟩ := Stage.consume_congr hsame.buffer f (i.now + c.checkInterval - started)
  exact ⟨congrArg Except.ok htaken, rfl, hbefore⟩

/-- Where something comes in within an interval, a call goes on from there: however long it waits, that comes in
before its wait is over. -/
theorem expectUntil_next (hr : Restful S G) (patterns : List Pattern) (fuel : Nat) (hconduct : ∀ st, G st → st.session.conduct = c)
    (hpartial : c.partialMatch = false) (hinterval : 0 < c.checkInterval) (h : Linked S G i.world)
    (hrest : i.world.AtRest) (hopen : i.world.session.eof = false) (hread : i.world.session.lastRead = i.now)
    (hnext : Instant.next S.life (i.now + c.checkInterval) agenda i = some (rest, k))
    (hdeadline : i.now + c.checkInterval ≤ started + limit.length) (faults : List Failure) :
    ∃ faults', Stage.expectUntil S.life patterns limit started (fuel + 1) ⟨i.now, agenda, faults, i.world⟩ =
      Stage.expectUntil S.life patterns limit started fuel ⟨k.now, rest, faults', k.world⟩ := by
  have hlonger : i.now ≤ i.now + c.checkInterval := Moment.Exact.le_add (Moment.Exact.le_of_lt hinterval) i.now
  obtain ⟨length, hjudge, hwait, -⟩ := judge_unsettled patterns (started + limit.length)
    (by rw [hconduct _ h.2, hpartial]) (by rwa [hconduct _ h.2]) hopen hread (by rwa [hconduct _ h.2])
  rw [hconduct _ h.2] at hwait
  have hwait := Moment.Exact.add_le_add i.now hwait
  have hends := hr.lull_ends (s := ⟨i.now, agenda, faults, i.world⟩) length h (Moment.Exact.le_trans hlonger hwait)
  rw [next_nothing hrest (Moment.Exact.le_trans hlonger hwait), Instant.next_mono hwait hnext] at hends
  rw [Stage.expectUntil_succ, hjudge]
  simp only
  generalize Stage.lull S.life length ⟨i.now, agenda, faults, i.world⟩ = r at hends ⊢
  obtain ⟨rnow, ragenda, rfaults, rworld⟩ := r
  obtain ⟨rfl, rfl, rfl⟩ := hends
  exact ⟨rfaults, rfl⟩

/-- From any instant of a burst on, a call takes its match when the burst is over. -/
theorem expectUntil_burst (hr : Restful S G) (hconduct : ∀ st, G st → st.session.conduct = c)
    (hpartial : c.partialMatch = false) (hinterval : 0 < c.checkInterval)
    (hburst : Instant.Burst S.life c.checkInterval agenda i j) (h : Linked S G i.world) (hrest : i.world.AtRest)
    (hopen : i.world.session.eof = false) (hread : i.world.session.lastRead = i.now)
    (hdeadline : j.now + c.checkInterval ≤ started + limit.length)
    (hfound : Finding.search patterns j.world.session.buffer = some f) (faults : List Failure)
    (hfuel : agenda.length + 2 ≤ fuel) :
    let call := Stage.expectUntil S.life patterns limit started fuel ⟨i.now, agenda, faults, i.world⟩
    let taken := j.world.consume f (j.now + c.checkInterval - started)
    call.1 = .ok taken.1 ∧ call.2.now = j.now + c.checkInterval ∧ call.2.world.before = taken.2.before := by
  have hlonger (t : T) : t ≤ t + c.checkInterval := Moment.Exact.le_add (Moment.Exact.le_of_lt hinterval) t
  induction hburst generalizing faults fuel with
  | @quiet agenda i hnext =>
    obtain ⟨fuel, rfl⟩ : ∃ n, fuel = n + 2 := ⟨fuel - 2, by omega⟩
    exact hr.expectUntil_quiet hconduct hpartial hinterval h hrest hopen hread hnext hdeadline hfound faults
  | @more agenda rest i k j hnext hopen' hmore ih =>
    obtain ⟨fuel, rfl⟩ : ∃ n, fuel = n + 1 := ⟨fuel - 1, by omega⟩
    obtain ⟨hik, -, hlength⟩ := Instant.next_bounds (hlonger i.now) hnext
    have hlate : i.now + c.checkInterval ≤ started + limit.length := by
      refine Moment.Exact.le_trans ?_ hdeadline
      rw [Moment.Exact.add_comm, Moment.Exact.add_comm j.now]
      exact Moment.Exact.add_le_add _ (Moment.Exact.le_trans hik (hmore.le hinterval))
    obtain ⟨faults', heq⟩ := hr.expectUntil_next patterns fuel hconduct hpartial hinterval h hrest hopen hread hnext
      hlate faults
    obtain ⟨hk, hkrest⟩ := hr.of_next h hnext
    have hkread := hr.lastRead_of_next h hnext hopen'
    rw [heq]
    exact ih hk hkrest hopen' hkread hdeadline hfound faults' (by omega)

end

/-- A call that finds nothing when it begins takes its match an interval after the last of what comes in, if
that comes in as a burst. -/
theorem expectAny_burst (hr : Restful S G) (hconduct : ∀ st, G st → st.session.conduct = c)
    (hpartial : c.partialMatch = false) (hinterval : 0 < c.checkInterval) {targets : List Target}
    {limit : Option (Span T)} {s : Scene T (Stage T σ) M}
    (htargets : Target.compileAll s.world.session.conduct.engine targets = .ok patterns)
    (h : Linked S G s.world) (hopen : s.world.session.eof = false)
    (hnone : Finding.search patterns s.world.session.buffer = none)
    (hnext : Instant.next S.life (s.now + (limit.getD s.world.session.timeout).length) (⟨s.now, []⟩ :: s.agenda)
      ⟨s.now, s.world⟩ = some (rest, k)) (hopen' : k.world.session.eof = false)
    (hburst : Instant.Burst S.life c.checkInterval rest k j)
    (hdeadline : j.now + c.checkInterval ≤ s.now + (limit.getD s.world.session.timeout).length)
    (hfound : Finding.search patterns j.world.session.buffer = some f) :
    let call := Stage.expectAny S.life targets limit s
    let taken := j.world.consume f (j.now + c.checkInterval - s.now)
    call.1 = .ok taken.1 ∧ call.2.now = j.now + c.checkInterval ∧ call.2.world.before = taken.2.before := by
  simp only [Stage.expectAny, htargets]
  generalize limit.getD s.world.session.timeout = span at hnext hdeadline ⊢
  obtain ⟨fuel, hpatience⟩ : ∃ n, Stage.patience s = n + 1 := ⟨4 * s.agenda.length + 7, rfl⟩
  have hfuel : s.agenda.length + 2 < fuel + 1 := by
    simp only [Stage.patience] at hpatience
    omega
  have hnow : s.now ≤ s.now + span.length := by
    refine Classical.byContradiction fun hlate => ?_
    simp [Instant.next, hlate] at hnext
  -- The call begins before its deadline, since the burst is over by then.
  obtain ⟨hsk, -, -⟩ := Instant.next_bounds (i := ⟨s.now, s.world⟩) hnow hnext
  have hlate : ¬ s.now + span.length - s.now ≤ 0 := by
    intro hle
    have hover := Moment.Exact.le_trans hdeadline (Moment.Exact.sub_nonpos.1 hle)
    have hback := Moment.Exact.le_trans hover (Moment.Exact.le_trans hsk (hburst.le hinterval))
    exact Moment.Exact.not_add_le hinterval j.now hback
  have hjudge : s.world.judge patterns (s.now + span.length) s.now = .wait (s.now + span.length - s.now) := by
    simp [Stage.judge, hnone, hopen, hlate]
  have hends := hr.lull_ends (s.now + span.length - s.now) h (by rwa [Moment.Exact.add_sub])
  rw [Moment.Exact.add_sub, hnext] at hends
  obtain ⟨hk, hkrest⟩ := hr.of_next h hnext
  have hkread := hr.lastRead_of_next h hnext hopen'
  have hleft := fuel_left hnow hnext (.inl hfuel)
  rw [hpatience, Stage.expectUntil_succ, hjudge]
  simp only
  generalize Stage.lull S.life (s.now + span.length - s.now) s = r at hends ⊢
  obtain ⟨rnow, ragenda, rfaults, rworld⟩ := r
  obtain ⟨rfl, rfl, rfl⟩ := hends
  exact hr.expectUntil_burst hconduct hpartial hinterval hburst hk hkrest hopen' hkread hdeadline hfound rfaults hleft

end Restful

end Dialogue
