import Dialogue.Proofs.Waiting
/-!
# The timeline of a call

A call that waits for patterns looks at its start and whenever something has come in. On an exact clock
what it gives back is told by the first of these instants at which the text matches or has ended
(`Restful.expectUntil_eq`). An instant before the deadline counts, and of those at the deadline only the
first: after it the call has no time left to wait for another.
-/

namespace Dialogue

variable {T σ M : Type}

namespace Instant

/-- The instants at which something has come in. -/
def arrivals (is : List (Instant T σ)) : List (Instant T σ) := is.filter (·.world.session.stirred)

theorem arrivals_cons (i : Instant T σ) (is : List (Instant T σ)) :
    arrivals (i :: is) = if i.world.session.stirred then i :: arrivals is else arrivals is :=
  List.filter_cons

variable [Moment T]

/-- The instants before the deadline, and the first of those at it. -/
def upTo (deadline : T) : List (Instant T σ) → List (Instant T σ)
  | [] => []
  | i :: is =>
    if i.now < deadline then i :: upTo deadline is
    else if i.now ≤ deadline then [i]
    else []

/-- The instants of a wait until a deadline that begins in a scene. What has come in before, and has
not been read, is read at once. -/
def during (life : Life T (Stage T σ) M) (deadline : T) (s : Scene T (Stage T σ) M) : List (Instant T σ) :=
  if s.now < deadline then
    upTo deadline (arrivals (course life (⟨s.now, []⟩ :: s.agenda) ⟨s.now, s.world⟩))
  else []

/-- What a call gives back that began at `started` and looks at some instants, and when. -/
def answer (patterns : List Pattern) (limit : Span T) (started : T) :
    List (Instant T σ) → Except Failure (Match T) × T
  | [] =>
    (.error (.expectTimeout (some (patterns.map fun p => Value.text p.source, limit.written))),
      Moment.later started (started + limit.length))
  | i :: is =>
    match Finding.search patterns i.world.session.buffer with
    | some f => (.ok (i.world.consume f (i.now - started)).1, i.now)
    | none =>
      if i.world.session.eof then
        (.error (.expectEnd (some (patterns.map fun p => Value.text p.source))), i.now)
      else answer patterns limit started is

variable {life : Life T (Stage T σ) M} {deadline : T} {agenda : List (Appointment T M)} {i j : Instant T σ}

/-! ## Looking ahead -/

theorem upTo_cons (h : i.now ≤ deadline) (is : List (Instant T σ)) :
    upTo deadline (i :: is) = i :: if i.now < deadline then upTo deadline is else [] := by
  simp only [upTo, if_pos h]
  split <;> rfl

theorem course_append (life : Life T (Stage T σ) M) (agenda : List (Appointment T M)) (i : Instant T σ)
    (later : List (Appointment T M)) :
    ∃ j, course life (agenda ++ later) i = course life agenda i ++ course life later j := by
  induction agenda generalizing i with
  | nil => exact ⟨i, rfl⟩
  | cons a agenda ih =>
    obtain ⟨j, hj⟩ := ih (i.after life a)
    exact ⟨j, by simp only [List.cons_append, course, hj]⟩

section Answer

variable {patterns : List Pattern} {limit : Span T} {started : T}

theorem answer_append (patterns : List Pattern) (limit : Span T) (started : T) (before later : List (Instant T σ)) :
    answer patterns limit started (before ++ later) = answer patterns limit started before ∨
      answer patterns limit started (before ++ later) = answer patterns limit started later ∧
        answer patterns limit started before = answer patterns limit started ([] : List (Instant T σ)) := by
  induction before with
  | nil => exact .inr ⟨rfl, rfl⟩
  | cons i before ih =>
    simp only [List.cons_append, answer]
    split
    · exact .inl rfl
    · split
      · exact .inl rfl
      · exact ih

/-- An answer is given at one of the instants, or as if there were none. -/
theorem answer_now (patterns : List Pattern) (limit : Span T) (started : T) (is : List (Instant T σ)) :
    (∃ i ∈ is, (answer patterns limit started is).2 = i.now) ∨
      answer patterns limit started is = answer patterns limit started ([] : List (Instant T σ)) := by
  induction is with
  | nil => exact .inr rfl
  | cons i is ih =>
    simp only [answer]
    split
    · exact .inl ⟨i, List.mem_cons_self, rfl⟩
    · split
      · exact .inl ⟨i, List.mem_cons_self, rfl⟩
      · exact ih.imp_left fun ⟨j, hj, heq⟩ => ⟨j, List.mem_cons_of_mem i hj, heq⟩

end Answer

variable [Moment.Exact T]

/-- The clock does not go back. -/
theorem le_of_mem_course (h : j ∈ course life agenda i) : i.now ≤ j.now := by
  induction agenda generalizing i with
  | nil => simp [course] at h
  | cons a agenda ih =>
    have hle : i.now ≤ (i.after life a).now := Moment.Exact.le_later _ _
    rcases List.mem_cons.1 h with rfl | h
    · exact hle
    · exact Moment.Exact.le_trans hle (ih h)

theorem le_of_mem_upTo {is : List (Instant T σ)} (h : j ∈ upTo deadline is) : j.now ≤ deadline := by
  induction is with
  | nil => simp [upTo] at h
  | cons i is ih =>
    simp only [upTo] at h
    split at h
    · next hlt =>
      rcases List.mem_cons.1 h with rfl | h
      · exact Moment.Exact.le_of_lt hlt
      · exact ih h
    · split at h
      · next hle => exact List.mem_singleton.1 h ▸ hle
      · simp at h

theorem upTo_eq_nil {is : List (Instant T σ)} (h : ∀ i ∈ is, deadline < i.now) : upTo deadline is = [] := by
  cases is with
  | nil => rfl
  | cons i is =>
    have hlt := h i List.mem_cons_self
    have hle : ¬ i.now ≤ deadline := fun hle => Moment.Exact.not_lt hle hlt
    simp only [upTo, if_neg hle, if_neg fun hlt => hle (Moment.Exact.le_of_lt hlt)]

/-- The first arrival by the deadline is the next one. -/
theorem upTo_course (life : Life T (Stage T σ) M) (agenda : List (Appointment T M)) (hi : i.now ≤ deadline) :
    upTo deadline (arrivals (course life agenda i)) =
      match next life deadline agenda i with
      | some (rest, j) => j :: if j.now < deadline then upTo deadline (arrivals (course life rest j)) else []
      | none => [] := by
  induction agenda generalizing i with
  | nil => rfl
  | cons a agenda ih =>
    by_cases hdue : a.due ≤ deadline
    · have hafter : (i.after life a).now ≤ deadline := Moment.later_le hi hdue
      simp only [next, if_pos hdue]
      by_cases hstirred : (i.after life a).world.session.stirred
      · rw [course, arrivals_cons, if_pos hstirred, if_pos hstirred]
        exact upTo_cons hafter _
      · rw [course, arrivals_cons, if_neg hstirred, if_neg hstirred]
        exact ih hafter
    · -- Nothing on the rest of the agenda is earlier than what is due too late.
      simp only [next, if_neg hdue]
      have hlate : deadline < (i.after life a).now :=
        Moment.Exact.lt_of_lt_of_le (Moment.Exact.lt_of_not_le hdue) (Moment.Exact.le_later_right _ _)
      refine upTo_eq_nil fun j hj => ?_
      rcases List.mem_cons.1 (List.mem_filter.1 hj).1 with rfl | hj
      · exact hlate
      · exact Moment.Exact.lt_of_lt_of_le hlate (le_of_mem_course hj)

theorem next_bounds {rest : List (Appointment T M)} (hi : i.now ≤ deadline)
    (h : next life deadline agenda i = some (rest, j)) :
    i.now ≤ j.now ∧ j.now ≤ deadline ∧ rest.length < agenda.length := by
  induction agenda generalizing i with
  | nil => simp [next] at h
  | cons a agenda ih =>
    have hle : i.now ≤ (i.after life a).now := Moment.Exact.le_later _ _
    simp only [next] at h
    split at h
    · next hdue =>
      have hafter : (i.after life a).now ≤ deadline := Moment.later_le hi hdue
      split at h
      · obtain ⟨rfl, rfl⟩ := Prod.mk.inj (Option.some.inj h)
        exact ⟨hle, hafter, Nat.lt_succ_self _⟩
      · obtain ⟨hij, hj, hlength⟩ := ih hafter h
        exact ⟨Moment.Exact.le_trans hle hij, hj, Nat.lt_succ_of_lt hlength⟩
    · simp at h

theorem course_sorted : (course life agenda i).Pairwise (·.now ≤ ·.now) := by
  induction agenda generalizing i with
  | nil => exact .nil
  | cons a agenda ih => exact .cons (fun _ hj => le_of_mem_course hj) ih

/-- Unless two instants fall on the deadline, none up to it is left out. -/
theorem upTo_eq_filter {is : List (Instant T σ)} (hsorted : is.Pairwise (·.now ≤ ·.now))
    (hone : is.Pairwise fun i j => i.now = deadline → j.now ≠ deadline) :
    upTo deadline is = is.filter (·.now ≤ deadline) := by
  induction hsorted with
  | nil => rfl
  | @cons i is hle hsorted ih =>
    obtain ⟨hi, hone⟩ := List.pairwise_cons.1 hone
    simp only [upTo, List.filter_cons, decide_eq_true_eq]
    by_cases hlt : i.now < deadline
    · rw [if_pos hlt, if_pos (Moment.Exact.le_of_lt hlt), ih hone]
    have hlate := Moment.Exact.le_of_not_lt hlt
    rw [if_neg hlt]
    split
    · next hby =>
      have heq := Moment.Exact.le_antisymm hby hlate
      have hempty : is.filter (·.now ≤ deadline) = [] := by
        refine List.filter_eq_nil_iff.2 fun j hj hjby => hi j hj heq ?_
        exact Moment.Exact.le_antisymm (of_decide_eq_true hjby) (heq ▸ hle j hj)
      rw [hempty]
    · next hafter =>
      refine (List.filter_eq_nil_iff.2 fun j hj hjby => hafter ?_).symm
      exact Moment.Exact.le_trans (hle j hj) (of_decide_eq_true hjby)

/-! ## What comes later -/

theorem lt_of_mem_course {e : T} (hlater : ∀ a ∈ agenda, e < a.due) (h : j ∈ course life agenda i) : e < j.now := by
  induction agenda generalizing i with
  | nil => simp [course] at h
  | cons a agenda ih =>
    rcases List.mem_cons.1 h with rfl | h
    · exact Moment.Exact.lt_of_lt_of_le (hlater a List.mem_cons_self) (Moment.Exact.le_later_right _ _)
    · exact ih (fun b hb => hlater b (List.mem_cons_of_mem a hb)) h

theorem upTo_append (deadline : T) (is later : List (Instant T σ)) :
    ∃ more, upTo deadline (is ++ later) = upTo deadline is ++ more ∧ ∀ k ∈ more, k ∈ later ∧ k.now ≤ deadline := by
  induction is with
  | nil =>
    refine ⟨upTo deadline later, rfl, fun k hk => ⟨?_, le_of_mem_upTo hk⟩⟩
    induction later with
    | nil => simp [upTo] at hk
    | cons i is ih =>
      simp only [upTo] at hk
      split at hk
      · exact (List.mem_cons.1 hk).elim (· ▸ List.mem_cons_self) fun hk => List.mem_cons_of_mem i (ih hk)
      · split at hk
        · exact List.mem_singleton.1 hk ▸ List.mem_cons_self
        · simp at hk
  | cons i is ih =>
    obtain ⟨more, hmore, hmem⟩ := ih
    simp only [List.cons_append, upTo]
    split
    · exact ⟨more, by rw [hmore, List.cons_append], hmem⟩
    · split <;> exact ⟨[], by simp, by simp⟩

/-- A longer agenda adds instants, not before any of the others. -/
theorem during_append (life : Life T (Stage T σ) M) (deadline : T) (s : Scene T (Stage T σ) M)
    (agenda later : List (Appointment T M)) :
    ∃ more, during life deadline { s with agenda := agenda ++ later } = during life deadline { s with agenda } ++ more ∧
      ∀ k ∈ more, k.now ≤ deadline ∧ ∀ e : T, (∀ a ∈ later, e < a.due) → e < k.now := by
  simp only [during]
  split
  · obtain ⟨j, hj⟩ := course_append life (⟨s.now, []⟩ :: agenda) ⟨s.now, s.world⟩ later
    rw [← List.cons_append, hj, arrivals, List.filter_append]
    obtain ⟨more, hmore, hmem⟩ := upTo_append deadline
      (arrivals (course life (⟨s.now, []⟩ :: agenda) ⟨s.now, s.world⟩)) (arrivals (course life later j))
    exact ⟨more, hmore, fun k hk => ⟨(hmem k hk).2, fun e he => lt_of_mem_course he (List.mem_filter.1 (hmem k hk).1).1⟩⟩
  · exact ⟨[], rfl, by simp⟩

section Answer

variable {patterns : List Pattern} {limit : Span T} {started : T}

/-- Instants after the answer do not matter, whether or not they are counted in. -/
theorem answer_ignores {before later : List (Instant T σ)} (hdeadline : ∀ k ∈ later, k.now ≤ started + limit.length)
    (hlater : (∀ k ∈ later, (answer patterns limit started before).2 < k.now) ∨
      ∀ k ∈ later, (answer patterns limit started (before ++ later)).2 < k.now) :
    answer patterns limit started (before ++ later) = answer patterns limit started before := by
  rcases answer_append patterns limit started before later with heq | ⟨heq, hnone⟩
  · exact heq
  · rcases answer_now patterns limit started later with ⟨k, hk, hnow⟩ | hempty
    · rw [heq, hnow, hnone] at hlater
      rcases hlater with hlater | hlater
      · have hle := Moment.Exact.le_trans (hdeadline k hk) (Moment.Exact.le_later_right started _)
        exact absurd (hlater k hk) (Moment.Exact.not_lt hle)
      · exact absurd (hlater k hk) (Moment.Exact.not_lt (Moment.Exact.le_refl _))
    · rw [heq, hempty, hnone]

end Answer

end Instant

variable [Moment T]

/-! ## The loop of a call -/

namespace Restful

variable {S : Setting σ M} {G : Stage T σ → Prop} {s : Scene T (Stage T σ) M} {i j : Instant T σ} {deadline : T}

theorem of_next (hr : Restful S G) {agenda rest : List (Appointment T M)} (h : Linked S G i.world)
    (hnext : Instant.next S.life deadline agenda i = some (rest, j)) :
    Linked S G j.world ∧ j.world.AtRest := by
  induction agenda generalizing i with
  | nil => simp [Instant.next] at hnext
  | cons a agenda ih =>
    obtain ⟨hlinked, hrest⟩ := hr.after a h
    simp only [Instant.next] at hnext
    split at hnext
    · split at hnext
      · obtain ⟨-, rfl⟩ := Prod.mk.inj (Option.some.inj hnext)
        exact ⟨hlinked, hrest⟩
      · exact ih hlinked hnext
    · simp at hnext

theorem judge_of_some {patterns : List Pattern} {deadline now : T} {st : Stage T σ} {f : Finding}
    (h : Finding.search patterns st.session.buffer = some f) (hpartial : st.session.conduct.partialMatch) :
    st.judge patterns deadline now = .found f := by
  simp [Stage.judge, h, Stage.settled, hpartial]

variable [Moment.Exact T]

/-- A stage at rest brings nothing in by itself. -/
theorem next_nothing (hrest : i.world.AtRest) (hi : i.now ≤ deadline) (agenda : List (Appointment T M)) :
    Instant.next S.life deadline (⟨i.now, []⟩ :: agenda) i = Instant.next S.life deadline agenda i := by
  have hcalm : S.life.settle i.now i.world.calm = i.world.calm := hrest.calm.settle i.now
  simp only [Instant.next, if_pos hi, Instant.after_nothing, hcalm]
  rw [if_neg (by simp [Stage.calm])]
  cases agenda <;> rfl

theorem during_nothing (hrest : i.world.AtRest) (agenda : List (Appointment T M)) :
    Instant.arrivals (Instant.course S.life (⟨i.now, []⟩ :: agenda) i) =
      Instant.arrivals (Instant.course S.life agenda i) := by
  have hcalm : S.life.settle i.now i.world.calm = i.world.calm := hrest.calm.settle i.now
  rw [Instant.course, Instant.after_nothing, hcalm, Instant.arrivals_cons, if_neg (by simp [Stage.calm])]
  cases agenda <;> rfl

/-- Each wait that something ends uses up an appointment, but for the first if there was something to do
at once. -/
theorem fuel_left {rest : List (Appointment T M)} {fuel : Nat} (hnow : s.now ≤ deadline)
    (hnext : Instant.next S.life deadline (⟨s.now, []⟩ :: s.agenda) ⟨s.now, s.world⟩ = some (rest, j))
    (hfuel : s.agenda.length + 2 < fuel + 1 ∨ s.world.AtRest ∧ s.agenda.length + 2 ≤ fuel + 1) :
    rest.length + 2 ≤ fuel := by
  rcases hfuel with hfuel | ⟨hrest, hfuel⟩
  · have hlength := (Instant.next_bounds (i := ⟨s.now, s.world⟩) hnow hnext).2.2
    simp only [List.length_cons] at hlength
    omega
  · rw [next_nothing (i := ⟨s.now, s.world⟩) hrest hnow] at hnext
    have hlength := (Instant.next_bounds (i := ⟨s.now, s.world⟩) hnow hnext).2.2
    omega

theorem judge_of_none {patterns : List Pattern} {deadline now : T} {st : Stage T σ}
    (h : Finding.search patterns st.session.buffer = none) :
    st.judge patterns deadline now =
      if st.session.eof then .atEnd else if deadline ≤ now then .late else .wait (deadline - now) := by
  simp [Stage.judge, h, Moment.Exact.sub_nonpos]

/-- The loop of a call that has begun at `started`, from any moment of it on. -/
theorem expectUntil_eq (hr : Restful S G) (hpartial : ∀ st, G st → st.session.conduct.partialMatch)
    (patterns : List Pattern) (limit : Span T) (started : T) (fuel : Nat) (h : Linked S G s.world)
    (hstarted : started ≤ s.now) (hnow : s.now = started ∨ s.now ≤ started + limit.length)
    (hfuel : s.agenda.length + 2 < fuel ∨ s.world.AtRest ∧ s.agenda.length + 2 ≤ fuel) :
    ((Stage.expectUntil S.life patterns limit started fuel s).1,
        (Stage.expectUntil S.life patterns limit started fuel s).2.now) =
      Instant.answer patterns limit started
        (⟨s.now, s.world⟩ :: Instant.during S.life (started + limit.length) s) := by
  induction fuel generalizing s with
  | zero => omega
  | succ fuel ih =>
    rw [Stage.expectUntil_succ]
    simp only [Instant.answer]
    cases hsearch : Finding.search patterns s.world.session.buffer with
    | some f => rw [judge_of_some hsearch (hpartial _ h.2)]
    | none =>
      rw [judge_of_none hsearch]
      by_cases heof : s.world.session.eof
      · simp only [if_pos heof]
      by_cases hlate : started + limit.length ≤ s.now
      · -- The time is up exactly at the deadline, but for a call that was given no time.
        have hlater : s.now = Moment.later started (started + limit.length) := by
          rcases hnow with rfl | hle
          · exact (Moment.Exact.later_eq_left hlate).symm
          · have heq := Moment.Exact.le_antisymm hle hlate
            rw [Moment.Exact.later_eq_right (heq ▸ hstarted), heq]
        simp only [if_neg heof, if_pos hlate, Instant.during, if_neg (Moment.Exact.not_lt hlate), Instant.answer,
          ← hlater]
      · have hlt := Moment.Exact.lt_of_not_le hlate
        have hle := Moment.Exact.le_of_lt hlt
        have hends := hr.lull_ends (started + limit.length - s.now) h (by rwa [Moment.Exact.add_sub])
        rw [Moment.Exact.add_sub] at hends
        have hcourse := Instant.upTo_course S.life (⟨s.now, []⟩ :: s.agenda) (i := ⟨s.now, s.world⟩) hle
        simp only [if_neg heof, if_neg hlate, Instant.during, if_pos hlt, hcourse]
        generalize Stage.lull S.life (started + limit.length - s.now) s = r at hends ⊢
        cases hnext : Instant.next S.life (started + limit.length) (⟨s.now, []⟩ :: s.agenda) ⟨s.now, s.world⟩ with
        | none =>
          -- Nothing has come in, and no time is left: the text is what no pattern matched before.
          rw [hnext] at hends
          obtain ⟨hrnow, hsame⟩ := hends
          obtain ⟨fuel, rfl⟩ : ∃ n, fuel = n + 1 := ⟨fuel - 1, by omega⟩
          rw [Stage.expectUntil_succ, judge_of_none (hsame.buffer ▸ hsearch), hsame.eof, if_neg heof, hrnow,
            if_pos (Moment.Exact.le_refl _)]
          simp only [Instant.answer, hrnow, Moment.Exact.later_eq_right (Moment.Exact.le_trans hstarted hle)]
        | some found =>
          -- From the next arrival on it is the same loop, with what is left of the agenda.
          obtain ⟨rest, j⟩ := found
          rw [hnext] at hends
          obtain ⟨hj, hjrest⟩ := hr.of_next h hnext
          obtain ⟨hsj, hjd, -⟩ := Instant.next_bounds (i := ⟨s.now, s.world⟩) hle hnext
          have hfuel' := fuel_left hle hnext hfuel
          obtain ⟨rnow, ragenda, rfaults, rworld⟩ := r
          obtain ⟨rfl, rfl, rfl⟩ := hends
          rw [ih hj (Moment.Exact.le_trans hstarted hsj) (.inr hjd) (.inr ⟨hjrest, hfuel'⟩)]
          simp only [Instant.during, during_nothing (i := j) hjrest]

theorem expectAny_eq (hr : Restful S G) (hpartial : ∀ st, G st → st.session.conduct.partialMatch)
    {targets : List Target} {patterns : List Pattern}
    (htargets : Target.compileAll s.world.session.conduct.engine targets = .ok patterns) (limit : Option (Span T))
    (h : Linked S G s.world) :
    ((Stage.expectAny S.life targets limit s).1, (Stage.expectAny S.life targets limit s).2.now) =
      Instant.answer patterns (limit.getD s.world.session.timeout) s.now (⟨s.now, s.world⟩ ::
        Instant.during S.life (s.now + (limit.getD s.world.session.timeout).length) s) := by
  simp only [Stage.expectAny, htargets]
  refine hr.expectUntil_eq hpartial patterns _ s.now _ h (Moment.Exact.le_refl _) (.inl rfl) (.inl ?_)
  simp only [Stage.patience]
  omega

/-- What is due after a call has ended does not matter to it. -/
theorem expectAny_ignores (hr : Restful S G) (hpartial : ∀ st, G st → st.session.conduct.partialMatch)
    {targets : List Target} {patterns : List Pattern}
    (htargets : Target.compileAll s.world.session.conduct.engine targets = .ok patterns) (limit : Option (Span T))
    (h : Linked S G s.world) (agenda : List (Appointment T M))
    {later later' : List (Appointment T M)} {outcome : Except Failure (Match T)} {e : T}
    (hends : ((Stage.expectAny S.life targets limit { s with agenda := agenda ++ later }).1,
      (Stage.expectAny S.life targets limit { s with agenda := agenda ++ later }).2.now) = (outcome, e))
    (hlater : ∀ a ∈ later ++ later', e < a.due) :
    ((Stage.expectAny S.life targets limit { s with agenda := agenda ++ later' }).1,
      (Stage.expectAny S.life targets limit { s with agenda := agenda ++ later' }).2.now) = (outcome, e) := by
  rw [hr.expectAny_eq (s := { s with agenda := agenda ++ later' }) hpartial htargets limit h]
  rw [hr.expectAny_eq (s := { s with agenda := agenda ++ later }) hpartial htargets limit h] at hends
  generalize limit.getD s.world.session.timeout = span at hends ⊢
  obtain ⟨more, hmore, hmem⟩ := Instant.during_append S.life (s.now + span.length) s agenda later
  obtain ⟨more', hmore', hmem'⟩ :=
    Instant.during_append S.life (s.now + span.length) s agenda later'
  have hafter (k) (hk : k ∈ more) : e < k.now :=
    (hmem k hk).2 e fun a ha => hlater a (List.mem_append_left _ ha)
  have hafter' (k) (hk : k ∈ more') : e < k.now :=
    (hmem' k hk).2 e fun a ha => hlater a (List.mem_append_right _ ha)
  rw [hmore, ← List.cons_append] at hends
  have hwithout := (Instant.answer_ignores (fun k hk => (hmem k hk).1) (.inr (hends ▸ hafter))).symm.trans hends
  rw [hmore', ← List.cons_append]
  exact (Instant.answer_ignores (fun k hk => (hmem' k hk).1) (.inl (hwithout ▸ hafter'))).trans hwithout

end Restful

end Dialogue
