import Dialogue.Proofs.Timeline
/-!
# How calls end

A call for patterns ends with a match, with word that the output has ended, or because its time is up; its last
look at the scene tells which (`Stage.expectUntil_lastLook`). Once the output has ended it ends at once, and never
because its time is up (`Stage.expectUntil_ends`). On an exact clock it does end (`Restful.expectAny_ne_blocked`).
-/

namespace Dialogue

variable {T σ M : Type} [Moment T]

namespace Stage

variable {life : Life T (Stage T σ) M} {patterns : List Pattern} {limit : Span T} {started deadline now : T}
  {st : Stage T σ} {s : Scene T (Stage T σ) M}

/-! ## Any clock -/

theorem judge_of_eof (h : st.session.eof) : st.judge patterns deadline now =
    match Finding.search patterns st.session.buffer with
    | some f => .found f
    | none => .atEnd := by
  cases hsearch : Finding.search patterns st.session.buffer <;> simp [judge, settled, h, hsearch]

theorem eof_of_late (h : st.judge patterns deadline now = .late) : st.session.eof = false := by
  cases heof : st.session.eof with
  | false => rfl
  | true =>
    rw [judge_of_eof heof] at h
    split at h <;> cases h

/-- Once the output has ended, a call ends at its next look. -/
theorem expectUntil_of_eof (h : s.world.session.eof) (fuel : Nat) :
    (expectUntil life patterns limit started (fuel + 1) s).2.now = s.now ∧
      ((expectUntil life patterns limit started (fuel + 1) s).1.isOk ∨
        (expectUntil life patterns limit started (fuel + 1) s).1 =
          .error (.expectEnd (some (patterns.map fun p => Value.text p.source)))) := by
  rw [expectUntil_succ, judge_of_eof h]
  split
  · exact ⟨rfl, .inl rfl⟩
  · exact ⟨rfl, .inr rfl⟩
  · next heq => split at heq <;> cases heq
  · next heq => split at heq <;> cases heq

/-- How a call ends, by its last look at the scene: it takes the finding of that look, or nothing matches and the
output has ended, or its time is up, and then nothing matches or nothing may be taken yet. -/
inductive LastLook (patterns : List Pattern) (limit : Span T) (started : T) (s : Scene T (Stage T σ) M) :
    Except Failure (Match T) × Scene T (Stage T σ) M → Prop
  | found {f : Finding} : Finding.search patterns s.world.session.buffer = some f → s.world.settled s.now →
      LastLook patterns limit started s (.ok (s.world.consume f (s.now - started)).1,
        { s with world := (s.world.consume f (s.now - started)).2 })
  | atEnd : Finding.search patterns s.world.session.buffer = none → s.world.session.eof →
      LastLook patterns limit started s
        (.error (.expectEnd (some (patterns.map fun p => Value.text p.source))), s)
  | late : (Finding.search patterns s.world.session.buffer = none ∨ s.world.settled s.now = false) →
      s.world.session.eof = false → started + limit.length - s.now ≤ 0 →
      LastLook patterns limit started s
        (.error (.expectTimeout (some (patterns.map fun p => Value.text p.source, limit.written))), s)
  | blocked : LastLook patterns limit started s (.error .blocked, s)

/-- What was found may be taken. -/
theorem judge_eq_found {f : Finding} (h : st.judge patterns deadline now = .found f) :
    Finding.search patterns st.session.buffer = some f ∧ st.settled now := by
  simp only [judge] at h
  split at h
  · next g hsearch =>
    split at h
    · next hsettled =>
      obtain rfl := Verdict.found.inj h
      exact ⟨hsearch, hsettled⟩
    · split at h <;> cases h
  · split at h
    · cases h
    · split at h <;> cases h

theorem judge_eq_atEnd (h : st.judge patterns deadline now = .atEnd) :
    Finding.search patterns st.session.buffer = none ∧ st.session.eof := by
  simp only [judge] at h
  split at h
  · split at h
    · cases h
    · split at h <;> cases h
  · next hsearch =>
    split at h
    · next heof => exact ⟨hsearch, heof⟩
    · split at h <;> cases h

theorem judge_eq_late (h : st.judge patterns deadline now = .late) :
    (Finding.search patterns st.session.buffer = none ∨ st.settled now = false) ∧ deadline - now ≤ 0 := by
  simp only [judge] at h
  split at h
  · split at h
    · cases h
    · next hsettled =>
      split at h
      · next hremaining => exact ⟨.inr (Bool.not_eq_true _ ▸ hsettled), hremaining⟩
      · cases h
  · next hsearch =>
    split at h
    · cases h
    · split at h
      · next hremaining => exact ⟨.inl hsearch, hremaining⟩
      · cases h

/-- What may be taken is taken at once. -/
theorem expectUntil_of_settled {f : Finding} (hfound : Finding.search patterns s.world.session.buffer = some f)
    (hsettled : s.world.settled s.now) (fuel : Nat) :
    expectUntil life patterns limit started (fuel + 1) s =
      (.ok (s.world.consume f (s.now - started)).1, { s with world := (s.world.consume f (s.now - started)).2 }) := by
  have hjudge : s.world.judge patterns (started + limit.length) s.now = .found f := by
    simp only [judge, hfound, hsettled, if_true]
  rw [expectUntil_succ, hjudge]

/-- A call ends with its last look, and what its waits keep holds then. -/
theorem expectUntil_lastLook (life : Life T (Stage T σ) M) (patterns : List Pattern) (limit : Span T) (started : T)
    {P : Scene T (Stage T σ) M → Prop} (hlull : ∀ s length, P s →
      s.world.judge patterns (started + limit.length) s.now = .wait length → P (lull life length s))
    (fuel : Nat) (h : P s) :
    ∃ last, P last ∧ LastLook patterns limit started last (expectUntil life patterns limit started fuel s) := by
  induction fuel generalizing s with
  | zero => exact ⟨s, h, .blocked⟩
  | succ fuel ih =>
    rw [expectUntil_succ]
    split
    · next f hfound =>
      obtain ⟨hsearch, hsettled⟩ := judge_eq_found hfound
      exact ⟨s, h, .found hsearch hsettled⟩
    · next hend =>
      obtain ⟨hsearch, heof⟩ := judge_eq_atEnd hend
      exact ⟨s, h, .atEnd hsearch heof⟩
    · next hlate =>
      obtain ⟨hopen, hremaining⟩ := judge_eq_late hlate
      exact ⟨s, h, .late hopen (eof_of_late hlate) hremaining⟩
    · next length hwait => exact ih (hlull s length h hwait)

/-- How a call ends. Its time is up only if the output has not ended. -/
theorem expectUntil_ends (life : Life T (Stage T σ) M) (patterns : List Pattern) (limit : Span T) (started : T)
    (fuel : Nat) (s : Scene T (Stage T σ) M) :
    let r := expectUntil life patterns limit started fuel s
    r.1.isOk ∨ r.1 = .error (.expectEnd (some (patterns.map fun p => Value.text p.source))) ∨
      r.1 = .error .blocked ∨
        (r.1 = .error (.expectTimeout (some (patterns.map fun p => Value.text p.source, limit.written))) ∧
          r.2.world.session.eof = false) := by
  obtain ⟨last, -, hlook⟩ := expectUntil_lastLook life patterns limit started (P := fun _ => True)
    (fun _ _ _ _ => trivial) fuel (s := s) trivial
  dsimp only
  generalize expectUntil life patterns limit started fuel s = r at hlook ⊢
  cases hlook with
  | found => exact .inl rfl
  | atEnd => exact .inr (.inl rfl)
  | late _ heof => exact .inr (.inr (.inr ⟨rfl, heof⟩))
  | blocked => exact .inr (.inr (.inl rfl))

theorem expectAny_of_eof {targets : List Target}
    (htargets : Target.compileAll s.world.session.conduct.engine targets = .ok patterns)
    (limit : Option (Span T)) (h : s.world.session.eof) :
    ((expectAny life targets limit s).1.isOk ∨ (expectAny life targets limit s).1 =
        .error (.expectEnd (some (patterns.map fun p => Value.text p.source)))) ∧
      (expectAny life targets limit s).2.now = s.now := by
  simp only [expectAny, htargets, patience]
  exact (expectUntil_of_eof h (4 * s.agenda.length + 7)).symm

theorem expectAny_ends {targets : List Target}
    (htargets : Target.compileAll s.world.session.conduct.engine targets = .ok patterns)
    (limit : Option (Span T)) (h : (expectAny life targets limit s).2.world.session.eof) :
    ((expectAny life targets limit s).1.isOk ∨ (expectAny life targets limit s).1 =
        .error (.expectEnd (some (patterns.map fun p => Value.text p.source)))) ∨
      (expectAny life targets limit s).1 = .error .blocked := by
  simp only [expectAny, htargets] at h ⊢
  rcases expectUntil_ends life patterns (limit.getD s.world.session.timeout) s.now (patience s) s with
    hok | hend | hblocked | ⟨-, heof⟩
  · exact .inl (.inl hok)
  · exact .inl (.inr hend)
  · exact .inr hblocked
  · rw [heof] at h
    cases h

end Stage

/-! ## Exact clocks -/

/-- The last chunk has come in by now. -/
def Stage.Timely (now : T) (st : Stage T σ) : Prop := st.session.lastRead ≤ now

section

variable [Moment.Exact T] {S : Setting σ M}

theorem Stage.Timely.ongoing (now : T) : Ongoing S now (Stage.Timely (T := T) (σ := σ) now) where
  aside h ha := by
    obtain ⟨closed, channel, waiter, hs⟩ := ha.session
    unfold Stage.Timely
    rw [hs]
    exact h
  pause _ h _ _ := h
  take _ _ _ _ _ _ := by
    rw [Stage.takeIn_eq]
    exact Moment.Exact.le_refl now
  stop _ h _ _ _ := h
  fail _ h _ _ _ := h

theorem Stage.Timely.steady : Steady S fun (now : T) _ st => Stage.Timely now st where
  ongoing now _ := ongoing now
  pass due h := Moment.Exact.le_trans h (Moment.Exact.le_later _ due)
  calm h := h
  consume _ _ h := h

theorem Stage.Timely.opened (c : Conduct T) (timeout : Span T) (now : T) (agenda : List (Appointment T M))
    (d : Desk σ) : (S.opened c timeout now agenda d).world.Timely now := by
  obtain ⟨starts, reader, waiter, heq, -⟩ := S.opened_world c timeout now agenda d
  rw [heq]
  exact Moment.Exact.le_refl now

theorem Stage.Timely.next {deadline : T} {agenda rest : List (Appointment T M)} {i j : Instant T σ}
    (hlink : i.world.session.link = S.link) (h : i.world.Timely i.now)
    (hnext : Instant.next S.life deadline agenda i = some (rest, j)) : j.world.Timely j.now := by
  induction agenda generalizing i with
  | nil => simp [Instant.next] at hnext
  | cons a agenda ih =>
    have ho : Ongoing S (Moment.later i.now a.due) (Stage.Timely (Moment.later i.now a.due)) := ongoing _
    have hcalm : Linked S (Stage.Timely (Moment.later i.now a.due)) i.world.calm :=
      ⟨hlink, Moment.Exact.le_trans h (Moment.Exact.le_later _ a.due)⟩
    have hafter := ho.settle (ho.moved a.moves hcalm)
    simp only [Instant.next] at hnext
    split at hnext
    · split at hnext
      · obtain ⟨-, rfl⟩ := Prod.mk.inj (Option.some.inj hnext)
        exact hafter.2
      · exact ih hafter.1 hafter.2 hnext
    · simp at hnext

/-- With no time left, and nothing new, there is nothing to wait for. -/
theorem Stage.judge_at_deadline {patterns : List Pattern} {deadline : T} {st : Stage T σ} (length : T) :
    st.judge patterns deadline deadline ≠ .wait length := by
  have hremaining : deadline - deadline ≤ 0 := Moment.Exact.sub_nonpos.2 (Moment.Exact.le_refl _)
  simp only [Stage.judge, if_pos hremaining]
  split
  · split <;> simp
  · split <;> simp

/-- A wait that brings nothing in is the last one: it ends at the deadline, or when the output has been
quiet for long enough. -/
theorem Stage.judge_of_wait {patterns : List Pattern} {deadline now length : T} {st : Stage T σ}
    (htimely : st.Timely now) (h : st.judge patterns deadline now = .wait length) :
    now ≤ now + length ∧
      ∀ st', st.SameText st' → ∀ length', st'.judge patterns deadline (now + length) ≠ .wait length' := by
  have hdeadline (hwait : ¬ deadline - now ≤ 0) : now ≤ now + (deadline - now) := by
    rw [Moment.Exact.add_sub]
    exact Moment.Exact.le_of_lt (Moment.Exact.lt_of_not_le fun hle => hwait (Moment.Exact.sub_nonpos.2 hle))
  have hlast (st' : Stage T σ) (length' : T) :
      st'.judge patterns deadline (now + (deadline - now)) ≠ .wait length' := by
    rw [Moment.Exact.add_sub]
    exact judge_at_deadline length'
  simp only [Stage.judge] at h
  split at h
  · next f hsearch =>
    split at h
    · cases h
    next hsettled =>
    split at h
    · cases h
    next hwait =>
    obtain rfl := Verdict.wait.inj h
    unfold Moment.shorter
    split
    · -- The output has not been quiet for long enough; it will have been after the wait.
      have hquiet : ¬ st.session.conduct.checkInterval ≤ now - st.session.lastRead := by
        simp only [settled, Bool.or_eq_true, decide_eq_true_eq, not_or] at hsettled
        exact hsettled.2
      refine ⟨?_, ?_⟩
      · rw [Moment.Exact.le_sub_iff] at hquiet
        have hle := Moment.Exact.le_of_lt (Moment.Exact.lt_of_not_le hquiet)
        refine Moment.Exact.le_trans hle ?_
        rw [Moment.Exact.add_comm _ st.session.conduct.checkInterval, Moment.Exact.add_comm now]
        exact Moment.Exact.add_le_add _ htimely
      · intro st' hsame length'
        have hsettled' : st'.settled (now + st.session.conduct.checkInterval) := by
          simp only [settled, hsame.lastRead, hsame.conduct, Bool.or_eq_true, decide_eq_true_eq]
          refine .inr (Moment.Exact.le_sub_iff.2 ?_)
          rw [Moment.Exact.add_comm _ st.session.conduct.checkInterval, Moment.Exact.add_comm now]
          exact Moment.Exact.add_le_add _ htimely
        simp only [Stage.judge, hsame.buffer, hsearch, hsettled', if_true]
        simp
    · exact ⟨hdeadline hwait, fun st' _ => hlast st'⟩
  · split at h
    · cases h
    split at h
    · cases h
    next hwait =>
    obtain rfl := Verdict.wait.inj h
    exact ⟨hdeadline hwait, fun st' _ => hlast st'⟩

end

namespace Restful

variable [Moment.Exact T] {S : Setting σ M} {G : Stage T σ → Prop} {s : Scene T (Stage T σ) M}

/-- The fuel of a call does not run out. -/
theorem expectUntil_ne_blocked (hr : Restful S G) (patterns : List Pattern) (limit : Span T) (started : T)
    (fuel : Nat) (h : Linked S G s.world) (htimely : s.world.Timely s.now)
    (hfuel : s.agenda.length + 2 < fuel ∨ s.world.AtRest ∧ s.agenda.length + 2 ≤ fuel) :
    (Stage.expectUntil S.life patterns limit started fuel s).1 ≠ .error .blocked := by
  induction fuel generalizing s with
  | zero => omega
  | succ fuel ih =>
    rw [Stage.expectUntil_succ]
    split
    · simp
    · simp
    · simp
    · next length hwait =>
      obtain ⟨hlength, hlast⟩ := Stage.judge_of_wait htimely hwait
      have hends := hr.lull_ends length h hlength
      generalize Stage.lull S.life length s = r at hends ⊢
      cases hnext : Instant.next S.life (s.now + length) (⟨s.now, []⟩ :: s.agenda) ⟨s.now, s.world⟩ with
      | none =>
        -- One more look is needed, and it does not wait.
        rw [hnext] at hends
        obtain ⟨hnow, hsame⟩ := hends
        obtain ⟨fuel, rfl⟩ : ∃ n, fuel = n + 1 := ⟨fuel - 1, by omega⟩
        rw [Stage.expectUntil_succ, hnow]
        split
        · simp
        · simp
        · simp
        · next hwait => exact absurd hwait (hlast r.world hsame _)
      | some found =>
        obtain ⟨rest, j⟩ := found
        rw [hnext] at hends
        obtain ⟨hj, hrest⟩ := hr.of_next h hnext
        have hjtimely := Stage.Timely.next (i := ⟨s.now, s.world⟩) h.1 htimely hnext
        -- After the first wait all that can be done at once is done, so every other wait uses up an appointment.
        have hfuel' := fuel_left hlength hnext hfuel
        obtain ⟨rnow, ragenda, rfaults, rworld⟩ := r
        obtain ⟨rfl, rfl, rfl⟩ := hends
        exact ih hj hjtimely (.inr ⟨hrest, hfuel'⟩)

/-- A call ends. -/
theorem expectAny_ne_blocked (hr : Restful S G) {targets : List Target} {patterns : List Pattern}
    (htargets : Target.compileAll s.world.session.conduct.engine targets = .ok patterns) (limit : Option (Span T))
    (h : Linked S G s.world) (htimely : s.world.Timely s.now) : (Stage.expectAny S.life targets limit s).1 ≠ .error .blocked := by
  simp only [Stage.expectAny, htargets]
  refine hr.expectUntil_ne_blocked patterns _ s.now _ h htimely (.inl ?_)
  simp only [Stage.patience]
  omega

end Restful

end Dialogue
