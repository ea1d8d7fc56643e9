import Dialogue.Session.Send
/-!
# Batches

A batch is its steps one by one. `Step.Succeeds` and `Step.Raises` say what the call is that a step stands for, and
`Step.OneByOne` makes such calls one after the other. A batch gives the results of its steps exactly if all these
calls succeed; otherwise it raises what the first of them raises that does, and leaves everything as that call
leaves it (`Stage.batch_one_by_one`). So it does not matter whether steps are put into one batch or into two.
-/

namespace Dialogue

variable {T σ M : Type} [Moment T]

namespace Step

/-- The call that a step stands for succeeds: the results it adds, and the scene that it leaves. -/
inductive Succeeds (life : Life T (Stage T σ) M) :
    Step T → Scene T (Stage T σ) M → List (Match T) → Scene T (Stage T σ) M → Prop
  | send {data : Payload} {s : Scene T (Stage T σ) M} {world : Stage T σ}
    (h : s.world.send data = (.ok (), world)) : Succeeds life (.send data) s [] { s with world }
  | expect {target : Target} {limit : Option (Span T)} {s s' : Scene T (Stage T σ) M} {m : Match T}
    (h : Stage.expectAny life [target] limit s = (.ok m, s')) : Succeeds life (.expect target limit) s [m] s'
  | expectAny {targets : List Target} {limit : Option (Span T)} {s s' : Scene T (Stage T σ) M} {m : Match T}
    (h : Stage.expectAny life targets limit s = (.ok m, s')) : Succeeds life (.expectAny targets limit) s [m] s'

/-- The call that a step stands for raises an error; something that is no step stands for none, and raises one all
the same. -/
inductive Raises (life : Life T (Stage T σ) M) :
    Step T → Scene T (Stage T σ) M → Failure → Scene T (Stage T σ) M → Prop
  | send {data : Payload} {s : Scene T (Stage T σ) M} {world : Stage T σ} {e : Failure}
    (h : s.world.send data = (.error e, world)) : Raises life (.send data) s e { s with world }
  | expect {target : Target} {limit : Option (Span T)} {s s' : Scene T (Stage T σ) M} {e : Failure}
    (h : Stage.expectAny life [target] limit s = (.error e, s')) : Raises life (.expect target limit) s e s'
  | expectAny {targets : List Target} {limit : Option (Span T)} {s s' : Scene T (Stage T σ) M} {e : Failure}
    (h : Stage.expectAny life targets limit s = (.error e, s')) : Raises life (.expectAny targets limit) s e s'
  | unknown (v : Value) (s : Scene T (Stage T σ) M) : Raises life (.unknown v) s (.unknownStep v) s

/-- The calls that steps stand for are made one after the other, and all succeed. -/
inductive OneByOne (life : Life T (Stage T σ) M) :
    List (Step T) → Scene T (Stage T σ) M → List (Match T) → Scene T (Stage T σ) M → Prop
  | none (s : Scene T (Stage T σ) M) : OneByOne life [] s [] s
  | next {step : Step T} {steps : List (Step T)} {s s' s'' : Scene T (Stage T σ) M} {results more : List (Match T)}
    (h : step.Succeeds life s results s') (hrest : OneByOne life steps s' more s'') :
    OneByOne life (step :: steps) s (results ++ more) s''

/-- The calls that steps stand for are made one after the other, up to the first that raises an error. -/
def Stopped (life : Life T (Stage T σ) M) (steps : List (Step T)) (s : Scene T (Stage T σ) M) (e : Failure)
    (s' : Scene T (Stage T σ) M) : Prop :=
  ∃ front step back results s₁, steps = front ++ step :: back ∧ OneByOne life front s results s₁ ∧
    step.Raises life s₁ e s'

end Step

namespace Stage

variable {life : Life T (Stage T σ) M} {step : Step T} {steps more : List (Step T)} {s s' : Scene T (Stage T σ) M}
  {results : List (Match T)} {e : Failure}

/-! ## One step -/

theorem doStep_of_succeeds (h : step.Succeeds life s results s') : doStep life step s = (.ok results, s') := by
  cases h with
  | send h => simp only [doStep, h, Except.map]
  | expect h => simp only [doStep, h, Except.map]
  | expectAny h => simp only [doStep, h, Except.map]

theorem doStep_of_raises (h : step.Raises life s e s') : doStep life step s = (.error e, s') := by
  cases h with
  | send h => simp only [doStep, h, Except.map]
  | expect h => simp only [doStep, h, Except.map]
  | expectAny h => simp only [doStep, h, Except.map]
  | unknown v => rfl

/-- The call that a step stands for succeeds or raises. -/
theorem step_ends (life : Life T (Stage T σ) M) (step : Step T) (s : Scene T (Stage T σ) M) :
    (∃ results s', step.Succeeds life s results s') ∨ ∃ e s', step.Raises life s e s' := by
  cases step with
  | send data =>
    rcases hsend : s.world.send data with ⟨e | _, world⟩
    · exact .inr ⟨e, _, .send hsend⟩
    · exact .inl ⟨[], _, .send hsend⟩
  | expect target limit =>
    rcases hcall : expectAny life [target] limit s with ⟨e | m, last⟩
    · exact .inr ⟨e, last, .expect hcall⟩
    · exact .inl ⟨[m], last, .expect hcall⟩
  | expectAny targets limit =>
    rcases hcall : expectAny life targets limit s with ⟨e | m, last⟩
    · exact .inr ⟨e, last, .expectAny hcall⟩
    · exact .inl ⟨[m], last, .expectAny hcall⟩
  | unknown v => exact .inr ⟨_, s, .unknown v s⟩

/-! ## A whole batch -/

theorem batch_cons_of_succeeds (h : step.Succeeds life s results s') (steps : List (Step T)) :
    batch life (step :: steps) s = ((batch life steps s').1.map (results ++ ·), (batch life steps s').2) := by
  simp only [batch, doStep_of_succeeds h]

theorem batch_cons_of_raises (h : step.Raises life s e s') (steps : List (Step T)) :
    batch life (step :: steps) s = (.error e, s') := by
  simp only [batch, doStep_of_raises h]

/-- After steps that succeed, the rest of a batch goes on where they end. -/
theorem batch_append_of_oneByOne (h : Step.OneByOne life steps s results s') (later : List (Step T)) :
    batch life (steps ++ later) s = ((batch life later s').1.map (results ++ ·), (batch life later s').2) := by
  induction h with
  | none s =>
    rw [List.nil_append]
    rcases batch life later s with ⟨_ | _, last⟩
    · rfl
    · rfl
  | @next step steps s s' s'' results more h hrest ih =>
    rw [List.cons_append, batch_cons_of_succeeds h, ih]
    rcases batch life later s'' with ⟨_ | _, last⟩
    · rfl
    · simp only [Except.map, List.append_assoc]

theorem batch_of_oneByOne (h : Step.OneByOne life steps s results s') : batch life steps s = (.ok results, s') := by
  have happend := batch_append_of_oneByOne h []
  rw [List.append_nil] at happend
  rw [happend]
  simp only [batch, Except.map, List.append_nil]

theorem batch_of_stopped (h : Step.Stopped life steps s e s') : batch life steps s = (.error e, s') := by
  obtain ⟨front, step, back, results, s₁, rfl, hfront, hraises⟩ := h
  rw [batch_append_of_oneByOne hfront, batch_cons_of_raises hraises]
  rfl

/-- The calls of a batch all succeed, or they stop at one that raises. -/
theorem batch_ends (life : Life T (Stage T σ) M) (steps : List (Step T)) (s : Scene T (Stage T σ) M) :
    (∃ results s', Step.OneByOne life steps s results s') ∨ ∃ e s', Step.Stopped life steps s e s' := by
  induction steps generalizing s with
  | nil => exact .inl ⟨[], s, .none s⟩
  | cons step steps ih =>
    rcases step_ends life step s with ⟨results, s₁, hstep⟩ | ⟨e, s₁, hraises⟩
    · rcases ih s₁ with ⟨more, s', hrest⟩ | ⟨e, s', front, last, back, more, s₂, rfl, hfront, hraises⟩
      · exact .inl ⟨_, s', .next hstep hrest⟩
      · exact .inr ⟨e, s', step :: front, last, back, _, s₂, rfl, .next hstep hfront, hraises⟩
    · exact .inr ⟨e, s₁, [], step, steps, [], s, rfl, .none s, hraises⟩

theorem batch_eq_ok_iff : batch life steps s = (.ok results, s') ↔ Step.OneByOne life steps s results s' := by
  constructor
  · intro h
    rcases batch_ends life steps s with ⟨results', last, hall⟩ | ⟨e, last, hstopped⟩
    · rw [batch_of_oneByOne hall] at h
      obtain ⟨hresults, rfl⟩ := Prod.mk.inj h
      exact Except.ok.inj hresults ▸ hall
    · rw [batch_of_stopped hstopped] at h
      cases h
  · exact batch_of_oneByOne

theorem batch_eq_error_iff : batch life steps s = (.error e, s') ↔ Step.Stopped life steps s e s' := by
  constructor
  · intro h
    rcases batch_ends life steps s with ⟨results, last, hall⟩ | ⟨e', last, hstopped⟩
    · rw [batch_of_oneByOne hall] at h
      cases h
    · rw [batch_of_stopped hstopped] at h
      obtain ⟨herror, rfl⟩ := Prod.mk.inj h
      exact Except.error.inj herror ▸ hstopped
  · exact batch_of_stopped

/-- Two batches, the second if the first succeeds, are one. -/
theorem batch_append (life : Life T (Stage T σ) M) (steps more : List (Step T)) (s : Scene T (Stage T σ) M) :
    batch life (steps ++ more) s = match batch life steps s with
      | (.error e, s') => (.error e, s')
      | (.ok results, s') => ((batch life more s').1.map (results ++ ·), (batch life more s').2) := by
  rcases batch_ends life steps s with ⟨results, s', hall⟩ | ⟨e, s', hstopped⟩
  · rw [batch_of_oneByOne hall]
    exact batch_append_of_oneByOne hall more
  · rw [batch_of_stopped hstopped]
    obtain ⟨front, step, back, results, s₁, rfl, hfront, hraises⟩ := hstopped
    apply batch_of_stopped
    exact ⟨front, step, back ++ more, results, s₁, by simp, hfront, hraises⟩

/-- A batch is its steps one by one. It gives the results of the calls that wait for patterns, in order, and leaves
what the last call leaves, exactly if all calls succeed; it raises an error exactly if that is the first one that any
of them raises, with all that the calls up to then have done and nothing of those behind. One step after another, it
may be cut anywhere. -/
theorem batch_one_by_one (life : Life T (Stage T σ) M) (steps : List (Step T)) (s : Scene T (Stage T σ) M) :
    (∀ results s', batch life steps s = (.ok results, s') ↔ Step.OneByOne life steps s results s') ∧
    (∀ e s', batch life steps s = (.error e, s') ↔ ∃ front step back results s₁, steps = front ++ step :: back ∧
      Step.OneByOne life front s results s₁ ∧ step.Raises life s₁ e s') ∧
    (∀ v, (Failure.unknownStep v).kind = "TypeError" ∧
      (Failure.unknownStep v).message = "Unknown batch step: " ++ v.shown) ∧
    ∀ more, batch life (steps ++ more) s = match batch life steps s with
      | (.error e, s') => (.error e, s')
      | (.ok results, s') => ((batch life more s').1.map (results ++ ·), (batch life more s').2) := by
  refine ⟨?_, ?_, ?_, ?_⟩
  · intro results s'
    exact batch_eq_ok_iff
  · intro e s'
    exact batch_eq_error_iff
  · intro v
    exact ⟨rfl, rfl⟩
  · intro more
    exact batch_append life steps more s

end Stage

end Dialogue
