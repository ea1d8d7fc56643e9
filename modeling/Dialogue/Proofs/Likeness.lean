import Dialogue.Proofs.Runs
/-!
# Two runs side by side

Two sessions over different worlds go through the same deeds. If nothing that can happen tells them
apart (`Likeness`), every deed gives back the same and leaves the same to see.

The likeness may depend on something that the world of the first session decides, such as what it is
fed. Then it is known of the whole run only at its end: `Fine` says it of a stage, and a stage that is
not fine never becomes so.
-/

namespace Dialogue

variable {T σ τ M : Type}

/-! ## Sessions that look alike -/

/-- Agreement of everything that calls look at and that can be seen from outside. -/
structure Alike (st : Stage T σ) (st' : Stage T τ) : Prop where
  buffer : st'.session.buffer = st.session.buffer
  eof : st'.session.eof = st.session.eof
  lastRead : st'.session.lastRead = st.session.lastRead
  closed : st'.session.closed = st.session.closed
  channel : st'.session.channel = st.session.channel
  stirred : st'.session.stirred = st.session.stirred
  timeout : st'.session.timeout = st.session.timeout
  partialMatch : st'.session.conduct.partialMatch = st.session.conduct.partialMatch
  checkInterval : st'.session.conduct.checkInterval = st.session.conduct.checkInterval
  engine : st'.session.conduct.engine = st.session.conduct.engine

/-- Two scenes at the same time with the same things to happen. -/
structure Paired (R : Stage T σ → Stage T τ → Prop) (s : Scene T (Stage T σ) M)
    (s' : Scene T (Stage T τ) M) : Prop where
  now : s'.now = s.now
  agenda : s'.agenda = s.agenda
  faults : s'.faults = s.faults
  world : R s.world s'.world

theorem Paired.imp {R R' : Stage T σ → Stage T τ → Prop} {s : Scene T (Stage T σ) M} {s' : Scene T (Stage T τ) M}
    (h : Paired R s s') (hR : ∀ {st st'}, R st st' → R' st st') : Paired R' s s' :=
  ⟨h.now, h.agenda, h.faults, hR h.world⟩

/-- The same answer, and scenes that stay a pair. -/
abbrev Agree {α : Type} (R : Stage T σ → Stage T τ → Prop) (r : α × Scene T (Stage T σ) M)
    (r' : α × Scene T (Stage T τ) M) : Prop :=
  r'.1 = r.1 ∧ Paired R r.2 r'.2

variable [Moment T]

/-- `R` relates stages that nothing tells apart, as long as the first is fine. -/
structure Likeness (S : Setting σ M) (S' : Setting τ M) (Fine : Stage T σ → Prop)
    (R : Stage T σ → Stage T τ → Prop) : Prop where
  alike : ∀ {st st'}, R st st' → Alike st st'
  settle : ∀ {st st'} (now : T), R st st' → Fine st → R (st.settle now) (st'.settle now)
  perform : ∀ {st st'} (cue : SessionCue), R st st' →
    (st'.perform cue).1 = (st.perform cue).1 ∧ R (st.perform cue).2 (st'.perform cue).2
  move : ∀ {st st'} (m : M), R st st' →
    ((S'.moves m).make st').1 = ((S.moves m).make st).1 ∧
      R ((S.moves m).make st).2 ((S'.moves m).make st').2
  calm : ∀ {st st'}, R st st' → R st.calm st'.calm
  consume : ∀ {st st'} (f : Finding) (elapsed : T), R st st' →
    R (st.consume f elapsed).2 (st'.consume f elapsed).2
  spoilt : Kept S fun _ _ (st : Stage T σ) => ¬ Fine st

namespace Alike

variable {st : Stage T σ} {st' : Stage T τ}

theorem judge (h : Alike st st') (patterns : List Pattern) (deadline now : T) :
    st'.judge patterns deadline now = st.judge patterns deadline now := by
  simp only [Stage.judge, Stage.settled, h.buffer, h.eof, h.lastRead, h.partialMatch, h.checkInterval]
  rfl

theorem consume (h : Alike st st') (f : Finding) (elapsed : T) :
    (st'.consume f elapsed).1 = (st.consume f elapsed).1 := by
  simp only [Stage.consume, h.buffer]

end Alike

namespace Likeness

variable {S : Setting σ M} {S' : Setting τ M} {Fine : Stage T σ → Prop}
  {R : Stage T σ → Stage T τ → Prop} {s : Scene T (Stage T σ) M} {s' : Scene T (Stage T τ) M}

theorem view (hl : Likeness S S' Fine R) (h : Paired R s s') : s'.view = s.view := by
  have ha := hl.alike h.world
  simp only [Scene.view, Stage.before, ha.buffer, ha.eof, ha.closed, ha.channel, h.now]

/-! ## Rests -/

theorem make (hl : Likeness S S' Fine R) (moves : List M) (h : Paired R s s') :
    Paired R (s.make S.life moves) (s'.make S'.life moves) := by
  induction moves generalizing s s' with
  | nil => exact h
  | cons m moves ih =>
    obtain ⟨heq, hr⟩ := hl.move m h.world
    simp only [Scene.make, Setting.life, Stage.lifeWith]
    revert heq hr
    rcases (S.moves m).make s.world with ⟨outcome, world⟩
    rcases (S'.moves m).make s'.world with ⟨outcome', world'⟩
    rintro rfl hr
    cases outcome' with
    | ok _ => exact ih ⟨h.now, h.agenda, h.faults, hr⟩
    | error e => exact ⟨h.now, h.agenda, by simp only [h.faults], hr⟩

theorem keep (hl : Likeness S S' Fine R) (a : Appointment T M) (h : Paired R s s') :
    Paired R (s.keep S.life a) (s'.keep S'.life a) :=
  hl.make a.moves ⟨by simp only [h.now], h.agenda, h.faults, h.world⟩

theorem settledWith (hl : Likeness S S' Fine R) (agenda : List (Appointment T M)) (h : Paired R s s')
    (hf : Fine s.world) : Paired R (s.settledWith S.life agenda) (s'.settledWith S'.life agenda) :=
  ⟨h.now, rfl, h.faults, by
    simp only [Scene.settledWith, h.now]
    exact hl.settle s.now h.world hf⟩

/-- What was not fine before a rest is not fine after it. -/
theorem fine_of_restWith (hl : Likeness S S' Fine R) {woken : Stage T σ → Bool} {deadline : Option T}
    {agenda : List (Appointment T M)} (hf : Fine (s.restWith S.life woken deadline agenda).2.world) :
    Fine s.world :=
  Classical.byContradiction fun hn => hl.spoilt.restWith (l := []) woken deadline agenda s hn hf

theorem restWith (hl : Likeness S S' Fine R) {woken : Stage T σ → Bool} {woken' : Stage T τ → Bool}
    (hw : ∀ {st st'}, R st st' → woken' st' = woken st) (deadline : Option T)
    (agenda : List (Appointment T M)) (h : Paired R s s')
    (hf : Fine (s.restWith S.life woken deadline agenda).2.world) :
    (s'.restWith S'.life woken' deadline agenda).1 = (s.restWith S.life woken deadline agenda).1 ∧
      Paired R (s.restWith S.life woken deadline agenda).2
        (s'.restWith S'.life woken' deadline agenda).2 := by
  induction agenda generalizing s s' with
  | nil =>
    have hs := hl.settledWith [] h (hl.fine_of_restWith hf)
    rw [Scene.restWith_nil, Scene.restWith_nil, hw hs.world]
    split
    · exact ⟨rfl, hs⟩
    · split
      · exact ⟨rfl, by simp only [h.now], hs.agenda, hs.faults, hs.world⟩
      · exact ⟨rfl, hs⟩
  | cons a agenda ih =>
    have hfine := hl.fine_of_restWith hf
    have hs := hl.settledWith (a :: agenda) h hfine
    rw [Scene.restWith_cons] at hf
    rw [Scene.restWith_cons, Scene.restWith_cons, hw hs.world]
    split
    · exact ⟨rfl, hs⟩
    · next hwk =>
      rw [if_neg hwk] at hf
      split
      · next hdue =>
        rw [if_pos hdue] at hf
        exact ih (hl.keep a (hl.settledWith agenda h hfine)) hf
      · exact ⟨rfl, by simp only [h.now], hs.agenda, hs.faults, hs.world⟩

theorem rest (hl : Likeness S S' Fine R) {woken : Stage T σ → Bool} {woken' : Stage T τ → Bool}
    (hw : ∀ {st st'}, R st st' → woken' st' = woken st) (deadline : Option T) (h : Paired R s s')
    (hf : Fine (s.rest S.life woken deadline).2.world) :
    Paired R (s.rest S.life woken deadline).2 (s'.rest S'.life woken' deadline).2 := by
  simp only [Scene.rest, h.agenda]
  exact (hl.restWith hw deadline s.agenda h hf).2

/-! ## Calls and deeds -/

theorem lull (hl : Likeness S S' Fine R) (length : T) (h : Paired R s s')
    (hf : Fine (Stage.lull S.life length s).world) :
    Paired R (Stage.lull S.life length s) (Stage.lull S'.life length s') := by
  simp only [Stage.lull, h.now] at hf ⊢
  exact hl.rest (fun hr => (hl.alike hr).stirred) _ ⟨rfl, h.agenda, h.faults, hl.calm h.world⟩ hf

theorem expectUntil (hl : Likeness S S' Fine R) (patterns : List Pattern) (limit : Span T) (started : T)
    (fuel : Nat) (h : Paired R s s')
    (hf : Fine (Stage.expectUntil S.life patterns limit started fuel s).2.world) :
    Agree R (Stage.expectUntil S.life patterns limit started fuel s)
      (Stage.expectUntil S'.life patterns limit started fuel s') := by
  induction fuel generalizing s s' with
  | zero => exact ⟨rfl, h⟩
  | succ fuel ih =>
    have ha := hl.alike h.world
    have hj : s'.world.judge patterns (started + limit.length) s'.now =
        s.world.judge patterns (started + limit.length) s.now := by
      rw [h.now]
      exact ha.judge _ _ _
    rw [Stage.expectUntil_succ] at hf
    rw [Stage.expectUntil_succ, Stage.expectUntil_succ, hj]
    cases hv : s.world.judge patterns (started + limit.length) s.now with
    | found f =>
      refine ⟨?_, h.now, h.agenda, h.faults, ?_⟩
      · simp only [ha.consume, h.now]
      · simpa only [h.now] using hl.consume f (s.now - started) h.world
    | atEnd => exact ⟨rfl, h⟩
    | late => exact ⟨rfl, h⟩
    | wait length =>
      rw [hv] at hf
      -- What is fine at the end was fine after the wait: what is spoilt once stays so.
      have hlull : Fine (Stage.lull S.life length s).world :=
        Classical.byContradiction fun hn =>
          hl.spoilt.expectUntil (l := []) patterns limit started fuel _ hn hf
      exact ih (hl.lull length h hlull) hf

theorem expectAny (hl : Likeness S S' Fine R) (targets : List Target) (limit : Option (Span T))
    (h : Paired R s s') (hf : Fine (Stage.expectAny S.life targets limit s).2.world) :
    Agree R (Stage.expectAny S.life targets limit s) (Stage.expectAny S'.life targets limit s') := by
  simp only [Stage.expectAny, Stage.patience, h.now, h.agenda, (hl.alike h.world).timeout,
    (hl.alike h.world).engine] at hf ⊢
  cases hc : Target.compileAll s.world.session.conduct.engine targets with
  | error e => exact ⟨rfl, h⟩
  | ok patterns =>
    rw [hc] at hf
    exact hl.expectUntil patterns _ _ _ h hf

theorem doStep (hl : Likeness S S' Fine R) (step : Step T) (h : Paired R s s')
    (hf : Fine (Stage.doStep S.life step s).2.world) :
    Agree R (Stage.doStep S.life step s) (Stage.doStep S'.life step s') := by
  cases step with
  | send data =>
    obtain ⟨heq, hr⟩ := hl.perform (.send data) h.world
    simp only [Stage.perform] at heq hr
    exact ⟨by simp only [Stage.doStep, heq], h.now, h.agenda, h.faults, hr⟩
  | expect target limit =>
    obtain ⟨heq, hp⟩ := hl.expectAny [target] limit h hf
    exact ⟨by simp only [Stage.doStep, heq], hp⟩
  | expectAny targets limit =>
    obtain ⟨heq, hp⟩ := hl.expectAny targets limit h hf
    exact ⟨by simp only [Stage.doStep, heq], hp⟩
  | unknown v => exact ⟨rfl, h⟩

/-- What is fine at the end of a batch was fine after its first step. -/
theorem fine_of_batch (hl : Likeness S S' Fine R) {step : Step T} {steps : List (Step T)}
    (hf : Fine (Stage.batch S.life (step :: steps) s).2.world) :
    Fine (Stage.doStep S.life step s).2.world := by
  refine Classical.byContradiction fun hn => ?_
  simp only [Stage.batch] at hf
  revert hf hn
  rcases Stage.doStep S.life step s with ⟨outcome, w⟩
  cases outcome with
  | error e => exact fun hf hn => hn hf
  | ok results => exact fun hf hn => hl.spoilt.batch (l := []) steps w hn hf

theorem batch (hl : Likeness S S' Fine R) (steps : List (Step T)) (h : Paired R s s')
    (hf : Fine (Stage.batch S.life steps s).2.world) :
    Agree R (Stage.batch S.life steps s) (Stage.batch S'.life steps s') ∧
      Stage.made S'.life steps s' = Stage.made S.life steps s := by
  induction steps generalizing s s' with
  | nil => exact ⟨⟨rfl, h⟩, rfl⟩
  | cons step steps ih =>
    obtain ⟨heq, hp⟩ := hl.doStep step h (hl.fine_of_batch hf)
    simp only [Stage.batch, Stage.made] at hf ⊢
    cases hx : Stage.doStep S.life step s with
    | mk outcome w =>
      cases hx' : Stage.doStep S'.life step s' with
      | mk outcome' w' =>
        simp only [hx, hx'] at heq hp hf
        subst heq
        cases outcome' with
        | error e => exact ⟨⟨rfl, hp⟩, rfl⟩
        | ok results =>
          obtain ⟨⟨heq, hp⟩, hmade⟩ := ih hp hf
          exact ⟨⟨by simp only [heq], hp⟩, by simp only [hmade]⟩

theorem receive (hl : Likeness S S' Fine R) (limit : Option (Span T)) (h : Paired R s s')
    (hf : Fine (Channel.receive (·.session.channel) S.life limit s).2.world) :
    Agree R (Channel.receive (·.session.channel) S.life limit s)
      (Channel.receive (·.session.channel) S'.life limit s') := by
  simp only [Channel.receive, (hl.alike h.world).channel, h.now] at hf ⊢
  split
  · exact ⟨rfl, h⟩
  · next hexit =>
    simp only [hexit] at hf
    split
    · exact ⟨rfl, h⟩
    · next hlimit =>
      rw [if_neg hlimit] at hf
      have hrest : Fine (s.rest S.life (fun w => w.session.channel.isDone)
          (limit.map (s.now + ·.length))).2.world := by
        revert hf
        split <;> exact fun hf => hf
      have hp := hl.rest (fun {st st'} hr => show st'.session.channel.isDone = _ by rw [(hl.alike hr).channel]) _ h hrest
      rw [(hl.alike hp.world).channel]
      split <;> exact ⟨rfl, hp⟩

theorem deed (hl : Likeness S S' Fine R) (d : Deed T M) (h : Paired R s s')
    (hf : Fine (d.perform S.life s).2.world) :
    Agree R (d.perform S.life s) (d.perform S'.life s') := by
  cases d with
  | expectAny targets limit =>
    obtain ⟨heq, hp⟩ := hl.expectAny targets limit h hf
    exact ⟨by simp only [Deed.perform, heq], hp⟩
  | batch steps =>
    obtain ⟨⟨heq, hp⟩, -⟩ := hl.batch steps h hf
    exact ⟨by simp only [Deed.perform, heq], hp⟩
  | move m =>
    obtain ⟨heq, hr⟩ := hl.move m h.world
    exact ⟨by simp only [Deed.perform, Setting.life, Stage.lifeWith, heq], h.now, h.agenda, h.faults, hr⟩
  | arrange delay moves =>
    exact ⟨rfl, h.now, by simp only [Deed.perform, Scene.arrange, h.now, h.agenda], h.faults, h.world⟩
  | sleep length =>
    simp only [Deed.perform, Scene.sleep, h.now] at hf ⊢
    split
    · exact ⟨rfl, h⟩
    · next hneg =>
      rw [if_neg hneg] at hf
      split
      · exact ⟨rfl, h⟩
      · next hzero =>
        rw [if_neg hzero] at hf
        exact ⟨rfl, hl.rest (fun _ => rfl) _ h hf⟩
  | receive limit =>
    obtain ⟨heq, hp⟩ := hl.receive limit h hf
    exact ⟨by simp only [Deed.perform, heq], hp⟩
  | result limit =>
    simp only [Deed.perform, Channel.result_scene] at hf
    obtain ⟨heq, hp⟩ := hl.receive limit h hf
    simp only [Deed.perform, Channel.result]
    cases hx : Channel.receive (·.session.channel) S.life limit s with
    | mk outcome w =>
      cases hx' : Channel.receive (·.session.channel) S'.life limit s' with
      | mk outcome' w' =>
        simp only [hx, hx'] at heq hp
        subst heq
        rcases outcome' with e | (_ | e) <;> exact ⟨rfl, hp⟩
  | settle =>
    simp only [Deed.perform, Scene.settle, h.now] at hf ⊢
    exact ⟨rfl, hl.rest (fun _ => rfl) _ h hf⟩

theorem taken (hl : Likeness S S' Fine R) (d : Deed T M) (h : Paired R s s')
    (hf : Fine (d.perform S.life s).2.world) : d.taken S'.life s' = d.taken S.life s := by
  cases d with
  | expectAny targets limit => simp only [Deed.taken, (hl.expectAny targets limit h hf).1]
  | batch steps => exact (hl.batch steps h hf).2
  | _ => rfl

/-- Nothing that is done tells the two sessions apart. -/
theorem run (hl : Likeness S S' Fine R) (deeds : List (Deed T M)) (h : Paired R s s')
    (hf : Fine (Deed.run S.life deeds s).2.world) :
    Agree R (Deed.run S.life deeds s) (Deed.run S'.life deeds s') ∧
      Deed.allTaken S'.life deeds s' = Deed.allTaken S.life deeds s := by
  induction deeds generalizing s s' with
  | nil => exact ⟨⟨rfl, h⟩, rfl⟩
  | cons d deeds ih =>
    have hd : Fine (d.perform S.life s).2.world :=
      Classical.byContradiction fun hn => hl.spoilt.run (l := []) deeds _ hn hf
    obtain ⟨heq, hp⟩ := hl.deed d h hd
    obtain ⟨⟨hrest, hlast⟩, htaken⟩ := ih hp hf
    refine ⟨⟨?_, hlast⟩, ?_⟩
    · simp only [Deed.run, heq, hl.view hp, hrest]
    · simp only [Deed.allTaken, hl.taken d h hd, htaken]

end Likeness

end Dialogue
