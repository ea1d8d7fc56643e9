import Dialogue.Proofs.Steps
/-!
# What goes on by itself, and what it leaves alone

The reader only reads from the process and closes its output, and the waiter only waits for its exit. So what these
do not break holds of the process however long both go on (`Stage.settle_keeps`), and of a session among whose
arranged moves there is none that breaks it, however long somebody waits (`Spared.deed`).
-/

namespace Dialogue

variable {T σ M : Type}

/-! ## The reader -/

/-- What of a session the reader has no part in. -/
def Session.standing (s : Session T σ) : Link σ × Conduct T × Span T × Bool × Task :=
  (s.link, s.conduct, s.timeout, s.closed, s.waiter)

/-- What holds of a world stays true when something is read, and when the output is closed. -/
structure Link.ReaderKeeps (l : Link σ) (Q : σ → Prop) : Prop where
  read : ∀ n {w}, Q w → Q (l.read n w).2
  closeOutput : ∀ {w}, Q w → Q (l.closeOutput w).2

namespace Stage

theorem endReading_standing (st : Stage T σ) : st.endReading.session.standing = st.session.standing := by
  cases hf : st.session.decoder.finish with
  | none =>
    rw [endReading_of_none st hf]
    rfl
  | some tail =>
    rw [endReading_of_some st hf]
    split <;> rfl

theorem endReading_reader (st : Stage T σ) : st.endReading.session.reader = .ended := by
  cases hf : st.session.decoder.finish with
  | none => rw [endReading_of_none st hf]
  | some tail =>
    rw [endReading_of_some st hf]
    split <;> rfl

theorem readOnce_standing (now : T) (st : Stage T σ) :
    (st.readOnce now).session.standing = st.session.standing := by
  -- What is read is taken in, ends the reader, or is nothing yet.
  by_cases hgo : st.readChunk.1.goesOn st.session.decoder
  · obtain ⟨_, _, _, _, -, -, heq⟩ := readOnce_of_goesOn now hgo
    rw [heq, takeIn_eq]
    rfl
  by_cases hstops : st.readChunk.1.stops st.session.decoder
  · rcases takeChunk_of_stops st.readChunk.2 now hstops with heq | heq <;>
      rw [readOnce, heq, endReading_standing] <;> rfl
  · rw [readOnce_of_blocked now (Chunk.eq_blocked hgo hstops)]
    rfl

theorem runReader_standing (now : T) (st : Stage T σ) :
    (st.runReader now).session.standing = st.session.standing := by
  have hread (fuel : Nat) : ∀ st : Stage T σ, (st.readOn now fuel).session.standing = st.session.standing := by
    induction fuel with
    | zero => exact fun _ => rfl
    | succ fuel ih =>
      intro st
      rw [readOn_succ]
      split
      · exact (ih _).trans (readOnce_standing now st)
      · exact readOnce_standing now st
  unfold runReader
  split
  · exact hread _ st
  · rfl

variable {Q : σ → Prop} {st : Stage T σ}

theorem endReading_keeps (hl : st.session.link.ReaderKeeps Q) (h : Q st.process) : Q st.endReading.process := by
  cases hf : st.session.decoder.finish with
  | none =>
    rw [endReading_of_none st hf]
    exact h
  | some tail =>
    rw [endReading_of_some st hf]
    split <;> exact hl.closeOutput h

theorem readOnce_keeps (hl : st.session.link.ReaderKeeps Q) (h : Q st.process) (now : T) :
    Q (st.readOnce now).process := by
  have hchunk : Q st.readChunk.2.process := hl.read _ h
  by_cases hgo : st.readChunk.1.goesOn st.session.decoder
  · obtain ⟨_, _, _, _, -, -, heq⟩ := readOnce_of_goesOn now hgo
    rw [heq, takeIn_eq]
    exact hchunk
  by_cases hstops : st.readChunk.1.stops st.session.decoder
  · rcases takeChunk_of_stops st.readChunk.2 now hstops with heq | heq <;> rw [readOnce, heq]
    · exact endReading_keeps hl hchunk
    · exact endReading_keeps hl hchunk
  · rw [readOnce_of_blocked now (Chunk.eq_blocked hgo hstops)]
    exact hchunk

theorem runReader_keeps (hl : st.session.link.ReaderKeeps Q) (h : Q st.process) (now : T) :
    Q (st.runReader now).process := by
  have hread (fuel : Nat) : ∀ {st : Stage T σ}, st.session.link.ReaderKeeps Q → Q st.process →
      Q (st.readOn now fuel).process := by
    induction fuel with
    | zero => exact fun _ h => h
    | succ fuel ih =>
      intro st hl h
      rw [readOn_succ]
      split
      · have hlink : (st.readOnce now).session.link = st.session.link := congrArg Prod.fst (readOnce_standing now st)
        exact ih (hlink ▸ hl) (readOnce_keeps hl h now)
      · exact readOnce_keeps hl h now
  unfold runReader
  split
  · exact hread _ hl h
  · exact h

end Stage

/-! ## The waiter -/

/-- What holds of a world stays true whatever background work does to it. -/
structure Link.Keeps (l : Link σ) (Q : σ → Prop) : Prop extends l.ReaderKeeps Q where
  begin : ∀ wait ∈ l.wait, ∀ {w}, Q w → Q (wait.begin w)
  poll : ∀ wait ∈ l.wait, ∀ {w}, Q w → Q (wait.poll w).2.2

namespace Stage

variable {Q : σ → Prop} {st : Stage T σ}

theorem runWaiter_keeps (hl : st.session.link.Keeps Q) (h : Q st.process) : Q st.runWaiter.process := by
  unfold runWaiter
  split
  · next wait hwait _ =>
    rw [(pollExit_frame wait _).1]
    exact hl.poll wait hwait (hl.begin wait hwait h)
  · next wait hwait _ =>
    rw [(pollExit_frame wait st).1]
    exact hl.poll wait hwait h
  · exact h

theorem settle_keeps (hl : st.session.link.Keeps Q) (h : Q st.process) (now : T) : Q (st.settle now).process := by
  have hlink : (st.runReader now).session.link = st.session.link := congrArg Prod.fst (runReader_standing now st)
  exact runWaiter_keeps (hlink ▸ hl) (runReader_keeps hl.toReaderKeeps h now)

/-- A waiter that was never started stays so. -/
theorem runWaiter_idle (h : st.session.waiter = .idle) : st.runWaiter = st := by
  unfold runWaiter
  split
  · next hready => cases hready.symm.trans h
  · next hwaiting => cases hwaiting.symm.trans h
  · rfl

theorem settle_session (now : T) (st : Stage T σ) : (st.settle now).session.link = st.session.link ∧
    (st.settle now).session.conduct = st.session.conduct ∧ (st.settle now).session.closed = st.session.closed := by
  obtain ⟨channel, waiter, hsession⟩ := (st.runReader now).runWaiter_session
  have hstanding := runReader_standing now st
  simp only [Session.standing, Prod.mk.injEq] at hstanding
  rw [settle, hsession]
  exact ⟨hstanding.1, hstanding.2.1, hstanding.2.2.2.1⟩

end Stage

/-! ## After what can be done now is done -/

variable [Moment T]

/-- What holds once the work that can be done now is done, and is never broken, holds when somebody has waited. -/
theorem Kept.restWith_settled {S : Setting σ M} {P : T → List (Match T) → Stage T σ → Prop} {l : List (Match T)}
    (hk : Kept S P) (woken : Stage T σ → Bool) (deadline : Option T) (agenda : List (Appointment T M))
    (s : Scene T (Stage T σ) M) (h : P s.now l (s.world.settle s.now)) :
    P (s.restWith S.life woken deadline agenda).2.now l (s.restWith S.life woken deadline agenda).2.world := by
  cases agenda with
  | nil =>
    rw [Scene.restWith_nil]
    split
    · exact h
    · split
      · exact hk.pass _ h
      · exact h
  | cons a agenda =>
    rw [Scene.restWith_cons]
    split
    · exact h
    · split
      -- Only the first settling had to bring it about, so the rest of the agenda is a wait like any other.
      · exact hk.restWith woken deadline agenda _ (hk.make _ _ (hk.pass a.due h))
      · cases deadline with
        | some d => exact hk.pass d h
        | none => exact h

/-- A reader that has ended does not come back, so nothing is read any more. -/
theorem Steady.over (S : Setting σ M) {Q : σ → Prop} (hQ : ∀ {w w'}, Q w → S.Touch w w' → Q w') :
    Steady S fun (_ : T) _ st => st.session.reader = .ended ∧ Q st.process where
  ongoing now _ := {
    aside := by
      rintro st st' ⟨hreader, hq⟩ ha
      obtain ⟨closed, channel, waiter, hs⟩ := ha.session
      exact ⟨hs ▸ hreader, hQ hq ha.touch⟩
    pause := fun _ h halive _ => absurd halive (by rw [h.1]; decide)
    take := fun _ h halive _ _ _ => absurd halive (by rw [h.1]; decide)
    stop := fun _ h halive _ _ => absurd halive (by rw [h.1]; decide)
    fail := fun _ h halive _ _ => absurd halive (by rw [h.1]; decide) }
  pass _ h := h
  calm h := h
  consume _ _ h := h

/-! ## Moves that may be made -/

/-- What is kept by all that goes on by itself, and by the moves that may be made. -/
structure Spared (S : Setting σ M) (May : M → Prop) (P : Stage T σ → Prop) : Prop where
  settle : ∀ {st} (now : T), P st → P (st.settle now)
  move : ∀ {m st}, May m → P st → P ((S.moves m).make st).2
  calm : ∀ {st}, P st → P st.calm
  consume : ∀ {st} (f : Finding) (elapsed : T), P st → P (st.consume f elapsed).2

/-- Only such moves are arranged. -/
def Plans (May : M → Prop) (agenda : List (Appointment T M)) : Prop := ∀ a ∈ agenda, ∀ m ∈ a.moves, May m

/-- Nothing but such moves is made, and nothing is sent. -/
def Deed.Spares (May : M → Prop) : Deed T M → Prop
  | .move m => May m
  | .arrange _ moves => ∀ m ∈ moves, May m
  | .batch _ => False
  | _ => True

theorem Plans.insert {May : M → Prop} {a : Appointment T M} {agenda : List (Appointment T M)}
    (ha : ∀ m ∈ a.moves, May m) (h : Plans May agenda) : Plans May (Scene.insert a agenda) := by
  induction agenda with
  | nil => simpa [Plans, Scene.insert] using ha
  | cons b agenda ih =>
    obtain ⟨hb, hrest⟩ := List.forall_mem_cons.1 h
    unfold Scene.insert
    split
    · exact List.forall_mem_cons.2 ⟨hb, ih hrest⟩
    · exact List.forall_mem_cons.2 ⟨ha, h⟩

namespace Spared

variable {S : Setting σ M} {May : M → Prop} {P : Stage T σ → Prop} {s : Scene T (Stage T σ) M}

/-- It holds of the scene, and only moves that may be made are arranged. -/
abbrev Holds (May : M → Prop) (P : Stage T σ → Prop) (s : Scene T (Stage T σ) M) : Prop :=
  P s.world ∧ Plans May s.agenda

theorem make (hs : Spared S May P) {moves : List M} (hmoves : ∀ m ∈ moves, May m) (h : Holds May P s) :
    Holds May P (s.make S.life moves) := by
  induction moves generalizing s with
  | nil => exact h
  | cons m moves ih =>
    obtain ⟨hm, hrest⟩ := List.forall_mem_cons.1 hmoves
    have hmove := hs.move hm h.1
    simp only [Scene.make, Setting.life, Stage.lifeWith]
    split
    · next hx => exact ih hrest ⟨by simpa [hx] using hmove, h.2⟩
    · next hx => exact ⟨by simpa [hx] using hmove, h.2⟩

theorem restWith (hs : Spared S May P) (woken : Stage T σ → Bool) (deadline : Option T)
    {agenda : List (Appointment T M)} (hagenda : Plans May agenda) (h : P s.world) :
    Holds May P (s.restWith S.life woken deadline agenda).2 := by
  induction agenda generalizing s with
  | nil =>
    have hsettled := hs.settle s.now h
    rw [Scene.restWith_nil]
    split
    · exact ⟨hsettled, hagenda⟩
    · split <;> exact ⟨hsettled, hagenda⟩
  | cons a agenda ih =>
    have hsettled := hs.settle s.now h
    obtain ⟨ha, hrest⟩ := List.forall_mem_cons.1 hagenda
    rw [Scene.restWith_cons]
    split
    · exact ⟨hsettled, hagenda⟩
    · split
      · have hlater : Holds May P { s.settledWith S.life agenda with now := Moment.later s.now a.due } :=
          ⟨hsettled, hrest⟩
        exact ih hrest (hs.make ha hlater).1
      · exact ⟨hsettled, hagenda⟩

theorem rest (hs : Spared S May P) (woken : Stage T σ → Bool) (deadline : Option T) (h : Holds May P s) :
    Holds May P (s.rest S.life woken deadline).2 :=
  hs.restWith woken deadline h.2 h.1

theorem expectUntil (hs : Spared S May P) (patterns : List Pattern) (limit : Span T) (started : T) (fuel : Nat)
    (h : Holds May P s) : Holds May P (Stage.expectUntil S.life patterns limit started fuel s).2 := by
  induction fuel generalizing s with
  | zero => exact h
  | succ fuel ih =>
    rw [Stage.expectUntil_succ]
    split
    · next f _ => exact ⟨hs.consume f _ h.1, h.2⟩
    · exact h
    · exact h
    · next length _ =>
      have hcalm : Holds May P { s with world := s.world.calm } := ⟨hs.calm h.1, h.2⟩
      exact ih (hs.rest (·.session.stirred) _ hcalm)

theorem expectAny (hs : Spared S May P) (targets : List Target) (limit : Option (Span T)) (h : Holds May P s) :
    Holds May P (Stage.expectAny S.life targets limit s).2 := by
  simp only [Stage.expectAny]
  split
  · exact h
  · exact hs.expectUntil _ _ _ _ h

theorem receive (hs : Spared S May P) (limit : Option (Span T)) (h : Holds May P s) :
    Holds May P (Channel.receive (·.session.channel) S.life limit s).2 := by
  simp only [Channel.receive]
  split
  · exact h
  · split
    · exact h
    · split <;> exact hs.rest _ _ h

/-- It survives everything that sends nothing and makes no other move. -/
theorem deed (hs : Spared S May P) {d : Deed T M} (hd : d.Spares May) (h : Holds May P s) :
    Holds May P (d.perform S.life s).2 := by
  cases d with
  | expectAny targets limit => exact hs.expectAny targets limit h
  | batch steps => exact hd.elim
  | move m => exact ⟨hs.move hd h.1, h.2⟩
  | arrange delay moves => exact ⟨h.1, h.2.insert hd⟩
  | sleep length =>
    simp only [Deed.perform, Scene.sleep]
    split
    · exact h
    · split
      · exact h
      · exact hs.rest _ _ h
  | receive limit => exact hs.receive limit h
  | result limit =>
    simp only [Deed.perform, Channel.result_scene]
    exact hs.receive limit h
  | settle => exact hs.rest _ _ h

end Spared

end Dialogue
