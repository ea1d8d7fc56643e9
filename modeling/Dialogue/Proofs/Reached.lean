import Dialogue.Proofs.Tape
/-!
# Reachable stages

`Reached` says what can become of a stage, one thing after the other and in any order: time passes, the reader
reads once, the waiter goes on, and caller and surroundings do what they can. Every run is such an order
(`Reached.run`), what every step keeps holds of all that is reached (`Steady.reached`), and so does what can be
read off a tape (`OffTape.reached`).
-/

namespace Dialogue

variable {T σ M : Type} [Moment T]

/-- A stage `st` that can be reached at a time `t` at which the matches `l` have been made, if at `t₀` the
stage is `st₀`. -/
inductive Reached (S : Setting σ M) (t₀ : T) (st₀ : Stage T σ) : T → List (Match T) → Stage T σ → Prop
  | start : Reached S t₀ st₀ t₀ [] st₀
  | pass {t : T} {l : List (Match T)} {st : Stage T σ} (due : T) (h : Reached S t₀ st₀ t l st) :
    Reached S t₀ st₀ (Moment.later t due) l st
  | read {t : T} {l : List (Match T)} {st : Stage T σ} (halive : st.session.reader.isAlive)
    (h : Reached S t₀ st₀ t l st) : Reached S t₀ st₀ t l (st.readOnce t)
  | watch {t : T} {l : List (Match T)} {st : Stage T σ} (h : Reached S t₀ st₀ t l st) :
    Reached S t₀ st₀ t l st.runWaiter
  | perform {t : T} {l : List (Match T)} {st : Stage T σ} (cue : SessionCue) (h : Reached S t₀ st₀ t l st) :
    Reached S t₀ st₀ t l (st.perform cue).2
  | outside {t : T} {l : List (Match T)} {st : Stage T σ} {m : M} {f : σ → Except Failure Unit × List Record × σ}
    (hm : S.moves m = .outside f) (h : Reached S t₀ st₀ t l st) : Reached S t₀ st₀ t l (st.actNoting f).2
  | calm {t : T} {l : List (Match T)} {st : Stage T σ} (h : Reached S t₀ st₀ t l st) : Reached S t₀ st₀ t l st.calm
  | consume {t : T} {l : List (Match T)} {st : Stage T σ} (f : Finding) (elapsed : T) (h : Reached S t₀ st₀ t l st) :
    Reached S t₀ st₀ t (l ++ [(st.consume f elapsed).1]) (st.consume f elapsed).2

namespace Reached

variable {S : Setting σ M} {t₀ t : T} {st₀ st : Stage T σ} {l : List (Match T)}

theorem readOn (fuel : Nat) (halive : st.session.reader.isAlive) (h : Reached S t₀ st₀ t l st) :
    Reached S t₀ st₀ t l (st.readOn t fuel) := by
  induction fuel generalizing st with
  | zero => exact h
  | succ fuel ih =>
    rw [Stage.readOn_succ]
    split
    · next hgo => exact ih (Stage.isAlive_of_goesOn t hgo halive) (.read halive h)
    · exact .read halive h

theorem settle (h : Reached S t₀ st₀ t l st) : Reached S t₀ st₀ t l (st.settle t) := by
  refine .watch ?_
  unfold Stage.runReader
  split
  · next halive => exact h.readOn _ halive
  · exact h

theorem kept : Kept S (Reached S t₀ st₀) where
  pass due h := .pass due h
  settle h := h.settle
  perform cue h := .perform cue h
  outside hm h := .outside hm h
  calm h := .calm h
  consume f elapsed h := .consume f elapsed h

/-- Whatever a run does can be done step by step. -/
theorem run (deeds : List (Deed T M)) (s : Scene T (Stage T σ) M) :
    Reached S s.now s.world (Deed.run S.life deeds s).2.now (Deed.allTaken S.life deeds s)
      (Deed.run S.life deeds s).2.world := by
  have hstart : Reached S s.now s.world s.now [] s.world := .start
  simpa using kept.run deeds s hstart

end Reached

/-- What every step keeps is never broken. -/
theorem Steady.reached {S : Setting σ M} {P : T → List (Match T) → Stage T σ → Prop} (hs : Steady S P) {t₀ t : T}
    {st₀ st : Stage T σ} {l : List (Match T)} (h₀ : Linked S (P t₀ []) st₀) (h : Reached S t₀ st₀ t l st) :
    Linked S (P t l) st := by
  induction h with
  | start => exact h₀
  | pass due _ ih => exact hs.kept.pass due ih
  | read halive _ ih => exact (hs.ongoing _ _).readOnce ih halive
  | watch _ ih => exact (hs.ongoing _ _).runWaiter ih
  | perform cue _ ih => exact hs.kept.perform cue ih
  | outside hm _ ih => exact hs.kept.outside hm ih
  | calm _ ih => exact hs.kept.calm ih
  | consume f elapsed _ ih => exact hs.kept.consume f elapsed ih

/-- What is known of a process stays known if nothing that is done to it changes that. -/
theorem Steady.of_process {S : Setting σ M} {Q : σ → Prop} (htouch : ∀ {w w'}, S.Touch w w' → Q w → Q w')
    (hread : ∀ n w, Q w → Q (S.link.read n w).2) (hclose : ∀ w, Q w → Q (S.link.closeOutput w).2) :
    Steady S fun (_ : T) _ st => Q st.process where
  ongoing _ _ :=
    have hreadChunk {st : Stage T σ} (hlink : st.session.link = S.link) (h : Q st.process) : Q st.readChunk.2.process := by
      unfold Stage.readChunk
      rw [hlink]
      exact hread _ _ h
    { aside := fun h ha => htouch ha.touch h
      pause := fun hlink h _ _ => hreadChunk hlink h
      take := fun hlink h _ _ _ _ => by
        rw [Stage.takeIn_eq]
        exact hreadChunk hlink h
      stop := fun {st _} hlink h _ _ _ => by
        have hlink' : st.readChunk.2.session.link = S.link := hlink
        unfold Stage.ended
        rw [hlink']
        exact hclose _ (hreadChunk hlink h)
      fail := fun hlink h _ _ _ => hreadChunk hlink h }
  pass _ h := h
  calm h := h
  consume _ _ h := h

/-- A session keeps its link. -/
theorem Reached.link_eq {S : Setting σ M} {t₀ t : T} {st₀ st : Stage T σ} {l : List (Match T)}
    (h : Reached S t₀ st₀ t l st) (hlink : st₀.session.link = S.link) : st.session.link = S.link := by
  have hsteady : Steady S fun (_ : T) _ (_ : Stage T σ) => True :=
    .of_process (fun _ _ => trivial) (fun _ _ _ => trivial) (fun _ _ => trivial)
  exact (hsteady.reached ⟨hlink, trivial⟩ h).1

/-- What is reached can be reached on tape. -/
theorem OffTape.reached {S : Setting σ M} {c : Conduct T} {t₀ t : T} {st₀ : Stage T (Taped σ M)}
    {st₀' st' : Stage T σ} {l : List (Match T)} (h₀ : OffTape S Eq c c.bufferSize c.bufferSize_pos st₀ st₀')
    (h : Reached S t₀ st₀' t l st') :
    ∃ st, Reached S.taped t₀ st₀ t l st ∧ OffTape S Eq c c.bufferSize c.bufferSize_pos st st' := by
  have hlogs : ∀ {log log' : List Record} (records : List Record), log = log' → log ++ records = log' ++ records :=
    fun records hlog => by rw [hlog]
  induction h with
  | start => exact ⟨st₀, .start, h₀⟩
  | pass due _ ih =>
    obtain ⟨st, hst, hoff⟩ := ih
    exact ⟨st, .pass due hst, hoff⟩
  | read halive _ ih =>
    obtain ⟨st, hst, hoff⟩ := ih
    rw [hoff.session] at halive
    exact ⟨_, .read halive hst, hoff.readOnce _⟩
  | watch _ ih =>
    obtain ⟨st, hst, hoff⟩ := ih
    exact ⟨_, .watch hst, hoff.runWaiter hlogs⟩
  | perform cue _ ih =>
    obtain ⟨st, hst, hoff⟩ := ih
    exact ⟨_, .perform cue hst, (hoff.perform hlogs cue).2⟩
  | @outside _ _ _ m f hm _ ih =>
    obtain ⟨st, hst, hoff⟩ := ih
    have htaped : S.taped.moves m = (Move.outside f).taped m := by simp only [Setting.taped, hm]
    have hmove := (hoff.move hlogs m).2
    rw [hm, htaped] at hmove
    exact ⟨_, .outside htaped hst, hmove⟩
  | calm _ ih =>
    obtain ⟨st, hst, hoff⟩ := ih
    exact ⟨_, .calm hst, hoff.calm⟩
  | @consume _ _ st' f elapsed _ ih =>
    obtain ⟨st, hst, hoff⟩ := ih
    have htaken : (st'.consume f elapsed).1 = (st.consume f elapsed).1 := by
      simp only [Stage.consume, hoff.session]
    rw [htaken]
    exact ⟨_, .consume f elapsed hst, hoff.consume hlogs f elapsed⟩

end Dialogue
