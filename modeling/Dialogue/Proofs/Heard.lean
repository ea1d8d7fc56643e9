import Dialogue.Proofs.Reached
/-!
# When chunks come in

`Heard` is `Reached` with the times at which chunks of text came in. The time that a session keeps is the last of
them, and before the first chunk the time at which the session began (`Heard.lastRead_eq`).
-/

namespace Dialogue

variable {T σ M : Type}

/-- Only a chunk changes the time that a session keeps. -/
theorem Stage.lastRead_readOnce (now : T) {st : Stage T σ} (hnone : ¬ st.readChunk.1.goesOn st.session.decoder) :
    (st.readOnce now).session.lastRead = st.session.lastRead := by
  have hended (st : Stage T σ) : st.endReading.session.lastRead = st.session.lastRead := by
    cases hf : st.session.decoder.finish with
    | none => rw [Stage.endReading_of_none st hf]
    | some tail =>
      rw [Stage.endReading_of_some st hf]
      split
      · rfl
      · rfl
  by_cases hstops : st.readChunk.1.stops st.session.decoder
  · rcases Stage.takeChunk_of_stops st.readChunk.2 now hstops with heq | heq
    · rw [Stage.readOnce, heq, hended]
      rfl
    · rw [Stage.readOnce, heq, hended]
      rfl
  · rw [Stage.readOnce_of_blocked now (Chunk.eq_blocked hnone hstops)]

variable [Moment T]

/-- A stage `st` that can be reached at a time `t` at which the matches `l` have been made, if at `t₀` the stage is
`st₀`; at the `times` in between a chunk has come in, which may have been decoded to no text at all. -/
inductive Heard (S : Setting σ M) (t₀ : T) (st₀ : Stage T σ) : List T → T → List (Match T) → Stage T σ → Prop
  | start : Heard S t₀ st₀ [] t₀ [] st₀
  | pass {times : List T} {t : T} {l : List (Match T)} {st : Stage T σ} (due : T)
    (h : Heard S t₀ st₀ times t l st) : Heard S t₀ st₀ times (Moment.later t due) l st
  | chunk {times : List T} {t : T} {l : List (Match T)} {st : Stage T σ} (halive : st.session.reader.isAlive)
    (hchunk : st.readChunk.1.goesOn st.session.decoder) (h : Heard S t₀ st₀ times t l st) :
    Heard S t₀ st₀ (times ++ [t]) t l (st.readOnce t)
  /-- There is nothing to read, or the reader ends. -/
  | read {times : List T} {t : T} {l : List (Match T)} {st : Stage T σ} (halive : st.session.reader.isAlive)
    (hnone : ¬ st.readChunk.1.goesOn st.session.decoder) (h : Heard S t₀ st₀ times t l st) :
    Heard S t₀ st₀ times t l (st.readOnce t)
  | watch {times : List T} {t : T} {l : List (Match T)} {st : Stage T σ} (h : Heard S t₀ st₀ times t l st) :
    Heard S t₀ st₀ times t l st.runWaiter
  | perform {times : List T} {t : T} {l : List (Match T)} {st : Stage T σ} (cue : SessionCue)
    (h : Heard S t₀ st₀ times t l st) : Heard S t₀ st₀ times t l (st.perform cue).2
  | outside {times : List T} {t : T} {l : List (Match T)} {st : Stage T σ} {m : M}
    {f : σ → Except Failure Unit × List Record × σ} (hm : S.moves m = .outside f) (h : Heard S t₀ st₀ times t l st) :
    Heard S t₀ st₀ times t l (st.actNoting f).2
  | calm {times : List T} {t : T} {l : List (Match T)} {st : Stage T σ} (h : Heard S t₀ st₀ times t l st) :
    Heard S t₀ st₀ times t l st.calm
  | consume {times : List T} {t : T} {l : List (Match T)} {st : Stage T σ} (f : Finding) (elapsed : T)
    (h : Heard S t₀ st₀ times t l st) :
    Heard S t₀ st₀ times t (l ++ [(st.consume f elapsed).1]) (st.consume f elapsed).2

namespace Heard

variable {S : Setting σ M} {t₀ t t' : T} {st₀ st st' : Stage T σ} {times : List T} {l l' : List (Match T)}

theorem reached (h : Heard S t₀ st₀ times t l st) : Reached S t₀ st₀ t l st := by
  induction h with
  | start => exact .start
  | pass due _ ih => exact .pass due ih
  | chunk halive _ _ ih => exact .read halive ih
  | read halive _ _ ih => exact .read halive ih
  | watch _ ih => exact .watch ih
  | perform cue _ ih => exact .perform cue ih
  | outside hm _ ih => exact .outside hm ih
  | calm _ ih => exact .calm ih
  | consume f elapsed _ ih => exact .consume f elapsed ih

/-- What can be reached from there on is heard from there on. -/
theorem onward (h : Heard S t₀ st₀ times t l st) (h' : Reached S t st t' l' st') :
    ∃ more, Heard S t₀ st₀ (times ++ more) t' (l ++ l') st' := by
  induction h' with
  | start =>
    refine ⟨[], ?_⟩
    rw [List.append_nil, List.append_nil]
    exact h
  | pass due _ ih =>
    obtain ⟨more, hmore⟩ := ih
    exact ⟨more, .pass due hmore⟩
  | @read t l st halive _ ih =>
    obtain ⟨more, hmore⟩ := ih
    by_cases hchunk : st.readChunk.1.goesOn st.session.decoder
    · refine ⟨more ++ [t], ?_⟩
      rw [← List.append_assoc]
      exact .chunk halive hchunk hmore
    · exact ⟨more, .read halive hchunk hmore⟩
  | watch _ ih =>
    obtain ⟨more, hmore⟩ := ih
    exact ⟨more, .watch hmore⟩
  | perform cue _ ih =>
    obtain ⟨more, hmore⟩ := ih
    exact ⟨more, .perform cue hmore⟩
  | outside hm _ ih =>
    obtain ⟨more, hmore⟩ := ih
    exact ⟨more, .outside hm hmore⟩
  | calm _ ih =>
    obtain ⟨more, hmore⟩ := ih
    exact ⟨more, .calm hmore⟩
  | consume f elapsed _ ih =>
    obtain ⟨more, hmore⟩ := ih
    refine ⟨more, ?_⟩
    rw [← List.append_assoc]
    exact .consume f elapsed hmore

/-- The time that a session keeps is that of the last chunk. -/
theorem lastRead_eq (h : Heard S t₀ st₀ times t l st) :
    st.session.lastRead = times.getLastD st₀.session.lastRead := by
  induction h with
  | start => rfl
  | pass _ _ ih => exact ih
  | @chunk times t l st _ hchunk _ ih =>
    obtain ⟨_, _, _, _, -, -, heq⟩ := Stage.readOnce_of_goesOn t hchunk
    rw [heq, Stage.takeIn_eq]
    simp
  | @read _ t _ _ _ hnone _ ih =>
    rw [Stage.lastRead_readOnce t hnone]
    exact ih
  | @watch _ _ _ st _ ih =>
    obtain ⟨channel, waiter, hs⟩ := st.runWaiter_session
    rw [hs]
    exact ih
  | @perform _ _ _ st cue _ ih =>
    obtain ⟨closed, channel, hs⟩ := st.perform_session cue
    rw [hs]
    exact ih
  | outside _ _ ih => exact ih
  | calm _ ih => exact ih
  | consume _ _ _ ih => exact ih

end Heard

end Dialogue
