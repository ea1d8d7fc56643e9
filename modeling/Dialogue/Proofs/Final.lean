import Dialogue.Proofs.EndOfOutput
import Dialogue.Proofs.Reached
import Dialogue.Proofs.Winner
/-!
# The end of the output is final

The reader publishes the end of the output with its last chunk, and is over then. So from there on nothing comes in,
whatever is fed or closed: what was left of the text is what is taken from it and what is left now, in every stage
that can be reached (`Over.steady`). A call for patterns then ends with its first look, whatever its limit
(`end_is_final`).
-/

namespace Dialogue

variable {T σ M : Type}

/-- The output has not ended as long as the reader lives. -/
def Stage.OpenAlive (st : Stage T σ) : Prop := st.session.reader.isAlive → st.session.eof = false

namespace Stage.OpenAlive

variable {S : Setting σ M}

theorem ongoing (now : T) : Ongoing S now (Stage.OpenAlive (T := T) (σ := σ)) where
  aside h ha := by
    obtain ⟨closed, channel, waiter, hs⟩ := ha.session
    unfold Stage.OpenAlive
    rw [hs]
    exact h
  pause _ h halive _ := fun _ => h halive
  take _ h halive _ _ _ := by
    rw [Stage.takeIn_eq]
    exact fun _ => h halive
  stop _ _ _ _ _ := nofun
  fail _ _ _ _ _ := nofun

theorem steady [Moment T] : Steady S fun (_ : T) _ => Stage.OpenAlive where
  ongoing now _ := ongoing now
  pass _ h := h
  calm h := h
  consume _ _ h := h

theorem opened [Moment T] (c : Conduct T) (timeout : Span T) (now : T) (agenda : List (Appointment T M)) (d : Desk σ) :
    (S.opened c timeout now agenda d).world.OpenAlive := by
  obtain ⟨starts, reader, waiter, heq, -⟩ := S.opened_world c timeout now agenda d
  unfold Stage.OpenAlive
  rw [heq]
  exact fun _ => rfl

end Stage.OpenAlive

/-- The output has ended. What was left of its text then is what has been taken since and what is left now. -/
structure Over (text : List Char) (l : List (Match T)) (st : Stage T σ) : Prop where
  eof : st.session.eof
  dead : ¬ st.session.reader.isAlive
  conserved : text = l.flatMap Match.output ++ st.before

namespace Over

variable {S : Setting σ M} {text : List Char} {l : List (Match T)}

theorem ongoing (now : T) : Ongoing S now (Over (σ := σ) text l) where
  aside h ha := by
    obtain ⟨closed, channel, waiter, hs⟩ := ha.session
    constructor
    · rw [hs]
      exact h.eof
    · rw [hs]
      exact h.dead
    · rw [Stage.before, hs]
      exact h.conserved
  pause _ h halive _ := absurd halive h.dead
  take _ h halive _ _ _ := absurd halive h.dead
  stop _ h halive _ _ := absurd halive h.dead
  fail _ h halive _ _ := absurd halive h.dead

theorem steady [Moment T] : Steady S fun (_ : T) l => Over (σ := σ) text l where
  ongoing now _ := ongoing now
  pass _ h := h
  calm h := ⟨h.eof, h.dead, h.conserved⟩
  consume {_ l st} f elapsed h := by
    refine ⟨h.eof, h.dead, ?_⟩
    rw [h.conserved, st.before_consume f elapsed, List.flatMap_append, List.append_assoc]
    simp

theorem of_eof {st : Stage T σ} (heof : st.session.eof) (hopen : st.OpenAlive) : Over st.before [] st := by
  refine ⟨heof, ?_, rfl⟩
  intro halive
  rw [hopen halive] at heof
  cases heof

end Over

/-! ## Publication -/

theorem Stage.perform_eof (cue : SessionCue) (st : Stage T σ) : (st.perform cue).2.session.eof = st.session.eof := by
  obtain ⟨closed, channel, hs⟩ := st.perform_session cue
  rw [hs]

theorem Stage.runWaiter_eof (st : Stage T σ) : st.runWaiter.session.eof = st.session.eof := by
  obtain ⟨channel, waiter, hs⟩ := st.runWaiter_session
  rw [hs]

variable [Moment T] {S : Setting σ M} {t₀ t : T} {st₀ st : Stage T σ} {l : List (Match T)}

/-- The output has ended by a step of the reader, and the rest was done since. -/
def Reached.Published (S : Setting σ M) (t₀ : T) (st₀ : Stage T σ) (t : T) (l : List (Match T)) (st : Stage T σ) : Prop :=
  ∃ t₁ l₁ st₁ l₂, Reached S t₀ st₀ t₁ l₁ st₁ ∧ st₁.session.reader.isAlive ∧ st₁.session.eof = false ∧
    (st₁.readOnce t₁).session.eof ∧ Reached S t₁ (st₁.readOnce t₁) t l₂ st ∧ l = l₁ ++ l₂

theorem Reached.Published.onward (h : Published S t₀ st₀ t l st) {t' : T} {st' : Stage T σ}
    (hstep : ∀ {t₁ st₁ l₂}, Reached S t₁ st₁ t l₂ st → Reached S t₁ st₁ t' l₂ st') : Published S t₀ st₀ t' l st' := by
  obtain ⟨t₁, l₁, st₁, l₂, hbefore, halive, hopen, hread, hafter, hl⟩ := h
  exact ⟨t₁, l₁, st₁, l₂, hbefore, halive, hopen, hread, hstep hafter, hl⟩

/-- An output that has ended was ended by a step of the reader: no other step ends it. -/
theorem Reached.published (h₀ : Linked S Stage.OpenAlive st₀) (hopen : st₀.session.eof = false)
    (h : Reached S t₀ st₀ t l st) (heof : st.session.eof) : Published S t₀ st₀ t l st := by
  induction h with
  | start =>
    rw [hopen] at heof
    cases heof
  | pass due _ ih => exact (ih heof).onward (.pass due)
  | @read t l st halive hst _ =>
    have hnot := (Stage.OpenAlive.steady.reached h₀ hst).2 halive
    exact ⟨t, l, st, [], hst, halive, hnot, heof, .start, (List.append_nil l).symm⟩
  | watch _ ih =>
    rw [Stage.runWaiter_eof] at heof
    exact (ih heof).onward .watch
  | perform cue _ ih =>
    rw [Stage.perform_eof] at heof
    exact (ih heof).onward (.perform cue)
  | outside hm _ ih => exact (ih heof).onward (.outside hm)
  | calm _ ih => exact (ih heof).onward .calm
  | consume f elapsed _ ih =>
    obtain ⟨t₁, l₁, st₁, l₂, hbefore, halive, hopen, hread, hafter, rfl⟩ := ih heof
    exact ⟨t₁, l₁, st₁, _, hbefore, halive, hopen, hread, .consume f elapsed hafter, List.append_assoc ..⟩

/-- Once the output has ended, all that can be reached has the text that was left. -/
theorem Reached.over {t₁ : T} {st₁ : Stage T σ} (h₁ : Linked S Stage.OpenAlive st₁) (heof : st₁.session.eof)
    (h : Reached S t₁ st₁ t l st) : Over st₁.before l st :=
  (Over.steady.reached ⟨h₁.1, .of_eof heof h₁.2⟩ h).2

/-! ## Calls -/

/-- Nothing matches and nothing more will come: a call says so at once, and leaves everything as it is. -/
theorem Stage.expectAny_of_unmatched {life : Life T (Stage T σ) M} {targets : List Target} {patterns : List Pattern}
    {s : Scene T (Stage T σ) M} (htargets : Target.compileAll s.world.session.conduct.engine targets = .ok patterns)
    (limit : Option (Span T)) (heof : s.world.session.eof) (hnone : ∀ p ∈ patterns, p.search s.world.session.buffer = none) :
    Stage.expectAny life targets limit s =
      (.error (.expectEnd (some (patterns.map fun p => Value.text p.source))), s) := by
  have hjudge (deadline : T) : s.world.judge patterns deadline s.now = .atEnd := by
    rw [Stage.judge_of_eof heof, Finding.search_eq_none_iff.2 hnone]
  simp only [expectAny, htargets, patience]
  rw [show 4 * (s.agenda.length + 2) = 4 * s.agenda.length + 7 + 1 from rfl, expectUntil_succ, hjudge]

/-- **The end of the output is final.** In every stage that can be reached in which the output has ended, a step of
the reader has ended it; the matches that were made since and what is left make up the text that was left then. From
there on that stays so, whatever is done: the output has ended, and what is left is taken from by matches only. Every
call for patterns ends with its first look, whatever its limit: with a match if some pattern matches what is left, and
else with word that the output has ended, at the same time and with everything as it was, so that the same call says
the same again. What runs come to can be reached. -/
theorem end_is_final (S : Setting σ M) (c : Conduct T) (timeout : Span T) (now : T) (agenda : List (Appointment T M))
    (d : Desk σ) :
    let start := S.opened c timeout now agenda d
    (∀ t l st, Reached S now start.world t l st → st.session.eof →
      (∃ t₁ l₁ st₁ l₂, Reached S now start.world t₁ l₁ st₁ ∧ st₁.session.eof = false ∧
        (st₁.readOnce t₁).session.eof ∧ Reached S t₁ (st₁.readOnce t₁) t l₂ st ∧ l = l₁ ++ l₂ ∧
        (st₁.readOnce t₁).before = l₂.flatMap Match.output ++ st.before) ∧
      (∀ t' l' st', Reached S t st t' l' st' →
        st'.session.eof ∧ st.before = l'.flatMap Match.output ++ st'.before) ∧
      ∀ targets patterns limit agenda faults, Target.compileAll c.engine targets = .ok patterns →
        let s : Scene T (Stage T σ) M := ⟨t, agenda, faults, st⟩
        let call := Stage.expectAny S.life targets limit
        ((∃ p ∈ patterns, p.search st.session.buffer ≠ none) →
          ∃ taken world f, call s = (.ok taken, { s with world }) ∧ Stage.Took patterns st taken world f) ∧
        ((∀ p ∈ patterns, p.search st.session.buffer = none) →
          call s = (.error (.expectEnd (some (patterns.map fun p => Value.text p.source))), s) ∧
            call (call s).2 = call s)) ∧
    ∀ deeds, Reached S now start.world (Deed.run S.life deeds start).2.now (Deed.allTaken S.life deeds start)
      (Deed.run S.life deeds start).2.world := by
  intro start
  refine ⟨?_, fun deeds => Reached.run deeds start⟩
  intro t l st hst heof
  have hbegun : Linked S Stage.OpenAlive start.world :=
    ⟨S.opened_link c timeout now agenda d, Stage.OpenAlive.opened c timeout now agenda d⟩
  have hlater {t : T} {l : List (Match T)} {st : Stage T σ} (h : Reached S now start.world t l st) :
      Linked S Stage.OpenAlive st := Stage.OpenAlive.steady.reached hbegun h
  have hopen : start.world.session.eof = false := by
    obtain ⟨starts, reader, waiter, heq, -⟩ := S.opened_world c timeout now agenda d
    rw [show start.world = _ from heq]
    rfl
  refine ⟨?_, ?_, ?_⟩
  · obtain ⟨t₁, l₁, st₁, l₂, hbefore, halive, hnot, hread, hafter, hl⟩ := hst.published hbegun hopen heof
    have hpublished := hlater (.read halive hbefore)
    exact ⟨t₁, l₁, st₁, l₂, hbefore, hnot, hread, hafter, hl, (hafter.over hpublished hread).conserved⟩
  · intro t' l' st' hst'
    have hover := hst'.over (hlater hst) heof
    exact ⟨hover.eof, hover.conserved⟩
  · intro targets patterns limit agenda faults htargets s call
    have hconduct : st.session.conduct = c :=
      ((Steady.conduct S c).reached ⟨hbegun.1, S.opened_conduct ..⟩ hst).2
    rw [← hconduct] at htargets
    refine ⟨?_, ?_⟩
    · intro hmatch
      have hsettled : st.settled t := by simp [Stage.settled, heof]
      exact Stage.expectAny_of_settled htargets limit hsettled hmatch
    · intro hnone
      have hcall : call s = _ := Stage.expectAny_of_unmatched htargets limit heof hnone
      refine ⟨hcall, ?_⟩
      rw [hcall]
      exact hcall

namespace Rehearsal

/-- Two letters that were left at the end: with no time at all one is found, and a third is not. -/
theorem letters_left :
    let s := (Deed.run (Company.setting false none).life (fed [0x78, 0x79])
      ((Company.setting false none).opened (reading .utf8) ⟨5, .none⟩ 0 [] { process := {} })).2
    let call (source : String) := Stage.expectAny (Company.setting false none).life [.source source] (some ⟨-1, .none⟩)
    s.world.session.eof = true ∧ s.world.before = ['x', 'y'] ∧
      (∃ taken world f, call "y" s = (.ok taken, { s with world }) ∧ Stage.Took (compiled "y") s.world taken world f) ∧
      call "z" s = (.error (.expectEnd (some [.text "z"])), s) ∧ call "z" (call "z" s).2 = call "z" s := by
  intro s call
  have heof : s.world.session.eof = true := by decide +kernel
  have hbuffer : s.world.session.buffer = #['x', 'y'] := by decide +kernel
  obtain ⟨hended, hrun⟩ := end_is_final (Company.setting false none) (reading .utf8) ⟨5, .none⟩ 0 [] { process := {} }
  obtain ⟨-, -, hcalls⟩ := hended _ _ _ (hrun (fed [0x78, 0x79])) heof
  obtain ⟨hfound, -⟩ := hcalls [.source "y"] (compiled "y") (some ⟨-1, .none⟩) s.agenda s.faults rfl
  obtain ⟨-, hmissed⟩ := hcalls [.source "z"] (compiled "z") (some ⟨-1, .none⟩) s.agenda s.faults rfl
  have hmatch : (compiled "y").any (fun p => (p.search #['x', 'y']).isSome) = true := by decide +kernel
  have hnone : (compiled "z").all (fun p => (p.search #['x', 'y']).isNone) = true := by decide +kernel
  refine ⟨heof, congrArg Array.toList hbuffer, hfound ?_, hmissed ?_⟩
  · obtain ⟨p, hp, hsome⟩ := List.any_eq_true.1 hmatch
    refine ⟨p, hp, ?_⟩
    rw [hbuffer]
    exact Option.isSome_iff_ne_none.1 hsome
  · intro p hp
    rw [hbuffer]
    exact Option.isNone_iff_eq_none.1 (List.all_eq_true.1 hnone p hp)

end Rehearsal

end Dialogue
