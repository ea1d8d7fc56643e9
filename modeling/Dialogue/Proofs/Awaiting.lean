import Dialogue.Proofs.Following
/-!
# Waiting for an exit on the main line

A process without a waiter can be awaited on the main line. Such a wait ends as its last poll says, unless nothing is
left that could end it (`Stage.await_ended`), it is the only one (`Stage.await_once`), and it is the same whether the
process is followed or not (`Setting.following_await`).
-/

namespace Dialogue

variable {T σ M : Type}

/-! ## A session that nobody waits for -/

/-- What holds of a world stays true whatever the caller has done to it. -/
structure Link.CallerKeeps (l : Link σ) (Q : σ → Prop) : Prop where
  write : ∀ bytes {w}, Q w → Q (l.write bytes w).2
  flush : ∀ {w}, Q w → Q (l.flush w).2
  hangUp : ∀ {w}, Q w → Q (l.hangUp w).2

theorem Stage.perform_keeps {Q : σ → Prop} {st : Stage T σ} (hl : st.session.link.CallerKeeps Q) (h : Q st.process)
    (cue : SessionCue) :
    (st.perform cue).2.session.waiter = st.session.waiter ∧ Q (st.perform cue).2.process :=
  match cue with
  | .send data => by
    rcases st.send_cases data with heq | ⟨noted, bytes, hnoted, hsent⟩
    · simp only [perform, heq]
      exact ⟨trivial, h⟩
    · obtain ⟨hprocess, hsession⟩ : noted.process = st.process ∧ noted.session = st.session := by
        rcases hnoted with rfl | rfl <;> exact ⟨rfl, rfl⟩
      have hwritten : Q (st.session.link.write bytes noted.process).2 := hl.write bytes (hprocess ▸ h)
      have hwaiter := congrArg Session.waiter hsession
      rcases hsent with heq | heq <;> simp only [perform, heq]
      · exact ⟨hwaiter, hwritten⟩
      · exact ⟨hwaiter, hl.flush hwritten⟩
  | .close => by
    simp only [perform, Stage.close]
    split
    · exact ⟨rfl, h⟩
    · exact ⟨rfl, hl.hangUp h⟩
  | .subscribe _ => ⟨rfl, h⟩

/-- Without a waiter, the exit of the process is nobody's business: what the others do not break is kept. -/
theorem Kept.unawaited [Moment T] (S : Setting σ M) {Q : σ → Prop} (hreader : S.link.ReaderKeeps Q)
    (hcaller : S.link.CallerKeeps Q) (hmoves : ∀ m f, S.moves m = .outside f → ∀ w, Q w → Q (f w).2.2) :
    Kept S fun (_ : T) _ => Linked S fun st => st.session.waiter = .idle ∧ Q st.process where
  pass _ h := h
  settle {t l st} := by
    rintro ⟨hl, hidle, hq⟩
    have hwaiter : (st.runReader t).session.waiter = .idle :=
      (congrArg (·.2.2.2.2) (Stage.runReader_standing t st)).trans hidle
    refine ⟨(Stage.settle_session t st).1.trans hl, ?_, ?_⟩ <;> rw [Stage.settle, Stage.runWaiter_idle hwaiter]
    · exact hwaiter
    · exact Stage.runReader_keeps (hl ▸ hreader) hq t
  perform {t l st} cue := by
    rintro ⟨hl, hidle, hq⟩
    obtain ⟨hwaiter, hq'⟩ := Stage.perform_keeps (hl ▸ hcaller) hq cue
    exact ⟨((Ongoing.always S t).perform cue ⟨hl, trivial⟩).1, hwaiter.trans hidle, hq'⟩
  outside hm := by
    rintro ⟨hl, hidle, hq⟩
    exact ⟨hl, hidle, hmoves _ _ hm _ hq⟩
  calm h := h
  consume _ _ h := h

/-- What was asked for is that a wait begins. -/
def Asked.beginsWait (a : Asked) : Bool :=
  match a.errand with
  | .beginWait => true
  | _ => false

/-- Without a waiter, nothing is asked of a process but what its reader and its caller ask of it, and no wait. -/
theorem Kept.waitless [Moment T] (whose : Whose) (S : Setting σ M) {Q : List Asked → Prop}
    (hQ : ∀ {asked} (a : Asked), a.beginsWait = false → Q asked → Q (asked ++ [a])) :
    Kept (S.followed whose) fun (_ : T) _ => Linked (S.followed whose) fun st =>
      st.session.waiter = .idle ∧ Q st.process.asked := by
  refine Kept.unawaited (Q := fun w => Q w.asked) (S.followed whose) ⟨fun n {_} h => ?_, fun {_} h => ?_⟩
    ⟨fun bytes {_} h => ?_, fun {_} h => ?_, fun {w} h => ?_⟩ fun m f hm w h => ?_
  · exact hQ ⟨whose, .read n, _⟩ rfl h
  · exact hQ ⟨whose, .close .output, _⟩ rfl h
  · exact hQ ⟨whose, .write bytes, _⟩ rfl h
  · exact hQ ⟨whose, .flush, _⟩ rfl h
  · simp only [Setting.followed, Link.followed, Link.hangUp]
    cases S.link.hook with
    | none => exact hQ ⟨whose, .close .input, _⟩ rfl h
    | some hook => exact hQ ⟨whose, .hook, _⟩ rfl h
  · have hm : (S.moves m).followed = .outside f := hm
    cases hmove : S.moves m with
    | session cue => simp [hmove, Move.followed] at hm
    | outside g =>
      rw [hmove, Move.followed, Move.outside.injEq] at hm
      subst hm
      exact h

/-! ## Waiting on the main line -/

/-- Whoever rests without a deadline is woken, or nothing is left that could happen. -/
theorem Scene.restWith_forever {W : Type} [Moment T] (life : Life T W M) (woken : W → Bool)
    (agenda : List (Appointment T M)) (s : Scene T W M) :
    woken (s.restWith life woken none agenda).2.world ∨
      ¬ woken (s.restWith life woken none agenda).2.world ∧ (s.restWith life woken none agenda).2.agenda = [] := by
  induction agenda generalizing s with
  | nil =>
    rw [restWith_nil]
    split
    · next hwoken => exact .inl hwoken
    · next hwoken => exact .inr ⟨hwoken, rfl⟩
  | cons a agenda ih =>
    rw [restWith_cons]
    split
    · next hwoken => exact .inl hwoken
    · simp only [Option.all_none, if_true]
      exact ih _

/-- How a wait for a process ended: as its last poll said, or not at all, if that said nothing and nothing was left
that could happen. -/
inductive Wait.Ended (wait : Wait σ) (process : σ) (agenda : List (Appointment T M)) : Except Failure Unit → Prop
  | polled {outcome : Except Failure Unit} (w : σ) (hw : process = (wait.poll w).2.2)
    (h : (wait.poll w).1 = some outcome) : Ended wait process agenda outcome
  | never (w : σ) (hw : process = (wait.poll w).2.2) (h : (wait.poll w).1 = none) (hagenda : agenda = []) :
    Ended wait process agenda (.error .blocked)

theorem Wait.Ended.of_followed {whose : Whose} {wait : Wait σ} {w : Followed σ} {agenda : List (Appointment T M)}
    {outcome : Except Failure Unit} (h : (wait.followed whose).Ended w agenda outcome) :
    wait.Ended w.process agenda outcome := by
  cases h with
  | polled w hw h => exact .polled w.process (congrArg Followed.process hw) h
  | never w hw h hagenda => exact .never w.process (congrArg Followed.process hw) h hagenda

namespace Stage

/-- The exit is asked for once. -/
def poll (wait : Wait σ) (s : Scene T (Stage T σ) M) : Scene T (Stage T σ) M :=
  { s with world := (s.world.actNoting wait.poll).2 }

/-- The wait for the exit begins. -/
def beginWait (wait : Wait σ) (s : Scene T (Stage T σ) M) : Scene T (Stage T σ) M :=
  { s with world := { s.world with process := wait.begin s.world.process } }

variable [Moment T]

/-- To wait for the exit is to ask for it, and to ask again when there is an answer, or when none can come. -/
theorem await_cases (life : Life T (Stage T σ) M) (wait : Wait σ) (s : Scene T (Stage T σ) M) :
    (∃ outcome, (wait.poll (beginWait wait s).world.process).1 = some outcome ∧
      await life wait s = (outcome, poll wait (beginWait wait s))) ∨
    (wait.poll (beginWait wait s).world.process).1 = none ∧ ∃ rested,
      rested = ((poll wait (beginWait wait s)).rest life (fun st => (wait.poll st.process).1.isSome) none).2 ∧
        await life wait s = ((wait.poll rested.world.process).1.getD (.error .blocked), poll wait rested) := by
  cases hfirst : (wait.poll (beginWait wait s).world.process).1 with
  | some outcome =>
    have hfirst : (wait.poll (wait.begin s.world.process)).1 = some outcome := hfirst
    refine .inl ⟨outcome, rfl, ?_⟩
    simp only [await, actNoting, Desk.actNoting, hfirst]
    rfl
  | none =>
    have hfirst : (wait.poll (wait.begin s.world.process)).1 = none := hfirst
    refine .inr ⟨rfl, _, rfl, ?_⟩
    simp only [await, actNoting, Desk.actNoting, hfirst]
    split <;>
    · next heq =>
      obtain ⟨hlast, rfl⟩ := Prod.mk.inj heq
      have hlast : (wait.poll ((poll wait (beginWait wait s)).rest life _ none).2.world.process).1 = _ := hlast
      rw [hlast]
      rfl

/-- Waiting ends as the last poll says, or there is nothing left that could end it. -/
theorem await_ended (life : Life T (Stage T σ) M) (wait : Wait σ) (s : Scene T (Stage T σ) M) :
    wait.Ended (await life wait s).2.world.process (await life wait s).2.agenda (await life wait s).1 := by
  obtain ⟨outcome, hsome, heq⟩ | ⟨-, rested, hrested, heq⟩ := await_cases life wait s
  · rw [heq]
    exact .polled _ rfl hsome
  · rw [heq]
    have hforever := Scene.restWith_forever life (fun st => (wait.poll st.process).1.isSome)
      (poll wait (beginWait wait s)).agenda (poll wait (beginWait wait s))
    rw [← Scene.rest, ← hrested] at hforever
    rcases hforever with hwoken | ⟨hasleep, hagenda⟩
    · obtain ⟨outcome, hsome⟩ := Option.isSome_iff_exists.1 hwoken
      rw [hsome]
      exact .polled _ rfl hsome
    · rw [Option.not_isSome_iff_eq_none.1 hasleep]
      exact .never _ rfl (Option.not_isSome_iff_eq_none.1 hasleep) hagenda

end Stage

/-- What nothing breaks, a wait on the main line does not. -/
theorem Kept.await [Moment T] {S : Setting σ M} {P : T → List (Match T) → Stage T σ → Prop} {l : List (Match T)}
    (hk : Kept S P) {wait : Wait σ} (hpoll : ∀ {t st}, P t l st → P t l (st.actNoting wait.poll).2)
    {s : Scene T (Stage T σ) M} (h : P s.now l (Stage.beginWait wait s).world) :
    P (Stage.await S.life wait s).2.now l (Stage.await S.life wait s).2.world := by
  obtain ⟨outcome, -, heq⟩ | ⟨-, rested, hrested, heq⟩ := Stage.await_cases S.life wait s
  · rw [heq]
    exact hpoll h
  · rw [heq]
    have hrest := hk.rest (fun st => (wait.poll st.process).1.isSome) none (Stage.poll wait (Stage.beginWait wait s))
      (hpoll h)
    rw [← hrested] at hrest
    exact hpoll hrest

/-- After so much had been asked, a wait was begun, and it is the only one up to now. -/
structure Asked.WaitsOnce (whose : Whose) (asked now : List Asked) : Prop where
  begun : asked ++ [⟨whose, .beginWait, .ok ()⟩] <+: now
  waits : now.filter beginsWait = asked.filter beginsWait ++ [⟨whose, .beginWait, .ok ()⟩]

theorem Asked.WaitsOnce.append {whose : Whose} {asked now : List Asked} (h : WaitsOnce whose asked now) {a : Asked}
    (hquiet : a.beginsWait = false) : WaitsOnce whose asked (now ++ [a]) :=
  ⟨h.begun.trans (List.prefix_append _ _), by simp [hquiet, h.waits]⟩

theorem Kept.waitsOnce [Moment T] (whose : Whose) (S : Setting σ M) (asked : List Asked) :
    Kept (S.followed whose) fun (_ : T) _ => Linked (S.followed whose) fun st =>
      st.session.waiter = .idle ∧ Asked.WaitsOnce whose asked st.process.asked :=
  .waitless (Q := Asked.WaitsOnce whose asked) whose S fun _ hquiet h => h.append hquiet

/-- Whoever awaits a process without a waiter begins the only wait for it. -/
theorem Stage.await_once [Moment T] (whose : Whose) (S : Setting σ M) (wait : Wait σ)
    {s : Scene T (Stage T (Followed σ)) M} (hlink : s.world.session.link = S.link.followed whose)
    (hidle : s.world.session.waiter = .idle) :
    let last := (Stage.await (S.followed whose).life (wait.followed whose) s).2.world
    last.session.link = S.link.followed whose ∧ last.session.waiter = .idle ∧
      Asked.WaitsOnce whose s.world.process.asked last.process.asked := by
  refine (Kept.waitsOnce whose S s.world.process.asked).await (l := []) ?_ ⟨hlink, hidle, List.prefix_rfl, ?_⟩
  · rintro t st ⟨hl, hwaiter, honce⟩
    exact ⟨hl, hwaiter, honce.append rfl⟩
  · have hbegun : (Stage.beginWait (wait.followed whose) s).world.process.asked =
        s.world.process.asked ++ [⟨whose, .beginWait, .ok ()⟩] := rfl
    rw [hbegun, List.filter_append]
    rfl

/-- Whether a process is followed is not seen by who waits for it. -/
theorem Setting.following_await [Moment T] (whose : Whose) (S : Setting σ M) (wait : Wait σ)
    {s : Scene T (Stage T (Followed σ)) M} {s' : Scene T (Stage T σ) M}
    (h : Paired (Stage.Unfollowed whose S.link) s s') :
    Agree (Stage.Unfollowed whose S.link) (Stage.await (S.followed whose).life (wait.followed whose) s)
      (Stage.await S.life wait s') := by
  have hpoll {s : Scene T (Stage T (Followed σ)) M} {s' : Scene T (Stage T σ) M}
      (h : Paired (Stage.Unfollowed whose S.link) s s') :
      (wait.poll s'.world.process).1 = ((wait.followed whose).poll s.world.process).1 ∧
        Paired (Stage.Unfollowed whose S.link) (Stage.poll (wait.followed whose) s) (Stage.poll wait s') := by
    obtain ⟨hlink, hplain⟩ := h.world
    refine ⟨by rw [hplain]; rfl, h.now, h.agenda, h.faults, hlink, ?_⟩
    simp only [Stage.poll, hplain]
    rfl
  have hbegun : Paired (Stage.Unfollowed whose S.link) (Stage.beginWait (wait.followed whose) s)
      (Stage.beginWait wait s') := by
    obtain ⟨hlink, hplain⟩ := h.world
    refine ⟨h.now, h.agenda, h.faults, hlink, ?_⟩
    simp only [Stage.beginWait, hplain]
    rfl
  obtain ⟨hsame, hpolled⟩ := hpoll hbegun
  obtain ⟨outcome, hsome, heq⟩ | ⟨hnone, rested, hrested, heq⟩ :=
    Stage.await_cases (S.followed whose).life (wait.followed whose) s
  -- The first poll answers alike, so that both wait on or neither does.
  all_goals obtain ⟨outcome', hsome', heq'⟩ | ⟨hnone', rested', hrested', heq'⟩ := Stage.await_cases S.life wait s'
  · rw [heq, heq']
    exact ⟨Option.some.inj (hsome'.symm.trans (hsame.trans hsome)), hpolled⟩
  · cases hnone'.symm.trans (hsame.trans hsome)
  · cases hsome'.symm.trans (hsame.trans hnone)
  · have hpair : Paired (Stage.Unfollowed whose S.link) rested rested' := by
      rw [hrested, hrested']
      refine (S.following whose).rest (fun {st st'} h => ?_) none hpolled trivial
      rw [h.2]
      rfl
    obtain ⟨hlast, hends⟩ := hpoll hpair
    rw [heq, heq', hlast]
    exact ⟨rfl, hends⟩

end Dialogue
