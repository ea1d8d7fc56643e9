import Dialogue.Proofs.Exact
import Dialogue.Proofs.Steps
/-!
# Waiting

What happens while a call waits does not depend on the call. `Instant.course` is what comes of an
agenda: one instant for each appointment, after which everything that follows from it is done. A wait
ends at the first instant with which something comes in, or at its deadline (`Restful.lull_eq`).
-/

namespace Dialogue

variable {T σ M : Type}

/-! ## Moves -/

/-- The world after moves, up to the first that fails. -/
def Life.moved {W : Type} (life : Life T W M) (now : T) : List M → W → W
  | [], w => w
  | m :: ms, w =>
    match life.act now m w with
    | (.ok _, w) => life.moved now ms w
    | (.error _, w) => w

theorem Scene.make_eq {W : Type} (life : Life T W M) (ms : List M) (s : Scene T W M) :
    (s.make life ms).now = s.now ∧ (s.make life ms).agenda = s.agenda ∧
      (s.make life ms).world = life.moved s.now ms s.world := by
  induction ms generalizing s with
  | nil => exact ⟨rfl, rfl, rfl⟩
  | cons m ms ih =>
    simp only [make, Life.moved]
    rcases life.act s.now m s.world with ⟨_ | _, w⟩
    · exact ⟨rfl, rfl, rfl⟩
    · exact ih { s with world := w }

/-! ## At rest -/

/-- Nothing goes on by itself: there is nothing to read, and the wait for the exit has no answer. -/
structure Stage.AtRest (st : Stage T σ) : Prop where
  reader : st.session.reader.isAlive → st.session.reader = .waiting ∧ st.readChunk = (.blocked, st)
  waiter : ∀ wait ∈ st.session.link.wait, st.session.waiter ≠ .ready ∧
    (st.session.waiter = .waiting → st.actNoting wait.poll = (none, st))

namespace Stage.AtRest

variable {st : Stage T σ}

theorem runReader (h : st.AtRest) (now : T) : st.runReader now = st := by
  unfold Stage.runReader
  split
  · next halive =>
    obtain ⟨hreader, hchunk⟩ := h.reader halive
    rw [readOn_succ, readOnce, hchunk]
    show { st with session := { st.session with reader := .waiting } } = st
    rw [← hreader]
  · rfl

theorem runWaiter (h : st.AtRest) : st.runWaiter = st := by
  unfold Stage.runWaiter
  split
  · next wait hw hready => exact absurd hready (h.waiter wait hw).1
  · next wait hw hwaiting =>
    rw [pollExit, (h.waiter wait hw).2 hwaiting]
    show { st with session := { st.session with waiter := .waiting } } = st
    rw [← hwaiting]
  · rfl

theorem settle (h : st.AtRest) (now : T) : st.settle now = st := by
  rw [Stage.settle, h.runReader, h.runWaiter]

theorem calm (h : st.AtRest) : st.calm.AtRest where
  reader halive := by
    obtain ⟨hreader, hchunk⟩ := h.reader halive
    have hfst : st.readChunk.1 = .blocked := by rw [hchunk]
    refine ⟨hreader, Prod.ext hfst ?_⟩
    have hprocess : st.readChunk.2.process = st.process := by rw [hchunk]
    exact congrArg (fun process => ({ st.calm with process } : Stage T σ)) hprocess
  waiter wait hw := by
    refine ⟨(h.waiter wait hw).1, fun hwaiting => ?_⟩
    have hpoll := (h.waiter wait hw).2 hwaiting
    have hfst : (st.actNoting wait.poll).1 = none := by rw [hpoll]
    refine Prod.ext hfst ?_
    have hdesk : (st.actNoting wait.poll).2.toDesk = st.toDesk := by rw [hpoll]
    exact congrArg (fun toDesk => ({ st.calm with toDesk } : Stage T σ)) hdesk

end Stage.AtRest

/-- What goes on comes to rest: `G` says of which stages that is known. -/
structure Restful (S : Setting σ M) (G : Stage T σ → Prop) : Prop where
  ongoing : ∀ now, Ongoing S now G
  calm : ∀ {st}, G st → G st.calm
  atRest : ∀ {st} (now : T), Linked S G st → (st.settle now).AtRest

/-! ## Nothing comes in -/

/-- What a call looks at is as it was. -/
structure Stage.SameText (st₀ st : Stage T σ) : Prop where
  buffer : st.session.buffer = st₀.session.buffer
  eof : st.session.eof = st₀.session.eof
  lastRead : st.session.lastRead = st₀.session.lastRead
  conduct : st.session.conduct = st₀.session.conduct

theorem Stage.SameText.trans {st₀ st₁ st₂ : Stage T σ} (h : st₀.SameText st₁) (h' : st₁.SameText st₂) :
    st₀.SameText st₂ :=
  ⟨h'.buffer.trans h.buffer, h'.eof.trans h.eof, h'.lastRead.trans h.lastRead, h'.conduct.trans h.conduct⟩

/-- Nothing changes for a call unless something has come in. -/
def Stage.Untouched (st₀ st : Stage T σ) : Prop := st.session.stirred = false → st₀.SameText st

theorem Stage.Untouched.ongoing {S : Setting σ M} {st₀ : Stage T σ} (now : T) :
    Ongoing S now st₀.Untouched where
  aside h ha := by
    obtain ⟨closed, channel, waiter, hs⟩ := ha.session
    intro hstirred
    rw [hs] at hstirred
    exact ⟨by rw [hs]; exact (h hstirred).buffer, by rw [hs]; exact (h hstirred).eof,
      by rw [hs]; exact (h hstirred).lastRead, by rw [hs]; exact (h hstirred).conduct⟩
  pause _ h _ _ hstirred := ⟨(h hstirred).buffer, (h hstirred).eof, (h hstirred).lastRead, (h hstirred).conduct⟩
  take _ _ _ _ _ _ := by
    rw [takeIn_eq]
    exact fun hstirred => nomatch hstirred
  stop _ _ _ _ _ := fun hstirred => nomatch hstirred
  fail _ h _ _ _ hstirred := ⟨(h hstirred).buffer, (h hstirred).eof, (h hstirred).lastRead, (h hstirred).conduct⟩

theorem Ongoing.moved {S : Setting σ M} {P : Stage T σ → Prop} {now : T} (ho : Ongoing S now P) (ms : List M)
    {st : Stage T σ} (h : Linked S P st) : Linked S P (S.life.moved now ms st) := by
  induction ms generalizing st with
  | nil => exact h
  | cons m ms ih =>
    have hm : Linked S P ((S.moves m).make st).2 := by
      cases hx : S.moves m with
      | session cue => exact ho.perform cue h
      | outside f => exact ho.outside hx h
    simp only [Life.moved, Setting.life, Stage.lifeWith]
    split
    · next heq => exact ih (by rwa [heq] at hm)
    · next heq => rwa [heq] at hm

theorem Stage.AtRest.settledWith {S : Setting σ M} {s : Scene T (Stage T σ) M} (h : s.world.AtRest)
    (agenda : List (Appointment T M)) : s.settledWith S.life agenda = { s with agenda } :=
  congrArg (fun world => ({ s with agenda, world } : Scene T (Stage T σ) M)) (h.settle s.now)

theorem Stage.calm_eq {st : Stage T σ} (h : st.session.stirred = false) : st.calm = st := by
  show { st with session := { st.session with stirred := false } } = st
  rw [← h]

/-! ## Instants -/

/-- A stage at a moment. -/
structure Instant (T σ : Type) where
  now : T
  world : Stage T σ

/-- How a wait from `s` ends in `r`: `some` tells with what, and what is left to happen. -/
def Instant.Ends (deadline : T) (s r : Scene T (Stage T σ) M) :
    Option (List (Appointment T M) × Instant T σ) → Prop
  | some (agenda, j) => r.now = j.now ∧ r.agenda = agenda ∧ r.world = j.world
  | none => r.now = deadline ∧ s.world.SameText r.world

theorem Instant.Ends.of_same {deadline : T} {s s' r : Scene T (Stage T σ) M} {found}
    (he : Instant.Ends deadline s' r found) (hsame : s.world.SameText s'.world) :
    Instant.Ends deadline s r found := by
  cases found with
  | some found => exact he
  | none => exact ⟨he.1, hsame.trans he.2⟩

variable [Moment T]

namespace Instant

/-- An appointment is kept, and everything that follows from it is done. -/
def after (life : Life T (Stage T σ) M) (a : Appointment T M) (i : Instant T σ) : Instant T σ :=
  let now := Moment.later i.now a.due
  { now, world := life.settle now (life.moved now a.moves i.world.calm) }

/-- Nothing is arranged: only what can be done at once is done. -/
theorem after_nothing [Moment.Exact T] (life : Life T (Stage T σ) M) (i : Instant T σ) :
    i.after life ⟨i.now, []⟩ = ⟨i.now, life.settle i.now i.world.calm⟩ := by
  simp only [after, Life.moved, Moment.Exact.later_eq_left (Moment.Exact.le_refl i.now)]

/-- What comes of an agenda, one instant for each appointment. -/
def course (life : Life T (Stage T σ) M) : List (Appointment T M) → Instant T σ → List (Instant T σ)
  | [], _ => []
  | a :: agenda, i => i.after life a :: course life agenda (i.after life a)

/-- The first instant by the deadline with which something comes in, and what is left to happen. -/
def next (life : Life T (Stage T σ) M) (deadline : T) :
    List (Appointment T M) → Instant T σ → Option (List (Appointment T M) × Instant T σ)
  | [], _ => none
  | a :: agenda, i =>
    if a.due ≤ deadline then
      if (i.after life a).world.session.stirred then some (agenda, i.after life a)
      else next life deadline agenda (i.after life a)
    else none

end Instant

namespace Restful

variable {S : Setting σ M} {G : Stage T σ → Prop} {i : Instant T σ} {s : Scene T (Stage T σ) M}

theorem after (hr : Restful S G) (a : Appointment T M) (h : Linked S G i.world) :
    Linked S G (i.after S.life a).world ∧ (i.after S.life a).world.AtRest := by
  have hcalm : Linked S G i.world.calm := ⟨h.1, hr.calm h.2⟩
  have hmoved := (hr.ongoing (Moment.later i.now a.due)).moved a.moves hcalm
  exact ⟨(hr.ongoing _).settle hmoved, hr.atRest _ hmoved⟩

theorem untouched (h : i.world.session.link = S.link) (a : Appointment T M) :
    i.world.Untouched (i.after S.life a).world := by
  have ho : Ongoing S (Moment.later i.now a.due) i.world.Untouched := Stage.Untouched.ongoing _
  have hcalm : Linked S i.world.Untouched i.world.calm := ⟨h, fun _ => ⟨rfl, rfl, rfl, rfl⟩⟩
  have hmoved := ho.moved a.moves hcalm
  exact (ho.settle hmoved).2

theorem keep (hr : Restful S G) (a : Appointment T M) (h : Linked S G s.world) :
    Linked S G (s.keep S.life a).world := by
  rw [Scene.keep, (Scene.make_eq ..).2.2]
  exact (hr.ongoing _).moved a.moves h

theorem settledWith_keep (a : Appointment T M) (agenda : List (Appointment T M))
    (hcalm : s.world.session.stirred = false) :
    (({ s with agenda } : Scene T (Stage T σ) M).keep S.life a).settledWith S.life agenda =
      { now := Moment.later s.now a.due
        agenda
        faults := (({ s with agenda } : Scene T (Stage T σ) M).keep S.life a).faults
        world := (Instant.after S.life a ⟨s.now, s.world⟩).world } := by
  obtain ⟨hnow, -, hworld⟩ := Scene.make_eq S.life a.moves { s with now := Moment.later s.now a.due, agenda }
  simp only [Scene.settledWith, Scene.keep, hnow, hworld, Instant.after, Stage.calm_eq hcalm]

/-- A wait leaves nothing undone. -/
theorem atRest_restWith (hr : Restful S G) (woken : Stage T σ → Bool) (deadline : Option T)
    (agenda : List (Appointment T M)) (h : Linked S G s.world) :
    (s.restWith S.life woken deadline agenda).2.world.AtRest := by
  have hrest := hr.atRest s.now h
  induction agenda generalizing s with
  | nil =>
    rw [Scene.restWith_nil]
    split
    · exact hrest
    · cases deadline <;> exact hrest
  | cons a agenda ih =>
    rw [Scene.restWith_cons]
    split
    · exact hrest
    · split
      · have hkept := hr.keep a (s := s.settledWith S.life agenda) ((hr.ongoing s.now).settle h)
        exact ih hkept (hr.atRest _ hkept)
      · exact hrest

/-- After a run that ends with a rest nothing is left to be done. -/
theorem settle_run (hr : Restful S G) {deeds : List (Deed T M)} (hlast : deeds.getLast? = some .settle)
    (h : ∀ deeds, Linked S G (Deed.run S.life deeds s).2.world) (now : T) :
    (Deed.run S.life deeds s).2.world.settle now = (Deed.run S.life deeds s).2.world := by
  obtain ⟨before, rfl⟩ := List.getLast?_eq_some_iff.1 hlast
  rw [Deed.run_append]
  exact (hr.atRest_restWith _ _ _ (h before)).settle now

/-- What can be done at once is done first. -/
theorem restWith_settled (hr : Restful S G) (woken : Stage T σ → Bool) (deadline : Option T)
    (agenda : List (Appointment T M)) (h : Linked S G s.world) :
    s.restWith S.life woken deadline agenda =
      (s.settledWith S.life agenda).restWith S.life woken deadline agenda := by
  have hsettled (agenda' : List (Appointment T M)) :
      (s.settledWith S.life agenda).settledWith S.life agenda' = s.settledWith S.life agenda' :=
    congrArg (fun world => ({ s with agenda := agenda', world } : Scene T (Stage T σ) M))
      ((hr.atRest s.now h).settle s.now)
  cases agenda with
  | nil => rw [Scene.restWith_nil, Scene.restWith_nil, hsettled]; rfl
  | cons a agenda =>
    rw [Scene.restWith_cons, Scene.restWith_cons, hsettled, hsettled]
    rfl

theorem restWith_ends [Moment.Exact T] (hr : Restful S G) (d : T) (agenda : List (Appointment T M))
    (h : Linked S G s.world) (hrest : s.world.AtRest) (hcalm : s.world.session.stirred = false) (hnow : s.now ≤ d) :
    Instant.Ends d s (s.restWith S.life (·.session.stirred) (some d) agenda).2
      (Instant.next S.life d agenda ⟨s.now, s.world⟩) := by
  induction agenda generalizing s with
  | nil =>
    rw [Scene.restWith_nil, hrest.settledWith, if_neg (by simp [hcalm])]
    exact ⟨Moment.Exact.later_eq_right hnow, rfl, rfl, rfl, rfl⟩
  | cons a agenda ih =>
    rw [Scene.restWith_cons, hrest.settledWith, hrest.settledWith, if_neg (by simp [hcalm])]
    simp only [Instant.next, Option.all_some, decide_eq_true_eq]
    split
    · next hdue =>
      have hkept := settledWith_keep (S := S) a agenda hcalm
      split
      · next hstirred =>
        rw [Scene.restWith_woken (by rw [hkept]; exact hstirred), hkept]
        exact ⟨rfl, rfl, rfl⟩
      · next hstirred =>
        -- The wait goes on as one that begins here, with the text it had.
        have hafter := hr.after (i := ⟨s.now, s.world⟩) a h
        have hunstirred : (Instant.after S.life a ⟨s.now, s.world⟩).world.session.stirred = false := by
          simpa using hstirred
        have hsame := untouched (i := ⟨s.now, s.world⟩) h.1 a hunstirred
        rw [hr.restWith_settled _ _ _ (hr.keep (s := { s with agenda }) a h), hkept]
        generalize (Scene.keep S.life a { s with agenda }).faults = faults
        exact (ih (s := ⟨Moment.later s.now a.due, agenda, faults, _⟩) hafter.1 hafter.2 hunstirred
          (Moment.later_le hnow hdue)).of_same hsame
    · exact ⟨Moment.Exact.later_eq_right hnow, rfl, rfl, rfl, rfl⟩

/-- A wait is over at once if what can be done at once brings something in. -/
theorem lull_ends [Moment.Exact T] (hr : Restful S G) (length : T) (h : Linked S G s.world)
    (hlength : s.now ≤ s.now + length) : Instant.Ends (s.now + length) s (Stage.lull S.life length s)
      (Instant.next S.life (s.now + length) (⟨s.now, []⟩ :: s.agenda) ⟨s.now, s.world⟩) := by
  have hafter := hr.after (i := ⟨s.now, s.world⟩) ⟨s.now, []⟩ h
  have huntouched := untouched (i := ⟨s.now, s.world⟩) h.1 ⟨s.now, []⟩
  have hnothing := Instant.after_nothing S.life ⟨s.now, s.world⟩
  simp only at hnothing
  rw [Stage.lull, Scene.rest]
  simp only [Instant.next, if_pos hlength, hnothing] at hafter huntouched ⊢
  split
  · next hstirred =>
    rw [Scene.restWith_woken hstirred]
    exact ⟨rfl, rfl, rfl⟩
  · next hstirred =>
    have hunstirred : (S.life.settle s.now s.world.calm).session.stirred = false := by simpa using hstirred
    rw [hr.restWith_settled (s := { s with world := s.world.calm }) _ _ _ ⟨h.1, hr.calm h.2⟩]
    exact (hr.restWith_ends (s := { s with world := S.life.settle s.now s.world.calm }) (s.now + length)
      s.agenda hafter.1 hafter.2 hunstirred hlength).of_same (huntouched hunstirred)

end Restful

end Dialogue
