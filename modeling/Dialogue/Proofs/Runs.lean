import Dialogue.Session.Cue
/-!
# Runs of a session

A session meets its caller, its own background work and the surroundings of its process. A `Setting`
says what a session is linked to and what can happen around it. A `Deed` is what the main line does
next, and a run is a list of deeds. What survives every single thing that can happen to a stage
(`Kept`) holds after every run.
-/

namespace Dialogue

/-! ## Settings -/

/-- A record of something that took text out of the buffer: `none` for a match, the number of
characters for text that was dropped. -/
def Record.removal? : Record → Option (Option Nat)
  | matched .. => some none
  | dropped count => some (some count)
  | _ => none

/-- What can happen while a session goes on: something it is told to do, or something its
surroundings do to the process. -/
inductive Move (σ : Type) where
  | session (cue : SessionCue)
  | outside (f : σ → Except Failure Unit × List Record × σ)

def Move.make {T σ : Type} : Move σ → Stage T σ → Except Failure Unit × Stage T σ
  | session cue, st => st.perform cue
  | outside f, st => st.actNoting f

/-- What a session is linked to, and what can happen around it. The surroundings put nothing on
record that only a session can: no match, and no dropped text. -/
structure Setting (σ M : Type) where
  link : Link σ
  moves : M → Move σ
  wait_discreet : ∀ wait ∈ link.wait, ∀ w, (wait.poll w).2.1.filterMap Record.removal? = []
  moves_discreet : ∀ m f, moves m = .outside f → ∀ w, (f w).2.1.filterMap Record.removal? = []

namespace Setting

variable {T σ M : Type} (S : Setting σ M)

def life : Life T (Stage T σ) M := Stage.lifeWith fun m => (S.moves m).make

/-- A session that has begun at a desk; `agenda` is what is arranged to happen. -/
def opened (conduct : Conduct T) (timeout : Span T) (now : T) (agenda : List (Appointment T M))
    (d : Desk σ) : Scene T (Stage T σ) M where
  now
  agenda
  faults := []
  world := (Stage.begin (.ofLink S.link conduct timeout now) d).2

end Setting

/-! ## Deeds -/

/-- What the main line does. Waiting for one pattern is waiting for any of one. -/
inductive Deed (T M : Type) where
  | expectAny (targets : List Target) (limit : Option (Span T))
  | batch (steps : List (Step T))
  | move (m : M)
  | arrange (delay : T) (moves : List M)
  | sleep (length : T)
  | receive (limit : Option (Span T))
  | result (limit : Option (Span T))
  | settle

/-- What a deed gives back. -/
inductive Answer (T : Type) where
  | done (outcome : Except Failure Unit)
  | found (outcome : Except Failure (Match T))
  | results (outcome : Except Failure (List (Match T)))
  | exit (outcome : Except Failure Exit)

/-- What anyone can see of a session, and of the clock. -/
structure View (T : Type) where
  before : List Char
  eof : Bool
  closed : Bool
  exit : Option Exit
  now : T

variable {T σ M : Type} [Moment T]

def Scene.view (s : Scene T (Stage T σ) M) : View T where
  before := s.world.before
  eof := s.world.session.eof
  closed := s.world.session.closed
  exit := s.world.session.channel.exit
  now := s.now

/-- The match of a call, if it made one. -/
def Match.ofOutcome : Except Failure (Match T) → List (Match T)
  | .ok m => [m]
  | .error _ => []

/-- The matches that the steps of a batch make, also when a later step fails. -/
def Stage.made (life : Life T (Stage T σ) M) : List (Step T) → Scene T (Stage T σ) M → List (Match T)
  | [], _ => []
  | step :: steps, s =>
    match Stage.doStep life step s with
    | (.error _, _) => []
    | (.ok results, s) => results ++ made life steps s

namespace Deed

variable (life : Life T (Stage T σ) M)

def perform : Deed T M → Scene T (Stage T σ) M → Answer T × Scene T (Stage T σ) M
  | expectAny targets limit, s =>
    let (outcome, s) := Stage.expectAny life targets limit s
    (.found outcome, s)
  | batch steps, s =>
    let (outcome, s) := Stage.batch life steps s
    (.results outcome, s)
  | move m, s =>
    let (outcome, world) := life.act s.now m s.world
    (.done outcome, { s with world })
  | arrange delay moves, s => (.done (.ok ()), s.arrange delay moves)
  | sleep length, s =>
    let (outcome, s) := s.sleep life length
    (.done outcome, s)
  | receive limit, s =>
    let (outcome, s) := Channel.receive (·.session.channel) life limit s
    (.exit outcome, s)
  | result limit, s =>
    let (outcome, s) := Channel.result (·.session.channel) life limit s
    (.done outcome, s)
  | settle, s => (.done (.ok ()), s.settle life)

/-- The matches that a deed makes. -/
def taken : Deed T M → Scene T (Stage T σ) M → List (Match T)
  | expectAny targets limit, s => Match.ofOutcome (Stage.expectAny life targets limit s).1
  | batch steps, s => Stage.made life steps s
  | _, _ => []

/-- One deed after the other: what each gives back, with what can be seen after it. -/
def run : List (Deed T M) → Scene T (Stage T σ) M →
    List (Answer T × View T) × Scene T (Stage T σ) M
  | [], s => ([], s)
  | d :: ds, s =>
    let (answer, s) := d.perform life s
    let (rest, last) := run ds s
    ((answer, s.view) :: rest, last)

/-- The matches of a run, in order. -/
def allTaken : List (Deed T M) → Scene T (Stage T σ) M → List (Match T)
  | [], _ => []
  | d :: ds, s => d.taken life s ++ allTaken ds (d.perform life s).2

theorem run_append (deeds more : List (Deed T M)) (s : Scene T (Stage T σ) M) :
    run life (deeds ++ more) s = ((run life deeds s).1 ++ (run life more (run life deeds s).2).1,
      (run life more (run life deeds s).2).2) := by
  induction deeds generalizing s with
  | nil => rfl
  | cons d deeds ih => simp only [List.cons_append, run, ih]

end Deed

/-! ## Rests and calls -/

namespace Scene

variable {W : Type}

/-- All background work that can be done now is done; `agenda` is left to happen. -/
def settledWith (life : Life T W M) (agenda : List (Appointment T M)) (s : Scene T W M) : Scene T W M :=
  { s with agenda, world := life.settle s.now s.world }

theorem restWith_nil (life : Life T W M) (woken : W → Bool) (deadline : Option T) (s : Scene T W M) :
    s.restWith life woken deadline [] =
      if woken (s.settledWith life []).world then (.woken, s.settledWith life [])
      else
        match deadline with
        | some d => (.elapsed, { s.settledWith life [] with now := Moment.later s.now d })
        | none => (.stuck, s.settledWith life []) := by
  rw [restWith.eq_def]
  rfl

theorem restWith_cons (life : Life T W M) (woken : W → Bool) (deadline : Option T) (a : Appointment T M)
    (agenda : List (Appointment T M)) (s : Scene T W M) :
    s.restWith life woken deadline (a :: agenda) =
      if woken (s.settledWith life (a :: agenda)).world then (.woken, s.settledWith life (a :: agenda))
      else if deadline.all (a.due ≤ ·) then
        ((s.settledWith life agenda).keep life a).restWith life woken deadline agenda
      else (.elapsed, { s.settledWith life (a :: agenda) with
        now := deadline.elim s.now (Moment.later s.now) }) := by
  rw [restWith.eq_def]
  rfl

theorem restWith_woken {life : Life T W M} {woken : W → Bool} {agenda : List (Appointment T M)}
    {s : Scene T W M} (hw : woken (s.settledWith life agenda).world) (deadline : Option T) :
    s.restWith life woken deadline agenda = (.woken, s.settledWith life agenda) := by
  cases agenda with
  | nil => rw [restWith_nil, if_pos hw]
  | cons a agenda => rw [restWith_cons, if_pos hw]

end Scene

theorem Channel.result_scene {W : Type} (channel : W → Channel) (life : Life T W M) (limit : Option (Span T))
    (s : Scene T W M) : (result channel life limit s).2 = (receive channel life limit s).2 := by
  simp only [result]
  split <;> simp_all only

namespace Stage

/-- Forgets that something has come in. -/
def calm (st : Stage T σ) : Stage T σ :=
  { st with session := { st.session with stirred := false } }

/-- Waits for something to come in, at most for a while. -/
def lull (life : Life T (Stage T σ) M) (length : T) (s : Scene T (Stage T σ) M) :
    Scene T (Stage T σ) M :=
  (Scene.rest life (·.session.stirred) (some (s.now + length)) { s with world := s.world.calm }).2

theorem expectUntil_succ (life : Life T (Stage T σ) M) (patterns : List Pattern) (limit : Span T)
    (started : T) (fuel : Nat) (s : Scene T (Stage T σ) M) :
    expectUntil life patterns limit started (fuel + 1) s =
      match s.world.judge patterns (started + limit.length) s.now with
      | .found f =>
        (.ok (s.world.consume f (s.now - started)).1,
          { s with world := (s.world.consume f (s.now - started)).2 })
      | .atEnd => (.error (.expectEnd (some (patterns.map fun p => Value.text p.source))), s)
      | .late =>
        (.error (.expectTimeout (some (patterns.map fun p => Value.text p.source, limit.written))), s)
      | .wait length => expectUntil life patterns limit started fuel (lull life length s) :=
  rfl

end Stage

/-! ## Invariants -/

/-- `P t l st` says something of a stage `st` at a time `t` at which the matches `l` have been made. It
is kept if nothing that can happen to the stage breaks it, nor does time that passes. -/
structure Kept (S : Setting σ M) (P : T → List (Match T) → Stage T σ → Prop) : Prop where
  pass : ∀ {t l st} (due : T), P t l st → P (Moment.later t due) l st
  settle : ∀ {t l st}, P t l st → P t l (st.settle t)
  perform : ∀ {t l st} (cue : SessionCue), P t l st → P t l (st.perform cue).2
  outside : ∀ {t l st m f}, S.moves m = .outside f → P t l st → P t l (st.actNoting f).2
  calm : ∀ {t l st}, P t l st → P t l st.calm
  consume : ∀ {t l st} (f : Finding) (elapsed : T), P t l st →
    P t (l ++ [(st.consume f elapsed).1]) (st.consume f elapsed).2

namespace Kept

variable {S : Setting σ M} {P : T → List (Match T) → Stage T σ → Prop} {l : List (Match T)}

theorem always : Kept (T := T) S fun _ _ _ => True where
  pass _ _ := trivial
  settle _ := trivial
  perform _ _ := trivial
  outside _ _ := trivial
  calm _ := trivial
  consume _ _ _ := trivial

/-- What never holds is never reached. -/
theorem never : Kept (T := T) S fun _ _ _ => ¬ True where
  pass _ h := absurd trivial h
  settle h := absurd trivial h
  perform _ h := absurd trivial h
  outside _ h := absurd trivial h
  calm h := absurd trivial h
  consume _ _ h := absurd trivial h

theorem act (hk : Kept S P) (m : M) {t : T} {st : Stage T σ} (h : P t l st) :
    P t l ((S.moves m).make st).2 := by
  cases hm : S.moves m with
  | session cue => exact hk.perform cue h
  | outside f => exact hk.outside hm h

theorem make (hk : Kept S P) (moves : List M) (s : Scene T (Stage T σ) M) (h : P s.now l s.world) :
    P (s.make S.life moves).now l (s.make S.life moves).world := by
  induction moves generalizing s with
  | nil => exact h
  | cons m moves ih =>
    have hm := hk.act m h
    simp only [Scene.make, Setting.life, Stage.lifeWith]
    split
    · next hx => exact ih _ (by simpa [hx] using hm)
    · next hx => simpa [hx] using hm

theorem restWith (hk : Kept S P) (woken : Stage T σ → Bool) (deadline : Option T)
    (agenda : List (Appointment T M)) (s : Scene T (Stage T σ) M) (h : P s.now l s.world) :
    P (s.restWith S.life woken deadline agenda).2.now l
      (s.restWith S.life woken deadline agenda).2.world := by
  induction agenda generalizing s with
  | nil =>
    have hs := hk.settle h
    rw [Scene.restWith_nil]
    split
    · exact hs
    · split
      · exact hk.pass _ hs
      · exact hs
  | cons a agenda ih =>
    have hs := hk.settle h
    rw [Scene.restWith_cons]
    split
    · exact hs
    · split
      · exact ih _ (hk.make _ _ (hk.pass a.due hs))
      · cases deadline with
        | some d => exact hk.pass d hs
        | none => exact hs

theorem rest (hk : Kept S P) (woken : Stage T σ → Bool) (deadline : Option T)
    (s : Scene T (Stage T σ) M) (h : P s.now l s.world) :
    P (s.rest S.life woken deadline).2.now l (s.rest S.life woken deadline).2.world :=
  hk.restWith woken deadline s.agenda s h

theorem lull (hk : Kept S P) (length : T) (s : Scene T (Stage T σ) M) (h : P s.now l s.world) :
    P (Stage.lull S.life length s).now l (Stage.lull S.life length s).world :=
  hk.rest _ _ { s with world := s.world.calm } (hk.calm h)

theorem expectUntil (hk : Kept S P) (patterns : List Pattern) (limit : Span T) (started : T)
    (fuel : Nat) (s : Scene T (Stage T σ) M) (h : P s.now l s.world) :
    P (Stage.expectUntil S.life patterns limit started fuel s).2.now
      (l ++ Match.ofOutcome (Stage.expectUntil S.life patterns limit started fuel s).1)
      (Stage.expectUntil S.life patterns limit started fuel s).2.world := by
  induction fuel generalizing s with
  | zero => simpa [Stage.expectUntil, Match.ofOutcome] using h
  | succ fuel ih =>
    rw [Stage.expectUntil_succ]
    split
    · next f _ => exact hk.consume f _ h
    · simpa [Match.ofOutcome] using h
    · simpa [Match.ofOutcome] using h
    · exact ih _ (hk.lull _ s h)

theorem expectAny (hk : Kept S P) (targets : List Target) (limit : Option (Span T))
    (s : Scene T (Stage T σ) M) (h : P s.now l s.world) :
    P (Stage.expectAny S.life targets limit s).2.now
      (l ++ Match.ofOutcome (Stage.expectAny S.life targets limit s).1)
      (Stage.expectAny S.life targets limit s).2.world := by
  simp only [Stage.expectAny]
  split
  · simpa [Match.ofOutcome] using h
  · exact hk.expectUntil _ _ _ _ s h

theorem batch (hk : Kept S P) (steps : List (Step T)) (s : Scene T (Stage T σ) M) (h : P s.now l s.world) :
    P (Stage.batch S.life steps s).2.now (l ++ Stage.made S.life steps s)
      (Stage.batch S.life steps s).2.world := by
  induction steps generalizing s l with
  | nil => simpa [Stage.made, Stage.batch] using h
  | cons step steps ih =>
    -- A step that does not wait makes no match, and one that waits is a call of its own.
    have hstep : P (Stage.doStep S.life step s).2.now (l ++ (match (Stage.doStep S.life step s).1 with
        | .ok results => results
        | .error _ => [])) (Stage.doStep S.life step s).2.world := by
      cases step with
      | send data =>
        have hs := hk.perform (.send data) h
        simp only [Stage.doStep]
        cases hx : s.world.send data with
        | mk outcome world =>
          simp only [Stage.perform, hx] at hs
          cases outcome <;> simpa [Except.map] using hs
      | expect target limit =>
        have hs := hk.expectAny [target] limit s h
        simp only [Stage.doStep]
        cases hx : Stage.expectAny S.life [target] limit s with
        | mk outcome world =>
          rw [hx] at hs
          cases outcome <;> simpa [Except.map, Match.ofOutcome] using hs
      | expectAny targets limit =>
        have hs := hk.expectAny targets limit s h
        simp only [Stage.doStep]
        cases hx : Stage.expectAny S.life targets limit s with
        | mk outcome world =>
          rw [hx] at hs
          cases outcome <;> simpa [Except.map, Match.ofOutcome] using hs
      | unknown v => simpa [Stage.doStep] using h
    simp only [Stage.made, Stage.batch]
    cases hx : Stage.doStep S.life step s with
    | mk outcome s' =>
      rw [hx] at hstep
      cases outcome with
      | error e => simpa using hstep
      | ok results => simpa using ih s' hstep

theorem receive (hk : Kept S P) (limit : Option (Span T)) (s : Scene T (Stage T σ) M)
    (h : P s.now l s.world) :
    P (Channel.receive (·.session.channel) S.life limit s).2.now l
      (Channel.receive (·.session.channel) S.life limit s).2.world := by
  simp only [Channel.receive]
  split
  · exact h
  · split
    · exact h
    · split <;> exact hk.rest _ _ _ h

theorem deed (hk : Kept S P) (d : Deed T M) (s : Scene T (Stage T σ) M) (h : P s.now l s.world) :
    P (d.perform S.life s).2.now (l ++ d.taken S.life s) (d.perform S.life s).2.world := by
  cases d <;> simp only [Deed.taken, List.append_nil]
  case expectAny targets limit => exact hk.expectAny targets limit s h
  case batch steps => exact hk.batch steps s h
  case move m => exact hk.act m h
  case arrange delay moves => exact h
  case sleep length =>
    simp only [Deed.perform, Scene.sleep]
    split
    · exact h
    · split
      · exact h
      · exact hk.rest _ _ _ h
  case receive limit => exact hk.receive limit s h
  case result limit =>
    simp only [Deed.perform, Channel.result_scene]
    exact hk.receive limit s h
  case settle => exact hk.rest _ _ _ h

/-- What nothing breaks holds after every run. -/
theorem run (hk : Kept S P) (deeds : List (Deed T M)) (s : Scene T (Stage T σ) M) (h : P s.now l s.world) :
    P (Deed.run S.life deeds s).2.now (l ++ Deed.allTaken S.life deeds s)
      (Deed.run S.life deeds s).2.world := by
  induction deeds generalizing s l with
  | nil => simpa [Deed.allTaken, Deed.run] using h
  | cons d deeds ih =>
    have hd := ih (d.perform S.life s).2 (hk.deed d s h)
    simpa [Deed.allTaken, Deed.run] using hd

end Kept

end Dialogue
