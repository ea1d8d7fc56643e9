import Dialogue.Channel.Exchange
import Dialogue.Proofs.Runs
/-!
# Callbacks and the one exit

What happens on a channel is a list of events: a callback is subscribed, a callback begins to run, somebody
tries to fulfil. `Channel.Story` says which lists there are. Until the exit is known callbacks are only
subscribed. Then they run in turn, each to its end with all that it subscribes, and see the exit; and so does,
at once, what is subscribed later.
-/

namespace Dialogue

/-! ## Events -/

namespace Channel

inductive Event where
  | subscribed (callback : Callback)
  /-- A callback begins to run, and sees the channel like this. -/
  | ran (callback : Callback) (seen : Option Exit)
  /-- Somebody tries to fulfil, and this comes of it. -/
  | fulfilling (exit : Exit) (outcome : Except Failure Unit)

namespace Event

def subscribed? : Event → Option Callback
  | subscribed callback => some callback
  | _ => none

def ran? : Event → Option Callback
  | ran callback _ => some callback
  | _ => none

/-- What a listener takes down when it runs. -/
def heard? : Event → Option (String × Option Exit)
  | ran (.listener name _) seen => some (name, seen)
  | _ => none

/-- The task that is woken. -/
def woken? : Event → Option Nat
  | ran (.waker task) _ => some task
  | _ => none

end Event

end Channel

mutual
/-- What happens while a callback runs. -/
def Callback.events : Callback → Channel → List Channel.Event
  | .listener name acts, c =>
    .ran (.listener name acts) c.exit :: acts.events { c with heard := c.heard ++ [(name, c.exit)] }
  | .waker task, c => [.ran (.waker task) c.exit]

def Acts.events : Acts → Channel → List Channel.Event
  | .done, _ => []
  | .raise _, _ => []
  | .subscribe callback rest, c =>
    .subscribed callback :: (if c.isDone then callback.events c else []) ++
      match c.subscribe callback with
      | (.ok _, c) => rest.events c
      | (.error _, _) => []
  | .fulfil exit rest, c =>
    match c.publish exit with
    | .ok (_, c) => .fulfilling exit (.ok ()) :: rest.events c
    | .error e => [.fulfilling exit (.error e)]
  | .attempt acts rest, c =>
    acts.events c ++
      match acts.run c with
      | (.ok _, c) => rest.events c
      | (.error e, c) => if e.isOrdinary then rest.events c else []
end

namespace Channel

def subscribeEvents (callback : Callback) (c : Channel) : List Event :=
  .subscribed callback :: if c.isDone then callback.events c else []

end Channel

/-- A listener subscribes as anybody does. -/
theorem Acts.subscribe_eq (callback : Callback) (rest : Acts) (c : Channel) :
    (Acts.subscribe callback rest).run c =
        (match c.subscribe callback with
          | (.ok _, c) => rest.run c
          | (.error e, c) => (.error e, c)) ∧
      (Acts.subscribe callback rest).events c = c.subscribeEvents callback ++
        match c.subscribe callback with
        | (.ok _, c) => rest.events c
        | (.error _, _) => [] := by
  constructor
  · rw [Acts.run]
    rfl
  · rw [Acts.events]
    rfl

namespace Channel

/-- What happens while callbacks run in order. -/
def runAllEvents : List Callback → Channel → List Event
  | [], _ => []
  | callback :: rest, c =>
    callback.events c ++
      match callback.run c with
      | (.ok _, c) => runAllEvents rest c
      | (.error e, c) => if e.isOrdinary then runAllEvents rest c else []

def fulfilEvents (exit : Exit) (c : Channel) : List Event :=
  match c.publish exit with
  | .ok (waiting, c) => .fulfilling exit (.ok ()) :: runAllEvents waiting c
  | .error e => [.fulfilling exit (.error e)]

/-! ## What events there are -/

/-- Nothing waits: what is subscribed runs at once and sees the exit, and who fulfils again is refused. -/
inductive AtOnce (exit : Exit) : List Event → Prop
  | nil : AtOnce exit []
  | refused (other : Exit) {events : List Event} (h : AtOnce exit events) :
    AtOnce exit (.fulfilling other (.error .alreadyFulfilled) :: events)
  | ran (callback : Callback) {events : List Event} (h : AtOnce exit events) :
    AtOnce exit (.subscribed callback :: .ran callback (some exit) :: events)

/-- Callbacks that have waited run one after the other, and see the exit. -/
inductive InTurn (exit : Exit) : List Callback → List Event → Prop
  | nil : InTurn exit [] []
  | next (callback : Callback) {callbacks : List Callback} {events more : List Event} (h : AtOnce exit events)
    (hmore : InTurn exit callbacks more) :
    InTurn exit (callback :: callbacks) (.ran callback (some exit) :: (events ++ more))

/-- The exit is known, and nothing waits for it. -/
structure Done (exit : Exit) (c : Channel) : Prop where
  exit : c.exit = some exit
  waiting : c.waiting = []

/-- All that has happened on a channel since it was new. -/
inductive Story (c : Channel) : List Event → Prop
  | pending (h : c.exit = none) : Story c (c.waiting.map .subscribed)
  | done {exit : Exit} {callbacks : List Callback} {events later : List Event} (h : c.Done exit)
    (hturn : InTurn exit callbacks events) (hlater : AtOnce exit later) :
    Story c (callbacks.map .subscribed ++ .fulfilling exit (.ok ()) :: (events ++ later))

theorem AtOnce.append {exit : Exit} {events more : List Event} (h : AtOnce exit events) (hmore : AtOnce exit more) :
    AtOnce exit (events ++ more) := by
  induction h with
  | nil => exact hmore
  | refused other _ ih => exact .refused other ih
  | ran callback _ ih => exact .ran callback ih

namespace Done

variable {exit : Exit} {c : Channel}

theorem isDone (h : c.Done exit) : c.isDone = true := by simp [Channel.isDone, h.exit]

theorem publish (h : c.Done exit) (other : Exit) : c.publish other = .error .alreadyFulfilled := by
  simp [Channel.publish, h.exit]

theorem subscribe (h : c.Done exit) (callback : Callback) : c.subscribe callback = callback.run c := by
  simp [Channel.subscribe, h.isDone]

end Done

end Channel

/-! ## Running a callback -/

open Channel (AtOnce InTurn Story Event)

variable {exit : Exit} {c : Channel}

mutual
/-- No callback changes the exit, and none is left to wait. -/
theorem Callback.run_done (callback : Callback) {c : Channel} (h : c.Done exit) : (callback.run c).2.Done exit := by
  cases callback with
  | waker task => exact ⟨h.exit, h.waiting⟩
  | listener name acts => exact acts.run_done ⟨h.exit, h.waiting⟩

theorem Acts.run_done (acts : Acts) {c : Channel} (h : c.Done exit) : (acts.run c).2.Done exit := by
  cases acts with
  | done => exact h
  | raise e => exact h
  | subscribe callback rest =>
    have hcallback := callback.run_done h
    simp only [Acts.run, h.isDone, if_true]
    split
    · next heq => exact rest.run_done (by rwa [heq] at hcallback)
    · next heq => rwa [heq] at hcallback
  | fulfil other rest =>
    simp only [Acts.run, h.publish]
    exact h
  | attempt acts rest =>
    have hacts := acts.run_done h
    simp only [Acts.run]
    split
    · next heq => exact rest.run_done (by rwa [heq] at hacts)
    · next heq =>
      rw [heq] at hacts
      split
      · exact rest.run_done hacts
      · exact hacts
end

mutual
theorem Callback.events_done (callback : Callback) {c : Channel} (h : c.Done exit) :
    ∃ events, callback.events c = .ran callback (some exit) :: events ∧ AtOnce exit events := by
  cases callback with
  | waker task => exact ⟨[], by rw [Callback.events, h.exit], .nil⟩
  | listener name acts =>
    have hnoted : ({ c with heard := c.heard ++ [(name, c.exit)] } : Channel).Done exit := ⟨h.exit, h.waiting⟩
    exact ⟨_, by rw [Callback.events, h.exit], h.exit ▸ acts.events_done hnoted⟩

theorem Acts.events_done (acts : Acts) {c : Channel} (h : c.Done exit) : AtOnce exit (acts.events c) := by
  cases acts with
  | done => exact .nil
  | raise e => exact .nil
  | subscribe callback rest =>
    obtain ⟨events, heq, hevents⟩ := callback.events_done h
    have hcallback := callback.run_done h
    simp only [Acts.events, h.isDone, if_true, heq, h.subscribe]
    refine .ran callback (hevents.append ?_)
    split
    · next hrun => exact rest.events_done (by rwa [hrun] at hcallback)
    · exact .nil
  | fulfil other rest =>
    simp only [Acts.events, h.publish]
    exact .refused other .nil
  | attempt acts rest =>
    have hacts := acts.run_done h
    simp only [Acts.events]
    refine (acts.events_done h).append ?_
    split
    · next hrun => exact rest.events_done (by rwa [hrun] at hacts)
    · next hrun =>
      split
      · exact rest.events_done (by rwa [hrun] at hacts)
      · exact .nil
end

/-! ## Failures of callbacks -/

mutual
/-- All that a callback raises by itself are ordinary failures. -/
def Callback.Ordinary : Callback → Prop
  | .listener _ acts => acts.Ordinary
  | .waker _ => True

def Acts.Ordinary : Acts → Prop
  | .done => True
  | .raise e => e.isOrdinary
  | .subscribe callback rest => callback.Ordinary ∧ rest.Ordinary
  | .fulfil _ rest => rest.Ordinary
  | .attempt acts rest => acts.Ordinary ∧ rest.Ordinary
end

mutual
theorem Callback.run_ordinary (callback : Callback) (ho : callback.Ordinary) {c : Channel} {e : Failure}
    (h : (callback.run c).1 = .error e) : e.isOrdinary := by
  cases callback with
  | waker task => simp [Callback.run] at h
  | listener name acts =>
    simp only [Callback.Ordinary] at ho
    exact acts.run_ordinary ho h

theorem Acts.run_ordinary (acts : Acts) (ho : acts.Ordinary) {c : Channel} {e : Failure}
    (h : (acts.run c).1 = .error e) : e.isOrdinary := by
  cases acts with
  | done => simp [Acts.run] at h
  | raise e' =>
    obtain rfl : e' = e := by simpa [Acts.run] using h
    simpa [Acts.Ordinary] using ho
  | subscribe callback rest =>
    simp only [Acts.Ordinary] at ho
    simp only [Acts.run] at h
    split at h
    · exact rest.run_ordinary ho.2 h
    · next heq =>
      split at heq
      · exact callback.run_ordinary ho.1 ((congrArg Prod.fst heq).trans h)
      · simp at heq
  | fulfil other rest =>
    simp only [Acts.Ordinary] at ho
    simp only [Acts.run] at h
    split at h
    · exact rest.run_ordinary ho h
    · next e' heq =>
      obtain rfl : e' = e := by simpa using h
      unfold Channel.publish at heq
      split at heq
      · cases heq
        rfl
      · cases heq
  | attempt acts rest =>
    simp only [Acts.Ordinary] at ho
    simp only [Acts.run] at h
    split at h
    · exact rest.run_ordinary ho.2 h
    · next heq =>
      split at h
      · exact rest.run_ordinary ho.2 h
      · exact acts.run_ordinary ho.1 ((congrArg Prod.fst heq).trans h)
end

/-! ## What is taken down -/

namespace Channel

/-- Between two states of a channel, listeners and tasks have noted the events. -/
structure Noted (events : List Event) (c c' : Channel) : Prop where
  heard : c'.heard = c.heard ++ events.filterMap Event.heard?
  woken : c'.woken = c.woken ++ events.filterMap Event.woken?

theorem Noted.none (c : Channel) : Noted [] c c := ⟨by simp, by simp⟩

theorem Noted.append {events more : List Event} {c c₁ c₂ : Channel} (h : Noted events c c₁) (hmore : Noted more c₁ c₂) :
    Noted (events ++ more) c c₂ := by
  constructor
  · rw [hmore.heard, h.heard, List.filterMap_append, List.append_assoc]
  · rw [hmore.woken, h.woken, List.filterMap_append, List.append_assoc]

/-- What is no run is not noted. -/
theorem Noted.cons {event : Event} {events : List Event} {c c' : Channel} (h : Noted events c c')
    (hevent : event.ran? = Option.none) : Noted (event :: events) c c' := by
  cases event with
  | ran => simp [Event.ran?] at hevent
  | subscribed => exact ⟨h.heard, h.woken⟩
  | fulfilling => exact ⟨h.heard, h.woken⟩

theorem Noted.publish {waiting : List Callback} {exit : Exit} {events : List Event} {c c₁ c' : Channel}
    (hp : c.publish exit = .ok (waiting, c₁)) (h : Noted events c₁ c') : Noted events c c' := by
  unfold Channel.publish at hp
  split at hp
  · cases hp
  · obtain ⟨-, rfl⟩ := Prod.mk.inj (Except.ok.inj hp)
    exact ⟨h.heard, h.woken⟩

theorem Noted.subscribe {callback : Callback} {c : Channel}
    (h : Noted (callback.events c) c (callback.run c).2) :
    Noted (c.subscribeEvents callback) c (c.subscribe callback).2 := by
  refine .cons ?_ rfl
  unfold Channel.subscribe
  split
  · exact h
  · exact ⟨by simp [Channel.enlist], by simp [Channel.enlist]⟩

end Channel

open Channel (Noted)

mutual
theorem Callback.run_noted (callback : Callback) (c : Channel) :
    Noted (callback.events c) c (callback.run c).2 := by
  cases callback with
  | waker task => exact ⟨by simp [Callback.run, Callback.events, Event.heard?], rfl⟩
  | listener name acts =>
    have hacts := acts.run_noted { c with heard := c.heard ++ [(name, c.exit)] }
    rw [Callback.run, Callback.events]
    exact ⟨by simp [Event.heard?, hacts.heard], hacts.woken⟩

theorem Acts.run_noted (acts : Acts) (c : Channel) : Noted (acts.events c) c (acts.run c).2 := by
  cases acts with
  | done => exact .none c
  | raise e => exact .none c
  | subscribe callback rest =>
    have hcallback : Noted (c.subscribeEvents callback) c (c.subscribe callback).2 :=
      Noted.subscribe (callback.run_noted c)
    obtain ⟨hrun, hevents⟩ := Acts.subscribe_eq callback rest c
    rw [hrun, hevents]
    rcases hx : c.subscribe callback with ⟨e | _, c'⟩ <;> rw [hx] at hcallback
    · simpa using hcallback
    · exact hcallback.append (rest.run_noted c')
  | fulfil other rest =>
    simp only [Acts.run, Acts.events]
    rcases hp : c.publish other with e | ⟨waiting, c'⟩
    · exact .cons (.none c) rfl
    · exact .cons (.publish hp (rest.run_noted c')) rfl
  | attempt acts rest =>
    have hacts := acts.run_noted c
    simp only [Acts.run, Acts.events]
    rcases hx : acts.run c with ⟨e | _, c'⟩ <;> rw [hx] at hacts
    · by_cases he : e.isOrdinary
      · simp only [he, if_true]
        exact hacts.append (rest.run_noted c')
      · simpa [he] using hacts
    · exact hacts.append (rest.run_noted c')
end

namespace Channel

theorem runAll_noted (callbacks : List Callback) (c : Channel) :
    Noted (runAllEvents callbacks c) c (runAll callbacks c).2.2 := by
  induction callbacks generalizing c with
  | nil => exact .none c
  | cons callback rest ih =>
    have hcallback := callback.run_noted c
    simp only [runAll, runAllEvents]
    rcases hx : callback.run c with ⟨e | _, c'⟩ <;> rw [hx] at hcallback
    · by_cases he : e.isOrdinary
      · simp only [he, if_true]
        exact hcallback.append (ih c')
      · simpa [he] using hcallback
    · exact hcallback.append (ih c')

theorem fulfil_noted (exit : Exit) (c : Channel) : Noted (c.fulfilEvents exit) c (c.fulfil exit).2.2 := by
  unfold fulfilEvents Channel.fulfil
  rcases hp : c.publish exit with e | ⟨waiting, c'⟩
  · exact .cons (.none c) rfl
  · exact .cons (.publish hp (runAll_noted waiting c')) rfl

/-- Whatever callbacks do, and however far they get: the exit stays. -/
theorem runAll_done (callbacks : List Callback) (h : c.Done exit) : (runAll callbacks c).2.2.Done exit := by
  induction callbacks generalizing c with
  | nil => exact h
  | cons callback rest ih =>
    have hdone := callback.run_done h
    simp only [runAll]
    rcases hx : callback.run c with ⟨e | _, c'⟩ <;> rw [hx] at hdone
    · by_cases he : e.isOrdinary
      · simp only [he, if_true]
        exact ih hdone
      · simpa [he] using hdone
    · exact ih hdone

/-- Only a failure that is no ordinary one ends the run of callbacks. -/
theorem runAll_error {callbacks : List Callback} {e : Failure} (h : (runAll callbacks c).1 = .error e) :
    ¬ e.isOrdinary := by
  induction callbacks generalizing c with
  | nil => simp [runAll] at h
  | cons callback rest ih =>
    simp only [runAll] at h
    split at h
    · exact ih h
    · split at h
      · exact ih h
      · next hordinary =>
        obtain rfl := Except.error.inj h
        exact hordinary

/-- Callbacks that have waited all run, whatever they raise, if it is ordinary. -/
theorem runAll_ordinary {callbacks : List Callback} (ho : ∀ callback ∈ callbacks, callback.Ordinary)
    (h : c.Done exit) : (runAll callbacks c).1 = .ok () ∧ InTurn exit callbacks (runAllEvents callbacks c) := by
  induction callbacks generalizing c with
  | nil => exact ⟨rfl, .nil⟩
  | cons callback rest ih =>
    obtain ⟨events, heq, hevents⟩ := callback.events_done h
    have hdone := callback.run_done h
    have hordinary (e : Failure) := callback.run_ordinary (ho callback List.mem_cons_self) (c := c) (e := e)
    have ho' : ∀ callback ∈ rest, callback.Ordinary := fun callback hc => ho callback (List.mem_cons_of_mem _ hc)
    simp only [runAll, runAllEvents, heq, List.cons_append]
    rcases hx : callback.run c with ⟨e | _, c'⟩ <;> rw [hx] at hdone hordinary
    all_goals obtain ⟨hok, hturn⟩ := ih ho' hdone
    · simp only [hordinary e rfl, if_true]
      exact ⟨hok, .next callback hevents hturn⟩
    · exact ⟨hok, .next callback hevents hturn⟩

/-- The first to fulfil publishes the exit. -/
theorem publish_pending (hexit : c.exit = none) (exit : Exit) :
    c.publish exit = .ok (c.waiting, { c with exit := some exit, waiting := [] }) := by
  simp [publish, hexit]

theorem fulfil_done (hexit : c.exit = none) (exit : Exit) : (c.fulfil exit).2.2.Done exit := by
  rw [fulfil, publish_pending hexit]
  exact runAll_done c.waiting ⟨rfl, rfl⟩

/-- The first to fulfil is not refused. -/
theorem fulfil_accepted (hexit : c.exit = none) (exit : Exit) :
    (c.fulfil exit).1 ≠ .error .alreadyFulfilled := by
  rw [fulfil, publish_pending hexit]
  intro hrefused
  exact runAll_error hrefused rfl

/-! ## Every subscription is one run -/

theorem AtOnce.runs {events : List Event} (h : AtOnce exit events) :
    events.filterMap Event.ran? = events.filterMap Event.subscribed? := by
  induction h with
  | nil => rfl
  | refused other _ ih => simpa [List.filterMap_cons, Event.ran?, Event.subscribed?] using ih
  | ran callback _ ih => simpa [List.filterMap_cons, Event.ran?, Event.subscribed?] using ih

theorem AtOnce.seen {events : List Event} (h : AtOnce exit events) {callback : Callback} {seen : Option Exit}
    (hran : .ran callback seen ∈ events) : seen = some exit := by
  induction h with
  | nil => simp at hran
  | refused other _ ih => exact ih (by simpa using hran)
  | ran callback' _ ih =>
    rcases List.mem_cons.1 hran with heq | hran
    · cases heq
    · rcases List.mem_cons.1 hran with heq | hran
      · exact (Event.ran.inj heq).2
      · exact ih hran

theorem InTurn.runs {callbacks : List Callback} {events : List Event} (h : InTurn exit callbacks events) :
    (events.filterMap Event.ran?).Perm (callbacks ++ events.filterMap Event.subscribed?) := by
  induction h with
  | nil => exact .refl _
  | @next callback callbacks events more hevents _ ih =>
    simp only [List.filterMap_cons, List.filterMap_append, Event.ran?, Event.subscribed?, hevents.runs, List.cons_append]
    refine List.Perm.cons callback ?_
    refine (ih.append_left _).trans ?_
    rw [← List.append_assoc, ← List.append_assoc]
    exact List.perm_append_comm.append_right _

theorem InTurn.seen {callbacks : List Callback} {events : List Event} (h : InTurn exit callbacks events)
    {callback : Callback} {seen : Option Exit} (hran : .ran callback seen ∈ events) : seen = some exit := by
  induction h with
  | nil => simp at hran
  | next callback' hevents _ ih =>
    rcases List.mem_cons.1 hran with heq | hran
    · exact (Event.ran.inj heq).2
    · rcases List.mem_append.1 hran with hran | hran
      · exact hevents.seen hran
      · exact ih hran

namespace Story

variable {events : List Event}

theorem new : Story {} [] := .pending rfl

/-- What has been subscribed has run once, or waits. -/
theorem runs (h : Story c events) :
    (events.filterMap Event.ran? ++ c.waiting).Perm (events.filterMap Event.subscribed?) := by
  have hran (callbacks : List Callback) : (callbacks.map Event.subscribed).filterMap Event.ran? = [] := by
    simp [Event.ran?]
  have hsubscribed (callbacks : List Callback) :
      (callbacks.map Event.subscribed).filterMap Event.subscribed? = callbacks := by
    simp [List.filterMap_map, Function.comp_def, Event.subscribed?]
  cases h with
  | pending h =>
    rw [hran, hsubscribed]
    exact .refl _
  | done h hturn hlater =>
    simp only [List.filterMap_append, List.filterMap_cons, hran, hsubscribed, Event.ran?, Event.subscribed?, h.waiting,
      hlater.runs, List.nil_append, List.append_nil]
    rw [← List.append_assoc]
    exact hturn.runs.append_right _

/-- No callback runs before the exit is known, and each sees it. -/
theorem seen (h : Story c events) {callback : Callback} {seen : Option Exit} (hran : .ran callback seen ∈ events) :
    c.exit.isSome ∧ seen = c.exit := by
  cases h with
  | pending h => simp at hran
  | @done exit callbacks body later h hturn hlater =>
    have hseen : seen = some exit := by
      rcases List.mem_append.1 hran with hran | hran
      · simp at hran
      · rcases List.mem_cons.1 hran with heq | hran
        · cases heq
        · exact (List.mem_append.1 hran).elim hturn.seen hlater.seen
    rw [h.exit, hseen]
    exact ⟨rfl, rfl⟩

theorem done_of_exit (h : Story c events) (hexit : c.exit = some exit) : c.Done exit := by
  cases h with
  | pending h => simp [h] at hexit
  | done h => rwa [← Option.some.inj (h.exit.symm.trans hexit)]

theorem later (h : Story c events) (hdone : c.Done exit) {c' : Channel} (hdone' : c'.Done exit) {more : List Event}
    (hmore : AtOnce exit more) : Story c' (events ++ more) := by
  cases h with
  | pending h => simp [hdone.exit] at h
  | done h hturn hlater =>
    obtain rfl := Option.some.inj (h.exit.symm.trans hdone.exit)
    rw [List.append_assoc, List.cons_append, List.append_assoc]
    exact .done hdone' hturn (hlater.append hmore)

theorem subscribe (h : Story c events) (callback : Callback) :
    Story (c.subscribe callback).2 (events ++ c.subscribeEvents callback) := by
  cases hexit : c.exit with
  | none =>
    have hevents : events = c.waiting.map .subscribed := by
      cases h with
      | pending => rfl
      | done h => simp [h.exit] at hexit
    have hpending : c.isDone = false := by simp [Channel.isDone, hexit]
    rw [hevents, Channel.subscribe, subscribeEvents, hpending]
    have hstory : Story (c.enlist callback) ((c.enlist callback).waiting.map .subscribed) := .pending hexit
    rwa [enlist, List.map_append] at hstory
  | some exit =>
    have hdone := h.done_of_exit hexit
    obtain ⟨more, heq, hmore⟩ := callback.events_done hdone
    rw [hdone.subscribe, subscribeEvents, hdone.isDone, if_pos rfl, heq]
    exact h.later hdone (callback.run_done hdone) (.ran callback hmore)

/-- The first to fulfil publishes the exit, and what waits for it runs. -/
theorem fulfil_pending (h : Story c events) (hexit : c.exit = none) (ho : ∀ callback ∈ c.waiting, callback.Ordinary)
    (exit : Exit) : (c.fulfil exit).1 = .ok () ∧ Story (c.fulfil exit).2.2 (events ++ c.fulfilEvents exit) := by
  have hevents : events = c.waiting.map .subscribed := by
    cases h with
    | pending => rfl
    | done h => simp [h.exit] at hexit
  have hpublished : ({ c with exit := some exit, waiting := [] } : Channel).Done exit := ⟨rfl, rfl⟩
  obtain ⟨hok, hturn⟩ := runAll_ordinary ho hpublished
  have hdone := fulfil_done hexit exit
  simp only [fulfil, publish_pending hexit] at hdone
  simp only [fulfil, fulfilEvents, publish_pending hexit, hevents]
  refine ⟨hok, ?_⟩
  have hstory := Story.done hdone hturn .nil
  rwa [List.append_nil] at hstory

end Story

/-- Whoever comes later is refused, and changes nothing. -/
theorem Done.fulfil (hdone : c.Done exit) (other : Exit) : c.fulfil other = (.error .alreadyFulfilled, [], c) ∧
    AtOnce exit (c.fulfilEvents other) := by
  simp only [Channel.fulfil, fulfilEvents, hdone.publish, true_and]
  exact .refused other .nil

end Channel

end Dialogue
