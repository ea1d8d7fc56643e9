import Dialogue.Proofs.Callbacks
/-!
# Requests to a channel

A channel and its promise are asked one thing after the other: to fulfil, to subscribe, whether the exit is
known, to give it. The first who fulfils decides (`Exchange.exit_published_once`): before there is no exit and a
wait for it runs out of time, afterwards it never changes, and every callback runs exactly once.
-/

namespace Dialogue.Exchange

open Channel (Event)

/-- What is asked of a channel and its promise. -/
inductive Request (T : Type) where
  | fulfil (exit : Exit)
  | subscribe (callback : Callback)
  | done
  | receive (limit : Option (Span T))
  | result (limit : Option (Span T))

inductive Reply where
  | outcome (o : Except Failure Unit)
  | flag (b : Bool)
  | exit (o : Except Failure Exit)

variable {T : Type} [Moment T]

namespace Request

/-- The exit that a request tries to publish. -/
def exit? : Request T → Option Exit
  | fulfil exit => some exit
  | _ => none

def perform : Request T → Scene T Exchange Move → Reply × Scene T Exchange Move
  | fulfil exit, s =>
    let (outcome, world) := act (.fulfil exit) s.world
    (.outcome outcome, { s with world })
  | subscribe callback, s =>
    let (outcome, world) := act (.subscribe callback) s.world
    (.outcome outcome, { s with world })
  | done, s => (.flag s.world.channel.isDone, s)
  | receive limit, s =>
    let (outcome, s) := Channel.receive (·.channel) (life T) limit s
    (.exit outcome, s)
  | result limit, s =>
    let (outcome, s) := Channel.result (·.channel) (life T) limit s
    (.outcome outcome, s)

/-- What happens on the channel because of a request. -/
def events : Request T → Channel → List Event
  | fulfil exit, c => c.fulfilEvents exit
  | subscribe callback, c => c.subscribeEvents callback
  | _, _ => []

/-- The scene after one request after the other. -/
def after : List (Request T) → Scene T Exchange Move → Scene T Exchange Move
  | [], s => s
  | r :: rs, s => after rs (r.perform s).2

/-- What happens on the channel meanwhile. -/
def history : List (Request T) → Scene T Exchange Move → List Event
  | [], _ => []
  | r :: rs, s => r.events s.world.channel ++ history rs (r.perform s).2

end Request

/-- A channel that is new, and nobody else to do anything with it. -/
def fresh (now : T) : Scene T Exchange Move where
  now
  agenda := []
  faults := []
  world := {}

/-! ## Waiting for the exit -/

section

variable {s : Scene T Exchange Move} {exit : Exit}

/-- How a wait ends that brings nothing. -/
def overdue (limit : Option (Span T)) : Failure := limit.elim .blocked fun span => .exitOverdue span.written

theorem receive_pending (hagenda : s.agenda = []) (hexit : s.world.channel.exit = none) (limit : Option (Span T)) :
    ∃ now, Channel.receive (·.channel) (life T) limit s = (.error (overdue limit), { s with now }) := by
  obtain ⟨now, agenda, faults, world⟩ := s
  obtain rfl : agenda = [] := hagenda
  replace hexit : world.channel.exit = none := hexit
  have hpending : ¬ world.channel.isDone := by simp [Channel.isDone, hexit]
  simp only [Channel.receive, hexit]
  split
  · exact ⟨now, rfl⟩
  · -- Nobody is there to fulfil, so that the wait only makes time pass.
    have hsettled : Scene.settledWith (life T) [] ⟨now, [], faults, world⟩ = ⟨now, [], faults, world⟩ := rfl
    rw [Scene.rest, Scene.restWith_nil, hsettled, if_neg hpending]
    cases limit with
    | none =>
      simp only [Option.map_none, hexit]
      exact ⟨now, rfl⟩
    | some span =>
      simp only [Option.map_some, hexit]
      exact ⟨_, rfl⟩

theorem receive_done (hexit : s.world.channel.exit = some exit) (limit : Option (Span T)) :
    Channel.receive (·.channel) (life T) limit s = (.ok exit, s) := by
  simp only [Channel.receive, hexit]

/-- A wait changes nothing but the time. -/
theorem receive_world (hagenda : s.agenda = []) (limit : Option (Span T)) :
    ∃ now, (Channel.receive (·.channel) (life T) limit s).2 = { s with now } := by
  cases hexit : s.world.channel.exit with
  | none =>
    obtain ⟨now, heq⟩ := receive_pending hagenda hexit limit
    exact ⟨now, by rw [heq]⟩
  | some exit => exact ⟨s.now, by rw [receive_done hexit]⟩

end

/-! ## The books of a channel -/

/-- The state of a channel after some requests and events. -/
structure Books (requests : List (Request T)) (events : List Event) (s : Scene T Exchange Move) : Prop where
  alone : s.agenda = []
  exit : s.world.channel.exit = requests.findSome? Request.exit?
  story : s.world.channel.Story events
  noted : Channel.Noted events {} s.world.channel
  ordinary : ∀ callback ∈ s.world.channel.waiting, callback.Ordinary

namespace Books

variable {requests : List (Request T)} {events : List Event} {s : Scene T Exchange Move}

omit [Moment T] in
theorem new (now : T) : Books [] [] (fresh now) where
  alone := rfl
  exit := rfl
  story := .new
  noted := .none _
  ordinary _ h := nomatch h

omit [Moment T] in
/-- A request that leaves the channel as it is. -/
theorem idle (h : Books requests events s) {r : Request T} (hr : r.exit? = none) {s' : Scene T Exchange Move}
    (hagenda : s'.agenda = s.agenda) (hworld : s'.world = s.world) : Books (requests ++ [r]) (events ++ []) s' where
  alone := hagenda.trans h.alone
  exit := by simp [hworld, h.exit, hr]
  story := by rw [hworld, List.append_nil]; exact h.story
  noted := by rw [hworld, List.append_nil]; exact h.noted
  ordinary := by rw [hworld]; exact h.ordinary

theorem fulfil (h : Books requests events s) (exit : Exit) :
    Books (requests ++ [.fulfil exit]) (events ++ s.world.channel.fulfilEvents exit)
      ((Request.fulfil exit).perform s).2 := by
  have hworld : ((Request.fulfil exit).perform s).2.world.channel = (s.world.channel.fulfil exit).2.2 := rfl
  have hnoted := h.noted.append (Channel.fulfil_noted exit s.world.channel)
  cases hexit : s.world.channel.exit with
  | none =>
    obtain ⟨-, hstory⟩ := h.story.fulfil_pending hexit h.ordinary exit
    have hdone := Channel.fulfil_done hexit exit
    refine ⟨h.alone, ?_, hstory, hnoted, ?_⟩
    · rw [hworld, hdone.exit, List.findSome?_append, ← h.exit, hexit]
      rfl
    · rw [hworld, hdone.waiting]
      simp
  | some v =>
    have hdone := h.story.done_of_exit hexit
    obtain ⟨heq, hmore⟩ := hdone.fulfil exit
    refine ⟨h.alone, ?_, ?_, hnoted, ?_⟩
    · rw [hworld, heq, List.findSome?_append, ← h.exit, hexit]
      rfl
    · rw [hworld, heq]
      exact h.story.later hdone hdone hmore
    · rw [hworld, heq]
      exact h.ordinary

theorem subscribe (h : Books requests events s) (callback : Callback) (ho : callback.Ordinary) :
    Books (requests ++ [.subscribe callback]) (events ++ s.world.channel.subscribeEvents callback)
      ((Request.subscribe callback).perform s).2 := by
  have hworld : ((Request.subscribe callback).perform s).2.world.channel = (s.world.channel.subscribe callback).2 := rfl
  have hfirst : (requests ++ [Request.subscribe callback]).findSome? Request.exit? = s.world.channel.exit := by
    rw [List.findSome?_append, ← h.exit]
    cases s.world.channel.exit <;> rfl
  have hnoted := h.noted.append (Channel.Noted.subscribe (callback.run_noted s.world.channel))
  cases hexit : s.world.channel.exit with
  | none =>
    have hpending : s.world.channel.isDone = false := by simp [Channel.isDone, hexit]
    have henlist : (s.world.channel.subscribe callback).2 = s.world.channel.enlist callback := by
      simp [Channel.subscribe, hpending]
    refine ⟨h.alone, ?_, h.story.subscribe callback, hnoted, ?_⟩
    · rw [hworld, henlist, hfirst]
      rfl
    · intro waiting hw
      rw [hworld, henlist, Channel.enlist, List.mem_append, List.mem_singleton] at hw
      rcases hw with hw | rfl
      · exact h.ordinary waiting hw
      · exact ho
  | some v =>
    have hdone := h.story.done_of_exit hexit
    have hrun := callback.run_done hdone
    rw [← hdone.subscribe] at hrun
    refine ⟨h.alone, ?_, h.story.subscribe callback, hnoted, ?_⟩
    · rw [hworld, hrun.exit, hfirst, hexit]
    · rw [hworld, hrun.waiting]
      simp

theorem step (h : Books requests events s) (r : Request T)
    (hr : ∀ callback, r = .subscribe callback → callback.Ordinary) :
    Books (requests ++ [r]) (events ++ r.events s.world.channel) (r.perform s).2 := by
  cases r with
  | fulfil exit => exact h.fulfil exit
  | subscribe callback => exact h.subscribe callback (hr callback rfl)
  | done => exact h.idle rfl rfl rfl
  | receive limit =>
    obtain ⟨now, heq⟩ := receive_world h.alone limit
    have hperform : ((Request.receive limit).perform s).2 = { s with now } := heq
    exact h.idle rfl (by rw [hperform]) (by rw [hperform])
  | result limit =>
    obtain ⟨now, heq⟩ := receive_world h.alone limit
    have hperform : ((Request.result limit).perform s).2 = { s with now } :=
      (Channel.result_scene _ _ limit s).trans heq
    exact h.idle rfl (by rw [hperform]) (by rw [hperform])

theorem run (h : Books requests events s) (more : List (Request T))
    (hmore : ∀ callback, .subscribe callback ∈ more → callback.Ordinary) :
    Books (requests ++ more) (events ++ Request.history more s) (Request.after more s) := by
  induction more generalizing requests events s with
  | nil => simpa [Request.history, Request.after] using h
  | cons r rs ih =>
    have hstep := h.step r fun callback hr => hmore callback (hr ▸ List.mem_cons_self)
    have hrs := ih hstep fun callback hc => hmore callback (List.mem_cons_of_mem _ hc)
    simpa [Request.history, Request.after] using hrs

end Books

/-! ## What a channel replies -/

/-- What a channel with that exit, or none yet, replies to a request, and the scene after it. -/
structure Replies (s : Scene T Exchange Move) : Prop where
  done : Request.done.perform s = (.flag s.world.channel.exit.isSome, s)
  accepted (exit : Exit) (h : s.world.channel.exit = none) :
    ((Request.fulfil exit).perform s).1 = .outcome (.ok ()) ∧
      ((Request.fulfil exit).perform s).2.world.channel.exit = some exit
  refused (exit : Exit) (h : s.world.channel.exit.isSome) :
    (Request.fulfil exit).perform s = (.outcome (.error .alreadyFulfilled), s)
  overdue (limit : Option (Span T)) (h : s.world.channel.exit = none) : ∃ now,
    (Request.receive limit).perform s = (.exit (.error (overdue limit)), { s with now }) ∧
      (Request.result limit).perform s = (.outcome (.error (Exchange.overdue limit)), { s with now })
  known (limit : Option (Span T)) (exit : Exit) (h : s.world.channel.exit = some exit) :
    (Request.receive limit).perform s = (.exit (.ok exit), s) ∧
      (Request.result limit).perform s = (.outcome (exit.elim (.ok ()) .error), s)

theorem Books.replies {requests : List (Request T)} {events : List Event} {s : Scene T Exchange Move}
    (h : Books requests events s) : Replies s where
  done := rfl
  accepted exit hexit := by
    obtain ⟨hok, -⟩ := h.story.fulfil_pending hexit h.ordinary exit
    exact ⟨congrArg Reply.outcome hok, (Channel.fulfil_done hexit exit).exit⟩
  refused exit hexit := by
    obtain ⟨v, hv⟩ := Option.isSome_iff_exists.1 hexit
    have hfulfil := ((h.story.done_of_exit hv).fulfil exit).1
    simp only [Request.perform, act, hfulfil, List.append_nil]
  overdue limit hexit := by
    obtain ⟨now, heq⟩ := receive_pending h.alone hexit limit
    refine ⟨now, ?_, ?_⟩
    · simp only [Request.perform, heq]
    · simp only [Request.perform, Channel.result, heq]
  known limit exit hexit := by
    have heq := receive_done hexit limit
    refine ⟨?_, ?_⟩
    · simp only [Request.perform, heq]
    · simp only [Request.perform, Channel.result, heq]
      cases exit <;> rfl

/-- However often a channel is asked for anything, and whatever its callbacks do: the first who fulfils decides
the exit, every callback runs once, when the exit is known, and nobody is told anything else. -/
theorem exit_published_once (requests : List (Request T)) (now : T)
    (hordinary : ∀ callback, .subscribe callback ∈ requests → callback.Ordinary) :
    let last := Request.after requests (fresh now)
    let events := Request.history requests (fresh now)
    last.world.channel.exit = requests.findSome? Request.exit? ∧
      last.world.channel.Story events ∧
      (∀ callback seen, .ran callback seen ∈ events → seen.isSome ∧ seen = last.world.channel.exit) ∧
      (events.filterMap Event.ran? ++ last.world.channel.waiting).Perm (events.filterMap Event.subscribed?) ∧
      (last.world.channel.exit.isSome → last.world.channel.waiting = []) ∧
      last.world.channel.heard = events.filterMap Event.heard? ∧
      last.world.channel.woken = events.filterMap Event.woken? ∧ Replies last := by
  intro last events
  have hbooks : Books requests events last := by simpa using (Books.new now).run requests hordinary
  have hheard := hbooks.noted.heard
  have hwoken := hbooks.noted.woken
  refine ⟨hbooks.exit, hbooks.story, ?_, hbooks.story.runs, ?_, ?_, ?_, hbooks.replies⟩
  · intro callback seen hran
    obtain ⟨hexit, rfl⟩ := hbooks.story.seen hran
    exact ⟨hexit, rfl⟩
  · intro hsome
    obtain ⟨exit, hexit⟩ := Option.isSome_iff_exists.1 hsome
    exact (hbooks.story.done_of_exit hexit).waiting
  · simpa using hheard
  · simpa using hwoken

/-- Two who listen, of whom the first brings in another, tries to fulfil and fails; and one who comes late. -/
def quarrel : List (Request Int) :=
  [.subscribe (.listener "first"
      (.subscribe (.listener "nested" .done) (.attempt (.fulfil (some .markMissing) .done) (.raise .streamClosed)))),
    .subscribe (.listener "second" .done), .receive (some ⟨5, .number (.whole 5)⟩), .fulfil none,
    .fulfil (some .streamClosed), .subscribe (.listener "late" .done)]

theorem quarrel_heard_once : (∀ callback, .subscribe callback ∈ quarrel → callback.Ordinary) ∧
    (Request.after quarrel (fresh 0)).world.channel.exit = some none ∧
    (Request.after quarrel (fresh 0)).world.channel.heard =
      [("first", some none), ("nested", some none), ("second", some none), ("late", some none)] := by
  have hordinary : ∀ callback, .subscribe callback ∈ quarrel → callback.Ordinary := by
    intro callback hc
    simp only [quarrel, List.mem_cons, Request.subscribe.injEq, List.not_mem_nil, reduceCtorEq, or_false, false_or] at hc
    rcases hc with rfl | rfl | rfl <;> simp [Callback.Ordinary, Acts.Ordinary, Failure.isOrdinary]
  obtain ⟨hexit, -, -, -, -, hheard, -⟩ := exit_published_once quarrel 0 hordinary
  exact ⟨hordinary, hexit.trans rfl, hheard.trans rfl⟩

end Dialogue.Exchange
