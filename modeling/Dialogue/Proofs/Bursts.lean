import Dialogue.Proofs.Quiet
import Dialogue.Proofs.Reading
import Dialogue.Proofs.Resting
import Mathlib.Data.List.Chain
/-!
# Bursts in rehearsals

Without partial matches it does not matter how the text of a burst is cut: a call takes the match that it would
take if all of it had come in with the last piece (`Rehearsal.burst_unseen`).
-/

namespace Dialogue

variable {T σ : Type}

/-- The stage with another text in its buffer. -/
def Stage.holding (text : List Char) (st : Stage T σ) : Stage T σ :=
  { st with session := { st.session with buffer := text.toArray } }

namespace Company

variable {awaited : Bool} {hookError : Option (Option Failure)} {c : Conduct T} {text more : List Char}
  {d d' : Decoder} {bytes : List UInt8}

/-- A reader lives, and reads from a feed that goes on: `pending` is still to be read, `text` is in the buffer, and
`d` is the decoder. -/
structure Hears (awaited : Bool) (hookError : Option (Option Failure)) (c : Conduct T) (pending : List UInt8)
    (text : List Char) (d : Decoder) (st : Stage T Company) : Prop where
  linkage : st.session.link = link awaited hookError
  conduct : st.session.conduct = c
  alive : st.session.reader.isAlive
  eof : st.session.eof = false
  feed : ∃ f, st.process.lead.output = .feed f ∧ f.pending = pending ∧ f.ended = false
  before : st.before = text
  decoder : st.session.decoder = d

namespace Hears

variable {st : Stage T Company} {pending : List UInt8}

theorem linked (h : Hears awaited hookError c pending text d st) :
    Linked (setting awaited hookError) (Prompt c) st := by
  obtain ⟨f, hf, -⟩ := h.feed
  exact ⟨h.linkage, by rw [hf]; trivial, h.conduct⟩

theorem calm (h : Hears awaited hookError c pending text d st) : Hears awaited hookError c pending text d st.calm :=
  ⟨h.linkage, h.conduct, h.alive, h.eof, h.feed, h.before, h.decoder⟩

/-- What is fed is pending. -/
theorem fed (h : Hears awaited hookError c [] text d st) (bytes : List UInt8) :
    ((Cue.feed bytes).move.make st).1 = .ok () ∧
      Hears awaited hookError c bytes text d ((Cue.feed bytes).move.make st).2 := by
  obtain ⟨f, hf, hpending, hopen⟩ := h.feed
  have hmake : (Cue.feed bytes).move.make st = (.ok (), { st with
      process := st.process.withFeed (f.feed bytes), log := st.log ++ [] }) := by
    simp only [Cue.move, aside, Move.make, Stage.actNoting, Desk.actNoting, leadPart, Part.on, StandIn.feed, hf]
    rfl
  rw [hmake]
  refine ⟨rfl, h.linkage, h.conduct, h.alive, h.eof, ⟨f.feed bytes, rfl, ?_, hopen⟩, h.before, h.decoder⟩
  rw [Feed.feed, hpending, List.nil_append]

/-- What is pending is read and taken in at once. -/
theorem runReader (h : Hears awaited hookError c pending text d st) (now : T) (hne : pending ≠ [])
    (hd : d.feed pending = some (more, d')) :
    Hears awaited hookError c [] (c.kept (text ++ more)) d' (st.runReader now) ∧
      (st.runReader now).session.stirred = true := by
  obtain ⟨f, hf, rfl, hopen⟩ := h.feed
  have hl : st.session.link.Shows id := by
    rw [h.linkage]
    exact fun _ _ => rfl
  have hfuel : f.pending.length < st.session.link.remaining st.process + 1 := by
    have hremaining : (Company.link awaited hookError).remaining st.process = st.process.lead.output.remaining := rfl
    rw [h.linkage, hremaining, hf, Output.remaining]
    omega
  obtain ⟨st₁, hon, hview, htaken⟩ := Stage.readOn_feed now _ hl hf (h.decoder ▸ hd) hfuel
  have hblocked : f.last = .blocked := by simp [Feed.last, hopen]
  have hread : st.runReader now = { st₁ with session := { st₁.session with reader := .waiting } } := by
    rw [Stage.runReader, if_pos h.alive, hon, hblocked, Stage.takeChunk]
  rw [if_neg hne] at htaken
  rw [hread, htaken]
  refine ⟨⟨h.linkage, h.conduct, rfl, h.eof, ⟨f.drained, ?_, rfl, hopen⟩, ?_, rfl⟩, rfl⟩
  · exact congrArg (fun c : Company => c.lead.output) hview
  · rw [← h.before, ← h.conduct]
    rfl

/-- With nothing pending there is nothing to read. -/
theorem runReader_nil (h : Hears awaited hookError c [] text d st) (now : T) :
    Hears awaited hookError c [] text d (st.runReader now) ∧
      (st.runReader now).session.stirred = st.session.stirred := by
  obtain ⟨f, hf, hpending, hopen⟩ := h.feed
  have hl : st.session.link.Shows id := by
    rw [h.linkage]
    exact fun _ _ => rfl
  obtain ⟨hchunk, hview⟩ := Stage.readChunk_shown hl hf
  rw [Feed.read_of_nil hpending] at hchunk hview
  have hblocked : st.readChunk.1 = .blocked := by rw [hchunk, Feed.last, hopen]; rfl
  have hgo : ¬ st.readChunk.1.goesOn st.session.decoder := by simp [hblocked, Chunk.goesOn]
  rw [Stage.runReader, if_pos h.alive, Stage.readOn_succ, if_neg hgo, Stage.readOnce_of_blocked now hblocked]
  refine ⟨⟨h.linkage, h.conduct, rfl, h.eof, ⟨f, ?_, hpending, hopen⟩, h.before, h.decoder⟩, rfl⟩
  exact congrArg (fun c : Company => c.lead.output) hview

theorem runWaiter (h : Hears awaited hookError c pending text d st) :
    Hears awaited hookError c pending text d st.runWaiter ∧
      st.runWaiter.session.stirred = st.session.stirred := by
  obtain ⟨channel, waiter, hsession⟩ := st.runWaiter_session
  have houtput := (runWaiter_frame h.linkage).1
  refine ⟨⟨?_, ?_, ?_, ?_, ?_, ?_, ?_⟩, by rw [hsession]⟩
  · rw [hsession]
    exact h.linkage
  · rw [hsession]
    exact h.conduct
  · rw [hsession]
    exact h.alive
  · rw [hsession]
    exact h.eof
  · rw [houtput]
    exact h.feed
  · rw [Stage.before, hsession]
    exact h.before
  · rw [hsession]
    exact h.decoder

variable [Moment T]

theorem after {i : Instant T Company} (h : Hears awaited hookError c [] text d i.world) (due : T) (hne : bytes ≠ [])
    (hd : d.feed bytes = some (more, d')) :
    let k := i.after (setting awaited hookError).life ⟨due, [.feed bytes]⟩
    Hears awaited hookError c [] (c.kept (text ++ more)) d' k.world ∧ k.world.session.stirred = true := by
  obtain ⟨hok, hfed⟩ := h.calm.fed bytes
  have hmoved : (setting awaited hookError).life.moved (Moment.later i.now due) [.feed bytes] i.world.calm =
      ((Cue.feed bytes).move.make i.world.calm).2 := by
    simp only [Life.moved, Setting.life, Stage.lifeWith, setting]
    split <;> simp_all
  obtain ⟨hread, hstirred⟩ := hfed.runReader (Moment.later i.now due) hne hd
  obtain ⟨hwaited, hkept⟩ := hread.runWaiter
  simp only [Instant.after, hmoved]
  exact ⟨hwaited, hkept.trans hstirred⟩

/-- Nothing comes in by itself. -/
theorem next_nothing {i : Instant T Company} [Moment.Exact T] (h : Hears awaited hookError c [] text d i.world)
    {deadline : T} (hi : i.now ≤ deadline) (agenda : List (Appointment T Cue)) :
    let life := (setting awaited hookError).life
    ∃ st, Hears awaited hookError c [] text d st ∧
      Instant.next life deadline (⟨i.now, []⟩ :: agenda) i = Instant.next life deadline agenda ⟨i.now, st⟩ := by
  intro life
  obtain ⟨hread, hcalm⟩ := h.calm.runReader_nil i.now
  obtain ⟨hwaited, hkept⟩ := hread.runWaiter
  have hunstirred : (life.settle i.now i.world.calm).session.stirred = false := hkept.trans hcalm
  refine ⟨_, hwaited, ?_⟩
  simp only [Instant.next, if_pos hi, Instant.after_nothing]
  rw [if_neg (by rw [hunstirred]; simp)]
  rfl

end Hears

end Company

/-! ## Deliveries -/

namespace Rehearsal

variable [Moment T]

/-- Pieces of output that come in one after the other from `start` on, the next always before an interval is over. -/
structure Delivery (T : Type) [Moment T] (interval start : T) where
  first : T × List UInt8
  more : List (T × List UInt8)
  start_le : start ≤ first.1
  nonempty : ∀ p ∈ first :: more, p.2 ≠ []
  gaps : (first :: more).IsChain fun p q => p.1 ≤ q.1 ∧ q.1 < p.1 + interval

/-- What is to happen for some pieces to come in. -/
def feeds (pieces : List (T × List UInt8)) : List (Appointment T Cue) := pieces.map fun p => ⟨p.1, [.feed p.2]⟩

theorem le_getLastD [Moment.Exact T] {interval : T} {p : T × List UInt8} {ps : List (T × List UInt8)}
    (h : (p :: ps).IsChain fun p q => p.1 ≤ q.1 ∧ q.1 < p.1 + interval) : p.1 ≤ (ps.getLastD p).1 := by
  induction ps generalizing p with
  | nil => exact Moment.Exact.le_refl _
  | cons q ps ih =>
    obtain ⟨⟨hle, -⟩, hrest⟩ := List.isChain_cons_cons.1 h
    rw [List.getLastD_cons]
    exact Moment.Exact.le_trans hle (ih hrest)

namespace Delivery

variable {interval start : T} (b : Delivery T interval start)

def agenda : List (Appointment T Cue) := feeds (b.first :: b.more)

/-- When the last piece comes in. -/
def last : T := (b.more.getLastD b.first).1

def bytes : List UInt8 := (b.first :: b.more).flatMap (·.2)

/-- All of it in one piece, at the time of the last. -/
def whole [Moment.Exact T] : Delivery T interval start where
  first := (b.last, b.bytes)
  more := []
  start_le := Moment.Exact.le_trans b.start_le (le_getLastD b.gaps)
  nonempty := by
    intro p hp
    obtain rfl := List.mem_singleton.1 hp
    simp [bytes, b.nonempty b.first List.mem_cons_self]
  gaps := .singleton _

end Delivery

variable [Moment.Exact T] {awaited : Bool} {hookError : Option (Option Failure)} {c : Conduct T} {d d' : Decoder}

omit [Moment.Exact T] in
theorem next_feeds {life : Life T (Stage T Company) Cue} {deadline : T} {p : T × List UInt8} (hp : p.1 ≤ deadline)
    {ps : List (T × List UInt8)} {later : List (Appointment T Cue)} {i : Instant T Company}
    (hstirred : (i.after life ⟨p.1, [.feed p.2]⟩).world.session.stirred = true) :
    Instant.next life deadline (feeds (p :: ps) ++ later) i =
      some (feeds ps ++ later, i.after life ⟨p.1, [.feed p.2]⟩) := by
  simp only [feeds, List.map_cons, List.cons_append, Instant.next, if_pos hp, if_pos hstirred]

/-- The pieces come in as a burst, and in the end their text is in the buffer. -/
theorem burst_of_pieces {text more : List Char} {interval deadline : T} {p : T × List UInt8}
    {ps : List (T × List UInt8)} {later : List (Appointment T Cue)} {i : Instant T Company}
    (hgaps : (p :: ps).IsChain fun p q => p.1 ≤ q.1 ∧ q.1 < p.1 + interval) (hne : ∀ q ∈ p :: ps, q.2 ≠ [])
    (hi : i.now ≤ p.1) (hp : p.1 ≤ deadline) (h : Company.Hears awaited hookError c [] text d i.world)
    (hd : d.feed ((p :: ps).flatMap (·.2)) = some (more, d'))
    (hlater : ∀ a ∈ later, (ps.getLastD p).1 + interval < a.due) :
    let life := (Company.setting awaited hookError).life
    ∃ k j, Instant.next life deadline (feeds (p :: ps) ++ later) i = some (feeds ps ++ later, k) ∧
      k.world.session.eof = false ∧ Instant.Burst life interval (feeds ps ++ later) k j ∧
        j.now = (ps.getLastD p).1 ∧ Company.Hears awaited hookError c [] (c.kept (text ++ more)) d' j.world := by
  intro life
  induction ps generalizing p i text d more deadline with
  | nil =>
    have hnow : (i.after life ⟨p.1, [.feed p.2]⟩).now = p.1 := Moment.Exact.later_eq_right hi
    obtain ⟨hears, hstirred⟩ := h.after p.1 (hne p List.mem_cons_self) (by simpa using hd)
    refine ⟨_, _, next_feeds hp hstirred, hears.eof, .quiet ?_, hnow, hears⟩
    cases later with
    | nil => rfl
    | cons a later =>
      have hlate := hlater a List.mem_cons_self
      rw [hnow]
      exact if_neg fun hle => Moment.Exact.not_lt hle hlate
  | cons q ps ih =>
    have hnow : (i.after life ⟨p.1, [.feed p.2]⟩).now = p.1 := Moment.Exact.later_eq_right hi
    obtain ⟨⟨hpq, hgap⟩, hrest⟩ := List.isChain_cons_cons.1 hgaps
    -- The decoder takes the first piece, and then the others.
    rw [List.flatMap_cons, Decoder.feed_append] at hd
    obtain ⟨⟨text₁, d₁⟩, hfirst, hmap⟩ := Option.bind_eq_some_iff.1 hd
    obtain ⟨⟨text₂, d₂⟩, hothers, heq⟩ := Option.map_eq_some_iff.1 hmap
    obtain ⟨rfl, rfl⟩ := Prod.mk.inj heq
    obtain ⟨hears, hstirred⟩ := h.after p.1 (hne p List.mem_cons_self) hfirst
    obtain ⟨k, j, hnext', hopen, hburst, hj, hall⟩ := ih hrest
      (fun q hq => hne q (List.mem_cons_of_mem p hq)) (by rw [hnow]; exact hpq) (Moment.Exact.le_of_lt hgap) hears hothers
      (by rwa [List.getLastD_cons] at hlater)
    refine ⟨_, j, next_feeds hp hstirred, hears.eof, .more (by rw [hnow]; exact hnext') hopen hburst, ?_, ?_⟩
    · rw [hj, List.getLastD_cons]
    · rwa [Conduct.kept_append, List.append_assoc] at hall

/-- The answer of a call to a delivery. -/
theorem expectAny_delivery {s : Scene T (Stage T Company) Cue} {targets : List Target} {patterns : List Pattern}
    {text more : List Char} {f : Finding} (h : Company.Hears awaited hookError c [] text d s.world)
    (hpartial : c.partialMatch = false) (hinterval : 0 < c.checkInterval)
    (htargets : Target.compileAll c.engine targets = .ok patterns) (limit : Option (Span T))
    (hnone : Finding.search patterns text.toArray = none) (b : Delivery T c.checkInterval s.now)
    (hdeadline : b.last + c.checkInterval ≤ s.now + (limit.getD s.world.session.timeout).length)
    (hmore : d.feed b.bytes = some (more, d'))
    (hfound : Finding.search patterns (c.kept (text ++ more)).toArray = some f) {later : List (Appointment T Cue)}
    (hlater : ∀ a ∈ later, b.last + c.checkInterval < a.due) :
    let call := Stage.expectAny life targets limit { s with agenda := b.agenda ++ later }
    let taken := (s.world.holding (c.kept (text ++ more))).consume f (b.last + c.checkInterval - s.now)
    (call.1, call.2.now, call.2.world.before) = (.ok taken.1, b.last + c.checkInterval, taken.2.before) := by
  rw [life_eq awaited hookError]
  have hfirst : b.first.1 ≤ s.now + (limit.getD s.world.session.timeout).length := by
    have hlast := Moment.Exact.le_add (Moment.Exact.le_of_lt hinterval) b.last
    exact Moment.Exact.le_trans (le_getLastD b.gaps) (Moment.Exact.le_trans hlast hdeadline)
  have hnow := Moment.Exact.le_trans b.start_le hfirst
  obtain ⟨st, hst, hnothing⟩ := h.next_nothing (i := ⟨s.now, s.world⟩) hnow (b.agenda ++ later)
  obtain ⟨k, j, hnext, hopen, hburst, hj, hall⟩ :=
    burst_of_pieces (i := ⟨s.now, st⟩) b.gaps b.nonempty b.start_le hfirst hst hmore hlater
  have hbuffer : j.world.session.buffer = (c.kept (text ++ more)).toArray := by
    rw [← hall.before]
    exact (Array.toArray_toList ..).symm
  have hlast : j.now = b.last := hj
  have hsearch : Finding.search patterns s.world.session.buffer = none := by
    rw [← h.before] at hnone
    simpa [Stage.before] using hnone
  rw [← h.conduct] at htargets
  obtain ⟨hanswer, htime, hbefore⟩ := (Company.restful awaited hookError c).expectAny_burst
    (s := { s with agenda := b.agenda ++ later }) (fun st hst => hst.2) hpartial hinterval htargets h.linked h.eof
    hsearch (hnothing.trans hnext) hopen hburst (hlast ▸ hdeadline) (hbuffer ▸ hfound)
  have hheld : j.world.session.buffer = (s.world.holding (c.kept (text ++ more))).session.buffer := hbuffer
  obtain ⟨htaken, hrest⟩ := Stage.consume_congr hheld f
    (b.last + c.checkInterval - s.now)
  simp only [hanswer, htime, hbefore, hlast, htaken, hrest]

/-- **Bursts count as one.** If nothing matches when a call begins, and then pieces of output come in, each within an
interval after the one before, and after them nothing for an interval, then it is the text after the last piece
that the call looks at, an interval later. Whatever the pieces are, and whether or not the text has matched in
between, the answer, its time and what is left in the buffer are as if all had come in with the last piece. -/
theorem burst_unseen {s : Scene T (Stage T Company) Cue} {targets : List Target} {patterns : List Pattern}
    {text more : List Char} {f : Finding} (h : Company.Hears awaited hookError c [] text d s.world)
    (hpartial : c.partialMatch = false) (hinterval : 0 < c.checkInterval)
    (htargets : Target.compileAll c.engine targets = .ok patterns) (limit : Option (Span T))
    (hnone : Finding.search patterns text.toArray = none) (b : Delivery T c.checkInterval s.now)
    (hdeadline : b.last + c.checkInterval ≤ s.now + (limit.getD s.world.session.timeout).length)
    (hmore : d.feed b.bytes = some (more, d'))
    (hfound : Finding.search patterns (c.kept (text ++ more)).toArray = some f) {later later' : List (Appointment T Cue)}
    (hlater : ∀ a ∈ later ++ later', b.last + c.checkInterval < a.due) :
    let answer (agenda : List (Appointment T Cue)) :=
      let call := Stage.expectAny life targets limit { s with agenda }
      (call.1, call.2.now, call.2.world.before)
    let taken := (s.world.holding (c.kept (text ++ more))).consume f (b.last + c.checkInterval - s.now)
    answer (b.agenda ++ later) = (.ok taken.1, b.last + c.checkInterval, taken.2.before) ∧
      answer (b.whole.agenda ++ later') = answer (b.agenda ++ later) := by
  intro answer taken
  have hpieces : answer (b.agenda ++ later) = (.ok taken.1, b.last + c.checkInterval, taken.2.before) :=
    expectAny_delivery h hpartial hinterval htargets limit hnone b hdeadline hmore hfound
      fun a ha => hlater a (List.mem_append_left _ ha)
  have hwhole : answer (b.whole.agenda ++ later') = (.ok taken.1, b.last + c.checkInterval, taken.2.before) := by
    have hbytes : b.whole.bytes = b.bytes := List.append_nil _
    exact expectAny_delivery h hpartial hinterval htargets limit hnone b.whole hdeadline (by rw [hbytes]; exact hmore)
      hfound fun a ha => hlater a (List.mem_append_right _ ha)
  exact ⟨hpieces, hwhole.trans hpieces.symm⟩

/-- A session that takes a match after three ticks of quiet. -/
def patient : Scene Int (Stage Int Company) Cue :=
  (Company.setting false none).opened
    { verbose := false, encoding := .utf8, bufferSize := 1, bufferSize_pos := Nat.zero_lt_one, partialMatch := false,
      checkInterval := 3, bufferLimit := none, engine }
    ⟨10, .none⟩ 0 [] { process := {} }

/-- Three letters, two ticks apart. -/
def drip : Delivery Int patient.world.session.conduct.checkInterval patient.now where
  first := (1, [0x61])
  more := [(3, [0x61]), (5, [0x62])]
  start_le := by decide
  nonempty := by decide
  gaps := .cons_cons (by decide) (.cons_cons (by decide) (.singleton _))

theorem drip_taken_whole :
    let call := Stage.expectAny life [.source "a+"] none { patient with agenda := drip.agenda ++ [] }
    Company.Hears false none patient.world.session.conduct [] [] (.ofEncoding .utf8) patient.world ∧
      patient.world.session.conduct.partialMatch = false ∧ 0 < patient.world.session.conduct.checkInterval ∧
      drip.last + 3 ≤ patient.now + patient.world.session.timeout.length ∧ call.1.isOk ∧ call.2.now = 8 := by
  intro call
  have hears : Company.Hears false none patient.world.session.conduct [] [] (.ofEncoding .utf8) patient.world :=
    ⟨rfl, rfl, rfl, rfl, ⟨{}, rfl, rfl, rfl⟩, rfl, rfl⟩
  obtain ⟨patterns, htargets⟩ : ∃ patterns, Target.compileAll engine [.source "a+"] = .ok patterns := ⟨_, rfl⟩
  have hempty : ((Target.compileAll engine [.source "a+"]).toOption.bind fun patterns =>
      Finding.search patterns ([] : List Char).toArray).isNone := by
    decide +kernel
  have hsome : ((Target.compileAll engine [.source "a+"]).toOption.bind fun patterns =>
      Finding.search patterns (patient.world.session.conduct.kept ([] ++ ['a', 'a', 'b'])).toArray).isSome := by
    decide +kernel
  rw [htargets] at hsome hempty
  obtain ⟨f, hfound⟩ := Option.isSome_iff_exists.1 hsome
  have hbytes : (Decoder.ofEncoding .utf8).feed drip.bytes = some (['a', 'a', 'b'], .ofEncoding .utf8) := by
    decide +kernel
  obtain ⟨hanswer, -⟩ := burst_unseen hears rfl (by decide) htargets none (Option.isNone_iff_eq_none.1 hempty) drip
    (by decide) hbytes hfound fun a (ha : a ∈ ([] ++ [] : List (Appointment Int Cue))) => by simp at ha
  simp only [Prod.mk.injEq] at hanswer
  obtain ⟨htaken, htime, -⟩ := hanswer
  refine ⟨hears, rfl, by decide, by decide, ?_, ?_⟩
  · simp only [call, htaken]
    rfl
  · simp only [call, htime]
    rfl

end Rehearsal

end Dialogue
