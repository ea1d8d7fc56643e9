import Dialogue.Proofs.Conservation
import Dialogue.Proofs.Decoding
import Dialogue.Proofs.Ending
import Dialogue.Proofs.Resting
/-!
# The end of the output

When the reader ends, whatever ends it, it publishes the end of the output, escapes what the decoder still
keeps, and closes the stream, but for one kind of stream: one that was to tell its byte order and has ended,
or failed, within what could be its first character. Its decoder cannot be finished, and nothing is
published (`Rehearsal.unmarked_half_lost`).
-/

namespace Dialogue

variable {T σ M : Type}

/-- The end of the stream cannot be told: neither its byte order nor a character was seen. -/
def Intake.Lost (e : Encoding) (i : Intake) : Prop := e = .utf16 ∧ Encoding.Utf16.HalfStart i.bytes

instance (e : Encoding) (i : Intake) : Decidable (i.Lost e) := inferInstanceAs (Decidable (_ ∧ _))

/-- What has become of the output once the reader has ended. -/
theorem Accounted.of_ended {log₀ : List Record} {ms : List (Match T)} {st : Stage T (Taped σ M)}
    (h : Accounted log₀ ms st) (hended : st.session.reader = .ended) :
    if st.intake.Lost st.session.conduct.encoding then
      st.session.eof = false ∧ st.process.closings = 0 ∧ st.intake.tail = []
    else
      st.session.eof = true ∧ st.process.closings = 1 ∧
        st.intake.tail = Encoding.escapes st.intake.decoder.pending := by
  have hdone : st.intake.ended = true := by rw [h.ended, hended]; rfl
  have htail := Intake.tail_eq st.session.conduct.encoding st.process.chunks
  rw [← Stage.intake, if_pos hdone] at htail
  have hlost : st.intake.decoder.finish = none ↔ st.intake.Lost st.session.conduct.encoding :=
    Intake.finish_eq_none_iff
  have heof := h.eof
  rw [hdone, Bool.true_and, ← h.decoder] at heof
  split
  · next hl =>
    rw [hlost.2 hl] at heof htail
    exact ⟨heof, by rw [h.closings, heof]; rfl, htail⟩
  · next hl =>
    have hsome : st.intake.decoder.finish.isSome := Option.isSome_iff_ne_none.2 (mt hlost.1 hl)
    rw [Decoder.finish_of_isSome hsome] at heof htail
    exact ⟨heof, by rw [h.closings, heof]; rfl, htail⟩

/-- What can be told of a run from its tape. -/
theorem OffTape.books [Moment T] (S : Setting σ M) (c : Conduct T) (timeout : Span T) (now : T)
    (agenda : List (Appointment T M)) (d : Desk σ) (deeds : List (Deed T M)) :
    let start := S.opened c timeout now agenda d
    let last := (Deed.run S.life deeds start).2
    let tape := (Deed.run S.taped.life deeds (S.taped.opened c timeout now agenda d.onTape)).2.world.process
    let intake := Intake.ofChunks c.encoding tape.chunks
    tape.process = last.world.process ∧
      (∃ segments : List Segment, intake.received = segments.flatMap Segment.text ++ last.world.before ∧
        segments.filterMap Segment.output? = (Deed.allTaken S.life deeds start).map Match.output) ∧
      (last.world.session.reader = .ended →
        if intake.Lost c.encoding then
          last.world.session.eof = false ∧ tape.closings = 0 ∧ intake.tail = []
        else
          last.world.session.eof = true ∧ tape.closings = 1 ∧
            intake.tail = Encoding.escapes intake.decoder.pending) := by
  intro start last tape intake
  obtain ⟨⟨-, hpair⟩, htaken⟩ := OffTape.run (S := S) (c := c) timeout now agenda d deeds
  obtain ⟨-, hbooks⟩ := Accounted.steady.run (Accounted.opened c timeout now agenda d) deeds
  have hoff := hpair.world
  have hintake : (Deed.run S.taped.life deeds (S.taped.opened c timeout now agenda d.onTape)).2.world.intake =
      intake := by rw [Stage.intake, hoff.conduct]
  have hended := hbooks.of_ended
  rw [hintake, hoff.conduct] at hended
  obtain ⟨segments, hreceived, houtputs, -⟩ := hbooks.conserved
  refine ⟨hoff.process.symm, ⟨segments, ?_, ?_⟩, ?_⟩
  · rw [← hintake, hreceived, Stage.before, Stage.before, hoff.session]
  · rw [houtputs, htaken]
  · intro hreader
    have hsession := hoff.session
    rw [hsession] at hreader ⊢
    exact hended hreader

variable [Moment T]

theorem Company.prompt_steady {awaited : Bool} {hookError : Option (Option Failure)} (c : Conduct T) :
    Steady (setting awaited hookError) fun (_ : T) _ st => Prompt c st where
  ongoing now _ := prompt_ongoing c now
  pass _ h := h
  calm h := h
  consume _ _ h := h

namespace Rehearsal

/-- **The end is published.** Once the reader has ended, for whatever reason, the end of the output is known
and the stream was closed, once; what the decoder still kept is part of the text, as escapes. A call that is
made then ends at once, with a match or word of the end, and so does one that waited: its time is never up.
A stream that is lost is the exception: nothing of its end is published, and it is not closed. -/
theorem end_published (awaited : Bool) (hookError : Option (Option Failure)) (c : Conduct T) (timeout : Span T)
    (now : T) (agenda : List (Appointment T Cue)) (d : Desk Company) (deeds : List (Deed T Cue)) :
    let S := Company.setting awaited hookError
    let start := S.opened c timeout now agenda d
    let last (deeds : List (Deed T Cue)) := (Deed.run life deeds start).2
    let tape (deeds : List (Deed T Cue)) :=
      (Deed.run S.taped.life deeds (S.taped.opened c timeout now agenda d.onTape)).2.world.process
    let intake (deeds : List (Deed T Cue)) := Intake.ofChunks c.encoding (tape deeds).chunks
    (tape deeds).process = (last deeds).world.process ∧
      (∃ segments : List Segment,
        (intake deeds).received = segments.flatMap Segment.text ++ (last deeds).world.before ∧
          segments.filterMap Segment.output? = (Deed.allTaken life deeds start).map Match.output) ∧
      ((last deeds).world.session.reader = .ended →
        if (intake deeds).Lost c.encoding then
          (last deeds).world.session.eof = false ∧ (tape deeds).closings = 0 ∧ (intake deeds).tail = []
        else
          (last deeds).world.session.eof = true ∧ (tape deeds).closings = 1 ∧
            (intake deeds).tail = Encoding.escapes (intake deeds).decoder.pending) ∧
      ∀ targets patterns limit, Target.compileAll c.engine targets = .ok patterns →
        let call := Stage.expectAny life targets limit (last deeds)
        let told := call.1.isOk ∨
          call.1 = .error (.expectEnd (some (patterns.map fun p => Value.text p.source)))
        ((last deeds).world.session.reader = .ended → ¬ (intake deeds).Lost c.encoding →
          told ∧ call.2.now = (last deeds).now) ∧
        (call.2.world.session.reader = .ended → ¬ (intake (deeds ++ [.expectAny targets limit])).Lost c.encoding →
          told ∨ call.1 = .error .blocked ∧ ¬ (Moment.Exact T ∧ d.process.lead.output.Prompt)) := by
  intro S start last tape intake
  have hlife : (life : Life T (Stage T Company) Cue) = S.life := life_eq awaited hookError
  have hbooks (deeds : List (Deed T Cue)) := OffTape.books S c timeout now agenda d deeds
  simp only [← hlife] at hbooks
  obtain ⟨hprocess, hconserved, hended⟩ := hbooks deeds
  refine ⟨hprocess, hconserved, hended, ?_⟩
  intro targets patterns limit htargets
  have hconduct : (last deeds).world.session.conduct = c := by
    have hkept := (Steady.conduct S c).run (S.opened_conduct c timeout now agenda d) deeds
    rw [← hlife] at hkept
    exact hkept.2
  rw [← hconduct] at htargets
  refine ⟨?_, ?_⟩
  · intro hreader hkept
    have heof := (if_neg hkept ▸ hended hreader).1
    exact Stage.expectAny_of_eof htargets limit heof
  · intro hreader hkept
    -- What the call has seen of the end is on the books of the run that makes the call last.
    have hlast : (Deed.run life (deeds ++ [.expectAny targets limit]) start).2 =
        (Stage.expectAny life targets limit (last deeds)).2 := by
      rw [Deed.run_append]
      rfl
    obtain ⟨-, -, hcall⟩ := hbooks (deeds ++ [.expectAny targets limit])
    rw [hlast] at hcall
    have heof := (if_neg hkept ▸ hcall hreader).1
    rcases Stage.expectAny_ends htargets limit heof with htold | hblocked
    · exact .inl htold
    · refine .inr ⟨hblocked, ?_⟩
      rintro ⟨hexact, hprompt⟩
      rw [hlife] at hblocked
      have hready := (Company.prompt_steady c).run (S := S) (Company.prompt_opened c timeout now agenda hprompt) deeds
      have htimely := Stage.Timely.steady.run (S := S) (Stage.Timely.opened c timeout now agenda d) deeds
      rw [← hlife] at hready htimely
      exact (Company.restful awaited hookError c).expectAny_ne_blocked htargets limit hready htimely.2 hblocked

/-- Reading in an encoding, one byte at a time. -/
def reading (encoding : Encoding) : Conduct Int where
  verbose := false
  encoding
  bufferSize := 1
  bufferSize_pos := Nat.zero_lt_one
  partialMatch := true
  checkInterval := 0
  bufferLimit := none
  engine

/-- A feed that is given some bytes and ends. -/
def fed (bytes : List UInt8) : List (Deed Int Cue) := [.move (.feed bytes), .move .finish, .settle]

/-- A session that has read what it was fed, with five ticks for a call. -/
def afterFeed (encoding : Encoding) (bytes : List UInt8) : Scene Int (Stage Int Company) Cue :=
  (Deed.run life (fed bytes) ((Company.setting false none).opened (reading encoding) ⟨5, .none⟩ 0 []
    { process := {} })).2

theorem half_letter_published :
    let s := afterFeed .utf8 [0x78, 0xC3]
    s.world.session.reader = .ended ∧ s.world.session.eof = true ∧ s.world.before = ['x', '\\', 'x', 'c', '3'] ∧
      (Stage.expectAny life [.source "y"] none s).2.now = s.now := by
  have hreader : (afterFeed .utf8 [0x78, 0xC3]).world.session.reader = .ended := by decide +kernel
  obtain ⟨-, -, hended, hcalls⟩ :=
    end_published false none (reading .utf8) ⟨5, .none⟩ 0 [] { process := {} } (fed [0x78, 0xC3])
  have hcall := hcalls [.source "y"] ((Target.compileAll engine [.source "y"]).toOption.getD []) none rfl
  have hkept (i : Intake) : ¬ i.Lost (reading .utf8).encoding := fun h => by cases h.1
  simp only [if_neg (hkept _)] at hended
  exact ⟨hreader, (hended hreader).1, by decide +kernel, (hcall.1 hreader (hkept _)).2⟩

/-- Half a character without a mark is lost, and a call waits for the end in vain. -/
theorem unmarked_half_lost :
    let s := afterFeed .utf16 [0x00, 0xD8]
    s.world.session.reader = .ended ∧ s.world.session.eof = false ∧ s.world.before = [] ∧
      s.world.process.lead.output.isClosed = false ∧
      (Stage.expectAny life [.source "x"] none s).1.isOk = false ∧
      (Stage.expectAny life [.source "x"] none s).2.now = s.now + 5 := by
  decide +kernel

end Rehearsal

end Dialogue
