import Dialogue.Proofs.Intake
/-!
# Conservation of output

What a decoder returns goes into the buffer, and leaves it in one of two ways: as the output of a match,
or dropped above the limit, which is on record. `Accounted` is kept by everything that can happen, so it
holds after every run.
-/

namespace Dialogue

/-- A stretch of text that has left the buffer. -/
inductive Segment where
  /-- Consumed by a match. -/
  | output (text : List Char)
  /-- Dropped above the limit. -/
  | dropped (text : List Char)

namespace Segment

def text : Segment → List Char
  | output text | dropped text => text

def output? : Segment → Option (List Char)
  | output text => some text
  | dropped _ => none

/-- What is on record of it: nothing of what a match consumed but that it matched, and the length of what
was dropped. -/
def entry : Segment → Option Nat
  | output _ => none
  | dropped text => some text.length

end Segment

variable {T σ M : Type}

/-! ## Trimming -/

/-- What trimming a text takes off it. -/
def Conduct.trimmings (c : Conduct T) (text : List Char) : List Segment :=
  if c.surplus text.length = 0 then [] else [.dropped (text.take (c.surplus text.length))]

namespace Conduct

variable (c : Conduct T) (text : List Char)

theorem trimmings_append :
    (c.trimmings text).flatMap Segment.text ++ text.drop (c.surplus text.length) = text := by
  unfold trimmings
  split
  · next h => simp [h]
  · simp [Segment.text]

theorem trimmings_outputs : (c.trimmings text).filterMap Segment.output? = [] := by
  unfold trimmings
  split <;> simp [Segment.output?]

theorem trimmings_entries :
    (Stage.trimRecords c text.length).filterMap Record.removal? = (c.trimmings text).map Segment.entry := by
  unfold trimmings Stage.trimRecords
  split
  · rfl
  · simp [Record.removal?, Segment.entry, c.surplus_le text.length]

end Conduct

/-! ## The books -/

/-- The books of a session on tape that began with the log `log₀` and has made the matches `ms`. -/
structure Accounted (log₀ : List Record) (ms : List (Match T)) (st : Stage T (Taped σ M)) : Prop where
  decoder : st.intake.decoder = st.session.decoder
  ended : st.intake.ended = (st.session.reader == .ended)
  eof : st.session.eof = (st.intake.ended && st.session.decoder.finish.isSome)
  closings : st.process.closings = if st.session.eof then 1 else 0
  conserved : ∃ segments : List Segment,
    st.intake.received = segments.flatMap Segment.text ++ st.before ∧
      segments.filterMap Segment.output? = ms.map Match.output ∧
        ∃ records, st.log = log₀ ++ records ∧
          records.filterMap Record.removal? = segments.map Segment.entry

namespace Accounted

variable {S : Setting σ M} {log₀ : List Record} {ms : List (Match T)} {st st' : Stage T (Taped σ M)}

theorem aside (h : Accounted log₀ ms st) (ha : Aside S.taped st st') : Accounted log₀ ms st' := by
  obtain ⟨hchunks, hclosings, -⟩ := ha.touch.tape
  obtain ⟨closed, channel, waiter, hs⟩ := ha.session
  obtain ⟨records, hlog, hquiet⟩ := ha.log
  have hintake : st'.intake = st.intake := by simp only [Stage.intake, hs, hchunks]
  obtain ⟨segments, hreceived, houtputs, recorded, hst, hentries⟩ := h.conserved
  constructor
  · rw [hintake, h.decoder, hs]
  · rw [hintake, h.ended, hs]
  · rw [hintake, hs]
    exact h.eof
  · rw [hclosings, h.closings, hs]
  · refine ⟨segments, ?_, houtputs, recorded ++ records, ?_, ?_⟩
    · rw [hintake, hreceived, Stage.before, Stage.before, hs]
    · rw [hlog, hst, List.append_assoc]
    · rw [List.filterMap_append, hquiet, hentries, List.append_nil]

theorem not_ended (h : Accounted log₀ ms st) (halive : st.session.reader.isAlive) : st.intake.ended = false := by
  rw [h.ended]
  cases hr : st.session.reader <;> simp [hr, Task.isAlive] at halive ⊢

theorem not_eof (h : Accounted log₀ ms st) (hopen : st.intake.ended = false) : st.session.eof = false := by
  rw [h.eof, hopen, Bool.false_and]

theorem no_tail (_ : Accounted log₀ ms st) (hopen : st.intake.ended = false) : st.intake.tail = [] :=
  (Intake.tail_eq _ _).trans (if_neg (Bool.eq_false_iff.1 hopen))

theorem closings_readChunk (hlink : st.session.link = S.taped.link) :
    st.readChunk.2.process.closings = st.process.closings := by
  simp only [Stage.readChunk, Stage.act, Desk.act, hlink]
  rfl

theorem pause (h : Accounted log₀ ms st) (hlink : st.session.link = S.taped.link)
    (halive : st.session.reader.isAlive) (hchunk : st.readChunk.1 = .blocked) :
    Accounted log₀ ms { st.readChunk.2 with session := { st.session with reader := .waiting } } := by
  have hintake : st.readChunk.2.intake = st.intake := by
    rw [Stage.intake_readChunk hlink, hchunk, Intake.take_blocked]
  refine ⟨?_, ?_, ?_, ?_, ?_⟩
  · exact (congrArg Intake.decoder hintake).trans h.decoder
  · exact (congrArg Intake.ended hintake).trans (h.not_ended halive)
  · exact h.eof.trans (by rw [← hintake]; rfl)
  · exact (closings_readChunk hlink).trans h.closings
  · obtain ⟨segments, hreceived, hrest⟩ := h.conserved
    exact ⟨segments, (congrArg Intake.received hintake).trans hreceived, hrest⟩

theorem take (h : Accounted log₀ ms st) (hlink : st.session.link = S.taped.link)
    (halive : st.session.reader.isAlive) {bytes : List UInt8} (hchunk : st.readChunk.1 = .bytes bytes)
    (hne : bytes ≠ []) {text : List Char} {decoder : Decoder}
    (hf : st.session.decoder.feed bytes = some (text, decoder)) (now : T) :
    Accounted log₀ ms (st.readChunk.2.takeIn now text decoder) := by
  have hopen := h.not_ended halive
  have hintake : (st.readChunk.2.takeIn now text decoder).intake =
      { st.intake with bytes := st.intake.bytes ++ bytes, text := st.intake.text ++ text, decoder } := by
    rw [← Intake.take_bytes hopen hne (by rw [h.decoder, hf]), ← hchunk, ← Stage.intake_readChunk hlink,
      Stage.takeIn_eq]
    rfl
  constructor
  · rw [hintake, Stage.takeIn_eq]
  · rw [hintake, Stage.takeIn_eq]
    exact h.ended
  · rw [hintake, Stage.takeIn_eq, hopen, Bool.false_and]
    exact h.not_eof hopen
  · rw [Stage.takeIn_eq]
    exact (closings_readChunk hlink).trans h.closings
  · obtain ⟨segments, hreceived, houtputs, recorded, hlog, hentries⟩ := h.conserved
    -- The reader lives, so there is no tail yet, and the new text stands right behind the buffer.
    have hnow : (st.intake.text ++ text) ++ st.intake.tail =
        segments.flatMap Segment.text ++ (st.before ++ text) := by
      rw [← List.append_assoc, ← hreceived, Intake.received, h.no_tail hopen, List.append_nil,
        List.append_nil]
    rw [hintake, Stage.takeIn_eq]
    refine ⟨segments ++ st.session.conduct.trimmings (st.before ++ text), ?_, ?_,
      recorded ++ ((if st.session.conduct.verbose then [.received text] else []) ++
        Stage.trimRecords st.session.conduct (st.before ++ text).length), ?_, ?_⟩
    · refine hnow.trans ?_
      rw [List.flatMap_append, List.append_assoc]
      exact congrArg (segments.flatMap Segment.text ++ ·)
        (st.session.conduct.trimmings_append (st.before ++ text)).symm
    · rw [List.filterMap_append, Conduct.trimmings_outputs, List.append_nil, houtputs]
    · exact (congrArg (· ++ _) hlog).trans (List.append_assoc ..)
    · rw [List.filterMap_append, List.filterMap_append, hentries, List.map_append,
        ← Conduct.trimmings_entries]
      split <;> simp [Record.removal?]

theorem stop (h : Accounted log₀ ms st) (hlink : st.session.link = S.taped.link)
    (halive : st.session.reader.isAlive) (hstops : st.readChunk.1.stops st.session.decoder) {tail : List Char}
    (hf : st.session.decoder.finish = some tail) : Accounted log₀ ms (st.readChunk.2.ended tail) := by
  have hopen := h.not_ended halive
  have hprocess : (st.readChunk.2.ended tail).process.chunks = st.readChunk.2.process.chunks ∧
      (st.readChunk.2.ended tail).process.closings = st.readChunk.2.process.closings + 1 := by
    simp only [Stage.ended, Stage.readChunk_session, hlink]
    exact ⟨rfl, rfl⟩
  have hintake : (st.readChunk.2.ended tail).intake = { st.intake with ended := true, tail } := by
    have htake : st.readChunk.2.intake = { st.intake with ended := true, tail } := by
      rw [Stage.intake_readChunk hlink, Intake.take_stops hopen (by rw [h.decoder]; exact hstops), Intake.finish,
        h.decoder, hf, Option.getD_some, ← h.decoder]
    rw [← htake]
    exact congrArg (Intake.ofChunks _) hprocess.1
  constructor
  · rw [hintake]
    exact h.decoder
  · rw [hintake]
    rfl
  · rw [hintake]
    show true = (true && st.session.decoder.finish.isSome)
    rw [hf]
    rfl
  · rw [hprocess.2, closings_readChunk hlink, h.closings, h.not_eof hopen]
    rfl
  · obtain ⟨segments, hreceived, hrest⟩ := h.conserved
    refine ⟨segments, ?_, hrest⟩
    rw [Intake.received, h.no_tail hopen, List.append_nil] at hreceived
    have hbefore : (st.readChunk.2.ended tail).before = st.before ++ tail := by
      simp [Stage.before, Stage.ended, Stage.readChunk_session]
    rw [hintake, hbefore, ← List.append_assoc, ← hreceived]
    rfl

theorem fail (h : Accounted log₀ ms st) (hlink : st.session.link = S.taped.link)
    (halive : st.session.reader.isAlive) (hstops : st.readChunk.1.stops st.session.decoder)
    (hf : st.session.decoder.finish = none) :
    Accounted log₀ ms { st.readChunk.2 with session := { st.session with reader := .ended } } := by
  have hopen := h.not_ended halive
  have hintake : st.readChunk.2.intake = { st.intake with ended := true } := by
    rw [Stage.intake_readChunk hlink, Intake.take_stops hopen (by rw [h.decoder]; exact hstops), Intake.finish,
      h.decoder, hf, Option.getD_none, ← h.no_tail hopen, ← h.decoder]
  constructor
  · exact (congrArg Intake.decoder hintake).trans h.decoder
  · exact congrArg Intake.ended hintake
  · show st.session.eof = (_ && st.session.decoder.finish.isSome)
    rw [h.not_eof hopen, hf, Option.isSome_none, Bool.and_false]
  · exact (closings_readChunk hlink).trans h.closings
  · obtain ⟨segments, hreceived, hrest⟩ := h.conserved
    exact ⟨segments, (congrArg Intake.received hintake).trans hreceived, hrest⟩

theorem consume [Moment T] (h : Accounted log₀ ms st) (f : Finding) (elapsed : T) :
    Accounted log₀ (ms ++ [(st.consume f elapsed).1]) (st.consume f elapsed).2 := by
  refine ⟨h.decoder, h.ended, h.eof, h.closings, ?_⟩
  obtain ⟨segments, hreceived, houtputs, recorded, hlog, hentries⟩ := h.conserved
  refine ⟨segments ++ [.output (st.consume f elapsed).1.output], ?_, ?_,
    recorded ++ [.matched f.pattern.source (Moment.brief elapsed)], ?_, ?_⟩
  · rw [List.flatMap_append, List.append_assoc]
    exact hreceived.trans (by simp [st.before_consume f elapsed, Segment.text])
  · simp [houtputs, Segment.output?]
  · exact (congrArg (· ++ _) hlog).trans (List.append_assoc ..)
  · simp [hentries, Record.removal?, Segment.entry]

theorem ongoing (now : T) : Ongoing S.taped now (Accounted log₀ ms) where
  aside h ha := h.aside ha
  pause hlink h halive hchunk := h.pause hlink halive hchunk
  take hlink h halive hchunk hne hf := h.take hlink halive hchunk hne hf now
  stop hlink h halive hstops hf := h.stop hlink halive hstops hf
  fail hlink h halive hstops hf := h.fail hlink halive hstops hf

theorem steady [Moment T] : Steady S.taped (fun (_ : T) => Accounted log₀) where
  ongoing now _ := ongoing now
  pass _ h := h
  calm h := ⟨h.decoder, h.ended, h.eof, h.closings, h.conserved⟩
  consume f elapsed h := h.consume f elapsed

/-- A session that begins has nothing on its books. -/
theorem opened (c : Conduct T) (timeout : Span T) (now : T) (agenda : List (Appointment T M)) (d : Desk σ) :
    Accounted d.log [] (S.taped.opened c timeout now agenda d.onTape).world := by
  obtain ⟨starts, reader, waiter, heq, hreader⟩ := S.taped.opened_world c timeout now agenda d.onTape
  rw [heq]
  refine ⟨rfl, ?_, rfl, rfl, [], rfl, rfl, [], (List.append_nil _).symm, rfl⟩
  rcases hreader with rfl | rfl <;> rfl

end Accounted

variable [Moment T]

/-- **Output is conserved.** Whatever is done and whatever comes of it, the text that the decoder has
returned is made of segments and of what is still in the buffer, in order. A segment is the output of a
match, of each match of the run exactly one, or it was dropped and its length is on record; what is on
record of matches and drops is what the segments say, in the same order. What the decoder has returned is
read off a tape of the run, which changes nothing. -/
theorem output_conserved (S : Setting σ M) (c : Conduct T) (timeout : Span T) (now : T)
    (agenda : List (Appointment T M)) (d : Desk σ) (deeds : List (Deed T M)) :
    let start := S.opened c timeout now agenda d
    let taped := S.taped.opened c timeout now agenda d.onTape
    let last := (Deed.run S.life deeds start).2
    let tape := (Deed.run S.taped.life deeds taped).2.world.process
    ((Deed.run S.taped.life deeds taped).1 = (Deed.run S.life deeds start).1 ∧
        tape.process = last.world.process) ∧
      ∃ segments : List Segment,
        (Intake.ofChunks c.encoding tape.chunks).received =
            segments.flatMap Segment.text ++ last.world.before ∧
          segments.filterMap Segment.output? = (Deed.allTaken S.life deeds start).map Match.output ∧
            ∃ records, last.world.log = d.log ++ records ∧
              records.filterMap Record.removal? = segments.map Segment.entry := by
  intro start taped last tape
  obtain ⟨⟨hanswers, hpair⟩, htaken⟩ := OffTape.run (S := S) (c := c) timeout now agenda d deeds
  obtain ⟨-, hbooks⟩ := Accounted.steady.run (Accounted.opened c timeout now agenda d) deeds
  obtain ⟨segments, hreceived, houtputs, records, hlog, hentries⟩ := hbooks.conserved
  have hbefore : last.world.before = (Deed.run S.taped.life deeds taped).2.world.before :=
    congrArg Array.toList hpair.world.alike.buffer
  refine ⟨⟨hanswers.symm, hpair.world.process.symm⟩, segments, ?_, ?_, records, ?_, hentries⟩
  · rw [hbefore, ← hreceived, Stage.intake, hpair.world.conduct]
  · rw [houtputs, ← htaken]
  · rw [← hlog, hpair.world.log]

end Dialogue
