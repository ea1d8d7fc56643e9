import Dialogue.Proofs.EndOfOutput
import Dialogue.Proofs.Reading
import Dialogue.Proofs.Streams
/-!
# Pieces do not matter

How many bytes a reader asks for in one read is not seen: two sessions that differ in nothing else answer
alike and look alike after everything that is done (`Rehearsal.chunking_unseen`). The text that has come in
is that of the bytes that were read, and at rest those are the bytes that were fed.
-/

namespace Dialogue

variable {T σ M : Type}

/-! ## What is fed and what is read -/

def Chunk.data : Chunk → List UInt8
  | bytes bs => bs
  | _ => []

/-- What a cue puts into the output. -/
def Cue.fed : Cue → List UInt8
  | feed bytes => bytes
  | _ => []

namespace Taped

/-- The bytes that were read. -/
def read (w : Taped σ M) : List UInt8 := w.chunks.flatMap Chunk.data

/-- The bytes that were fed. -/
def fed (w : Taped σ Cue) : List UInt8 := w.made.flatMap Cue.fed

end Taped

/-- The stream, which begins with some bytes, is readable as far as it was fed. -/
def Stage.Readable (initial : List UInt8) (st : Stage T (Taped Company Cue)) : Prop :=
  st.session.conduct.encoding.Readable (initial ++ st.process.fed)

/-- The books of a session that reads from a feed. -/
structure Fed (initial : List UInt8) (st : Stage T (Taped Company Cue)) : Prop where
  books : ∃ log₀ ms, Accounted log₀ ms st
  stream : ∃ f, st.process.process.lead.output = .feed f ∧ st.process.read ++ f.pending = initial ++ st.process.fed
  accepted : st.Readable initial → st.intake.bytes = st.process.read

namespace Company

variable {awaited : Bool} {hookError : Option (Option Failure)} {initial : List UInt8}

/-- A cue puts its bytes behind those that are pending. -/
theorem fed_of_move {cue : Cue} {g : Company → Except Failure Unit × List Record × Company}
    (hm : cue.move = .outside g) {c : Company} {f : Feed} (hf : c.lead.output = .feed f) :
    ∃ f', (g c).2.2.lead.output = .feed f' ∧ f'.pending = f.pending ++ cue.fed := by
  have hsame {c' : Company} (houtput : c'.lead.output = c.lead.output) :
      ∃ f', c'.lead.output = .feed f' ∧ f'.pending = f.pending ++ [] :=
    ⟨f, houtput.trans hf, (List.append_nil _).symm⟩
  cases cue with
  | session cue => simp [Cue.move] at hm
  | feed bytes =>
    obtain rfl := Move.outside.inj hm
    exact ⟨f.feed bytes, by simp [leadPart, Part.on, StandIn.feed, hf], rfl⟩
  | finish =>
    obtain rfl := Move.outside.inj hm
    exact ⟨f.finish, by simp [leadPart, Part.on, StandIn.finish, hf], (List.append_nil _).symm⟩
  | exit e =>
    obtain rfl := Move.outside.inj hm
    exact ⟨f.finish, by simp [StandIn.exit, StandIn.finish, hf], (List.append_nil _).symm⟩
  | closeOutput =>
    obtain rfl := Move.outside.inj hm
    exact ⟨f.close, by simp [leadPart, Part.on, StandIn.closeOutput, Output.close, hf], (List.append_nil _).symm⟩
  | step s => cases s <;> (obtain rfl := Move.outside.inj hm; exact hsame rfl)
  | _ =>
    obtain rfl := Move.outside.inj hm
    exact hsame rfl

/-- What is done around a reader puts into the feed what is noted, and takes nothing out of it. -/
theorem touch_fed {w w' : Taped Company Cue} (h : (setting awaited hookError).taped.Touch w w') :
    ∃ more, w'.fed = w.fed ++ more ∧ ∀ f, w.process.lead.output = .feed f →
      ∃ f', w'.process.lead.output = .feed f' ∧ f'.pending = f.pending ++ more := by
  have haside {w' : Taped Company Cue} (hmade : w'.fed = w.fed)
      (houtput : w'.process.lead.output = w.process.lead.output) :
      ∃ more, w'.fed = w.fed ++ more ∧ ∀ f, w.process.lead.output = .feed f →
        ∃ f', w'.process.lead.output = .feed f' ∧ f'.pending = f.pending ++ more :=
    ⟨[], by simp [hmade], fun f hf => ⟨f, houtput.trans hf, by simp⟩⟩
  cases h with
  | none => exact haside rfl rfl
  | write => exact haside rfl rfl
  | flush => exact haside rfl rfl
  | hangUp => cases hookError <;> exact haside rfl rfl
  | begin hw =>
    obtain ⟨wait, hwait, rfl⟩ := Option.map_eq_some_iff.1 hw
    rw [wait_eq hwait]
    exact haside rfl rfl
  | poll hw =>
    obtain ⟨wait, hwait, rfl⟩ := Option.map_eq_some_iff.1 hw
    rw [wait_eq hwait]
    exact haside rfl rfl
  | @outside cue g hm =>
    have hm : cue.move.taped cue = .outside g := hm
    cases hmove : cue.move with
    | session cue => simp [hmove, Move.taped] at hm
    | outside g' =>
      rw [hmove, Move.taped, Move.outside.injEq] at hm
      subst hm
      exact ⟨cue.fed, by simp [Taped.fed], fun f hf => fed_of_move hmove hf⟩

end Company

/-! ## The books of a feed -/

namespace Fed

variable {awaited : Bool} {hookError : Option (Option Failure)} {initial : List UInt8}
  {st st' : Stage T (Taped Company Cue)}

theorem shows (awaited : Bool) (hookError : Option (Option Failure)) :
    (Company.setting awaited hookError).taped.link.Shows (Taped.process (M := Cue)) := fun _ _ => rfl

theorem readable_read (h : Fed initial st) (hr : st.Readable initial) :
    st.session.conduct.encoding.Readable st.process.read := by
  obtain ⟨f, -, hstream⟩ := h.stream
  rw [Stage.Readable, ← hstream] at hr
  exact hr.of_append

/-- The decoder of a readable stream accepts what is pending. -/
theorem feed_pending (h : Fed initial st) (hr : st.Readable initial) {f : Feed}
    (hf : st.process.process.lead.output = .feed f) :
    ∃ text d, st.session.decoder.feed f.pending = some (text, d) := by
  obtain ⟨f', hf', hstream⟩ := h.stream
  obtain rfl : f = f' := Output.feed.inj (hf.symm.trans hf')
  obtain ⟨_, _, hbooks⟩ := h.books
  rw [← hbooks.decoder]
  refine Intake.feed_more (e := st.session.conduct.encoding) ?_
  rw [← Stage.intake, h.accepted hr, hstream]
  exact hr

theorem readChunk_tape (hlink : st.session.link = (Company.setting awaited hookError).taped.link) :
    st.readChunk.2.process.read = st.process.read ++ st.readChunk.1.data ∧
      st.readChunk.2.process.made = st.process.made := by
  simp only [Stage.readChunk, Stage.act, Desk.act, hlink, Taped.read]
  exact ⟨by simp [Setting.taped, Link.taped], rfl⟩

theorem ended_made (hlink : st.session.link = (Company.setting awaited hookError).taped.link) {tail : List Char} :
    (st.readChunk.2.ended tail).process.made = st.process.made := by
  simp only [Stage.ended, Stage.readChunk_session, hlink, ← (readChunk_tape hlink).2]
  rfl

theorem readable_congr (hmade : st'.process.made = st.process.made)
    (hconduct : st'.session.conduct = st.session.conduct) : st'.Readable initial ↔ st.Readable initial := by
  rw [Stage.Readable, Stage.Readable, Taped.fed, Taped.fed, hmade, hconduct]

/-- A read moves bytes from the feed to the tape. -/
theorem readChunk_stream (h : Fed initial st)
    (hlink : st.session.link = (Company.setting awaited hookError).taped.link) :
    (st.readChunk.1 = .blocked ∨ ∃ bytes, st.readChunk.1 = .bytes bytes) ∧
      ∃ f, st.readChunk.2.process.process.lead.output = .feed f ∧
        st.readChunk.2.process.read ++ f.pending = initial ++ st.process.fed := by
  obtain ⟨f, hf, hstream⟩ := h.stream
  obtain ⟨hread, -⟩ := readChunk_tape hlink
  obtain ⟨hchunk, hview⟩ := Stage.readChunk_shown (hlink ▸ shows awaited hookError) hf
  rw [hread]
  by_cases hnil : f.pending = []
  · rw [Feed.read_of_nil hnil] at hchunk hview
    have hdata : f.last.data = [] := by
      unfold Feed.last
      split <;> rfl
    refine ⟨?_, f, by rw [hview], by rw [hchunk, hdata, List.append_nil, hstream]⟩
    rw [hchunk, Feed.last]
    split
    · exact .inr ⟨[], rfl⟩
    · exact .inl rfl
  · rw [Feed.read_of_ne_nil hnil] at hchunk hview
    refine ⟨.inr ⟨_, hchunk⟩, _, by rw [hview], ?_⟩
    rw [hchunk, Chunk.data, List.append_assoc, List.take_append_drop, hstream]

/-- What is read of a readable stream is accepted. -/
theorem readChunk_accepted (h : Fed initial st)
    (hlink : st.session.link = (Company.setting awaited hookError).taped.link)
    (halive : st.session.reader.isAlive) (hr : st.Readable initial) :
    st.readChunk.2.intake.bytes = st.readChunk.2.process.read := by
  obtain ⟨_, _, hbooks⟩ := h.books
  obtain ⟨hchunk, f, -, hstream⟩ := h.readChunk_stream hlink
  obtain ⟨hread, -⟩ := readChunk_tape hlink
  have haccepted := h.accepted hr
  have hopen := hbooks.not_ended halive
  rw [Stage.intake_readChunk hlink, hread]
  rw [hread] at hstream
  rcases hchunk with hblocked | ⟨bytes, hbytes⟩
  · rw [hblocked, Intake.take_blocked, haccepted]
    exact (List.append_nil _).symm
  · rw [hbytes, Chunk.data] at hstream
    rw [hbytes, Chunk.data]
    -- An empty read is the end of the stream, which brings no bytes in.
    rcases bytes with _ | ⟨b, bs⟩
    · simp [Intake.take, hopen, Intake.finish, haccepted]
    · obtain ⟨text, d, hfeed⟩ : ∃ text d, st.intake.decoder.feed (b :: bs) = some (text, d) := by
        have hall : st.session.conduct.encoding.Readable ((st.intake.bytes ++ b :: bs) ++ f.pending) := by
          rw [haccepted, hstream]
          exact hr
        exact Intake.feed_more hall.of_append
      rw [Intake.take_bytes hopen (by simp) hfeed, haccepted]

/-- The books after a read. -/
theorem after (h : Fed initial st) (hlink : st.session.link = (Company.setting awaited hookError).taped.link)
    (halive : st.session.reader.isAlive) (hbooks : ∃ log₀ ms, Accounted log₀ ms st')
    (hchunks : st'.process.chunks = st.readChunk.2.process.chunks) (hmade : st'.process.made = st.process.made)
    (hconduct : st'.session.conduct = st.session.conduct)
    (houtput : ∀ f, st.readChunk.2.process.process.lead.output = .feed f →
      ∃ f', st'.process.process.lead.output = .feed f' ∧ f'.pending = f.pending) : Fed initial st' := by
  have hread : st'.process.read = st.readChunk.2.process.read := by rw [Taped.read, Taped.read, hchunks]
  have hfed : st'.process.fed = st.process.fed := by rw [Taped.fed, Taped.fed, hmade]
  refine ⟨hbooks, ?_, ?_⟩
  · obtain ⟨-, f, hf, hstream⟩ := h.readChunk_stream hlink
    obtain ⟨f', hf', hpending⟩ := houtput f hf
    exact ⟨f', hf', by rw [hread, hpending, hstream, hfed]⟩
  · intro hr
    rw [Stage.intake, hchunks, hconduct, hread]
    exact h.readChunk_accepted hlink halive ((readable_congr hmade hconduct).1 hr)

theorem ongoing (awaited : Bool) (hookError : Option (Option Failure)) (now : T) :
    Ongoing (Company.setting awaited hookError).taped now (Fed initial) where
  aside {st st'} h ha := by
    obtain ⟨hchunks, -⟩ := ha.touch.tape
    obtain ⟨closed, channel, waiter, hs⟩ := ha.session
    obtain ⟨more, hfed, houtput⟩ := Company.touch_fed ha.touch
    obtain ⟨log₀, ms, hbooks⟩ := h.books
    obtain ⟨f, hf, hstream⟩ := h.stream
    obtain ⟨f', hf', hpending⟩ := houtput f hf
    have hread : st'.process.read = st.process.read := by rw [Taped.read, Taped.read, hchunks]
    refine ⟨⟨log₀, ms, hbooks.aside ha⟩, ⟨f', hf', ?_⟩, ?_⟩
    · rw [hread, hpending, hfed, ← List.append_assoc, hstream, List.append_assoc]
    · intro hr
      have hbefore : st.Readable initial := by
        rw [Stage.Readable, hfed, ← List.append_assoc, hs] at hr
        exact hr.of_append
      rw [hread, ← h.accepted hbefore, Stage.intake, Stage.intake, hchunks, hs]
  pause {st} hlink h halive hchunk := by
    obtain ⟨log₀, ms, hbooks⟩ := h.books
    exact h.after hlink halive ⟨log₀, ms, hbooks.pause hlink halive hchunk⟩ rfl (readChunk_tape hlink).2 rfl
      fun f hf => ⟨f, hf, rfl⟩
  take {st bytes text decoder} hlink h halive hchunk hne hf := by
    obtain ⟨log₀, ms, hbooks⟩ := h.books
    refine h.after hlink halive ⟨log₀, ms, hbooks.take hlink halive hchunk hne hf now⟩ ?_ ?_ ?_ fun f hf => ⟨f, ?_, rfl⟩
    all_goals rw [Stage.takeIn_eq]
    · exact (readChunk_tape hlink).2
    · rfl
    · exact hf
  stop {st tail} hlink h halive hstops hf := by
    obtain ⟨log₀, ms, hbooks⟩ := h.books
    have hclose : (st.readChunk.2.ended tail).process =
        ((Company.setting awaited hookError).taped.link.closeOutput st.readChunk.2.process).2 := by
      simp only [Stage.ended, Stage.readChunk_session, hlink]
    refine h.after hlink halive ⟨log₀, ms, hbooks.stop hlink halive hstops hf⟩ ?_ ?_ rfl fun f hf => ⟨f.close, ?_, rfl⟩
    · rw [hclose]
      rfl
    · exact ended_made hlink
    · simp [hclose, Setting.taped, Link.taped, Company.setting, Company.link, Part.onLink, Part.on, Company.leadPart,
        StandIn.link, StandIn.closeOutput, hf, Output.close]
  fail {st} hlink h halive hstops hf := by
    obtain ⟨log₀, ms, hbooks⟩ := h.books
    exact h.after hlink halive ⟨log₀, ms, hbooks.fail hlink halive hstops hf⟩ rfl (readChunk_tape hlink).2 rfl
      fun f hf => ⟨f, hf, rfl⟩

/-- The end of a readable stream is published, with what the decoder kept. -/
theorem published (h : Fed initial st) (hr : st.Readable initial) :
    st.session.eof = (st.session.reader == .ended) ∧
      st.intake.tail = if st.session.eof then Encoding.escapes st.intake.decoder.pending else [] := by
  obtain ⟨_, _, hbooks⟩ := h.books
  have hsome : st.intake.decoder.finish.isSome := by
    refine Option.isSome_iff_ne_none.2 (mt Intake.finish_eq_none_iff.1 (Encoding.Readable.not_halfStart ?_))
    rw [← Stage.intake, h.accepted hr]
    exact h.readable_read hr
  have heof := hbooks.eof
  rw [← hbooks.decoder, hsome, Bool.and_true] at heof
  have htail := Intake.tail_eq st.session.conduct.encoding st.process.chunks
  rw [← Stage.intake, ← heof, Decoder.finish_of_isSome hsome, Option.getD_some] at htail
  exact ⟨heof.trans hbooks.ended, htail⟩

/-- Two readers of one feed come to the same, whatever they ask for. -/
theorem runReader {c : Conduct T} {size : Nat} {hsize : 0 < size} {st' : Stage T Company} (now : T)
    (hoff : OffTape (Company.setting awaited hookError) (fun _ _ => True) c size hsize st st') (h : Fed initial st)
    (hr : st.Readable initial) :
    OffTape (Company.setting awaited hookError) (fun _ _ => True) c size hsize (st.runReader now)
      (st'.runReader now) := by
  have hreader : st'.session.reader = st.session.reader := by rw [hoff.session]
  obtain ⟨f, hf, -⟩ := h.stream
  obtain ⟨text, d, hd⟩ := h.feed_pending hr hf
  have hf' : st'.process.lead.output = .feed f := hoff.process ▸ hf
  have hd' : st'.session.decoder.feed f.pending = some (text, d) := by rw [hoff.session]; exact hd
  have hfuel : st.session.link.remaining st.process + 1 = f.pending.length + 2 := by
    rw [hoff.link]
    exact congrArg (Output.remaining · + 1) hf
  have hfuel' : st'.session.link.remaining st'.process + 1 = f.pending.length + 2 := by
    rw [hoff.session]
    exact congrArg (Output.remaining · + 1) hf'
  simp only [Stage.runReader, hreader]
  split
  · -- Both have read all that was pending when they see what follows it, and that is the same chunk.
    have hl : st.session.link.Shows (Taped.process (M := Cue)) := hoff.link ▸ shows awaited hookError
    have hl' : st'.session.link.Shows id := by
      rw [hoff.session]
      exact fun _ _ => rfl
    obtain ⟨st₁, hon, hview, hsession⟩ :=
      Stage.readOn_feed now (st.session.link.remaining st.process + 1) hl hf hd (by omega)
    obtain ⟨st₁', hon', hview', hsession'⟩ :=
      Stage.readOn_feed now (st'.session.link.remaining st'.process + 1) hl' hf' hd' (by omega)
    rw [hon, hon']
    refine OffTape.takeChunk (fun _ _ => trivial) ⟨?_, trivial, ?_, ?_, ?_⟩ now f.last
    · rw [hview, ← hoff.process]
      exact hview'
    · rw [hsession, ← hoff.link]
      split <;> rfl
    · rw [hsession, ← hoff.conduct]
      split <;> rfl
    · rw [hsession', hsession, hoff.session]
      split
      · rfl
      · simp only [Session.taken, ← hoff.conduct]
        rfl
  · exact hoff

/-- A session that begins has read nothing of the feed. -/
theorem opened (awaited : Bool) (hookError : Option (Option Failure)) (c : Conduct T) (timeout : Span T) (now : T)
    (agenda : List (Appointment T Cue)) {d : Desk Company} {f : Feed} (hf : d.process.lead.output = .feed f) :
    Fed f.pending ((Company.setting awaited hookError).taped.opened c timeout now agenda d.onTape).world := by
  have hbooks := Accounted.opened (S := Company.setting awaited hookError) c timeout now agenda d
  obtain ⟨starts, reader, waiter, heq, -⟩ :=
    (Company.setting awaited hookError).taped.opened_world c timeout now agenda d.onTape
  rw [heq] at hbooks ⊢
  exact ⟨⟨_, _, hbooks⟩, ⟨f, hf, (List.append_nil _).symm⟩, fun _ => rfl⟩

variable [Moment T]

theorem steady (awaited : Bool) (hookError : Option (Option Failure)) :
    Steady (Company.setting awaited hookError).taped fun (_ : T) _ st => Fed initial st where
  ongoing now _ := ongoing awaited hookError now
  pass _ h := h
  calm h :=
    let ⟨_, _, hbooks⟩ := h.books
    ⟨⟨_, _, (Accounted.steady (S := Company.setting awaited hookError)).calm (t := 0) hbooks⟩, h.stream,
      h.accepted⟩
  consume f elapsed h :=
    let ⟨_, _, hbooks⟩ := h.books
    ⟨⟨_, _, hbooks.consume f elapsed⟩, h.stream, h.accepted⟩

/-- A stream that is not readable does not become so. -/
theorem unreadable_steady (awaited : Bool) (hookError : Option (Option Failure)) (initial : List UInt8) :
    Steady (Company.setting awaited hookError).taped fun (_ : T) _ st => ¬ st.Readable initial where
  ongoing now _ := {
    aside := fun {st st'} h ha hr => by
      obtain ⟨closed, channel, waiter, hs⟩ := ha.session
      obtain ⟨more, hfed, -⟩ := Company.touch_fed ha.touch
      rw [Stage.Readable, hfed, ← List.append_assoc, hs] at hr
      exact h hr.of_append
    pause := fun hlink h _ _ => mt (readable_congr (readChunk_tape hlink).2 rfl).1 h
    take := fun hlink h _ _ _ _ => by
      rw [Stage.takeIn_eq]
      exact mt (readable_congr (readChunk_tape hlink).2 rfl).1 h
    stop := fun hlink h _ _ _ => mt (readable_congr (ended_made hlink) rfl).1 h
    fail := fun hlink h _ _ _ => mt (readable_congr (readChunk_tape hlink).2 rfl).1 h }
  pass _ h := h
  calm h := h
  consume _ _ h := h

/-- Sessions that ask for different numbers of bytes are not told apart while the stream is readable. -/
theorem likeness (awaited : Bool) (hookError : Option (Option Failure)) (c : Conduct T) (size : Nat)
    (hsize : 0 < size) (initial : List UInt8) :
    let S := Company.setting awaited hookError
    Likeness S.taped S (fun st : Stage T _ => st.session.link = S.taped.link → st.Readable initial) fun st st' =>
      OffTape S (fun _ _ => True) c size hsize st st' ∧ Linked S.taped (Fed initial) st := by
  intro S
  refine OffTape.likeness (fun _ _ => trivial) (steady awaited hookError).kept ?_
    fun now hoff h hfine => runReader now hoff h.2 (hfine h.1)
  simp only [Classical.not_imp]
  exact (unreadable_steady awaited hookError initial).kept

end Fed

/-! ## Pieces are not seen -/

namespace Company

variable {awaited : Bool} {hookError : Option (Option Failure)}

/-- When nothing is left to be done, a living reader has read all there is. -/
theorem pending_of_settled {c : Conduct T} {st : Stage T Company} {now : T}
    (h : Linked (setting awaited hookError) (Prompt c) st) (hsettled : st.settle now = st)
    (halive : st.session.reader.isAlive) {f : Feed} (hf : st.process.lead.output = .feed f) : f.pending = [] := by
  have hrest := (restful awaited hookError c).atRest now h
  rw [hsettled] at hrest
  have hblocked := congrArg Prod.fst (hrest.reader halive).2
  rw [readChunk_fst h.1, hf] at hblocked
  refine Classical.byContradiction fun hne => ?_
  rw [Feed.read_of_ne_nil hne] at hblocked
  cases hblocked

end Company

variable [Moment T]

namespace Rehearsal

/-- **Pieces do not matter.** Two sessions that differ in how many bytes they ask for in one read give the
same answers and the same views, and make the same matches; nothing tells them apart in the end but what is
on record. What has come in is the text of the bytes that were read, and in the end what was kept of
them, as escapes; while the reader lives and nothing is left to be done, all bytes that were
fed were read. Trimming after every piece leaves what trimming once leaves. -/
theorem chunking_unseen (awaited : Bool) (hookError : Option (Option Failure)) (c : Conduct T) (size : Nat)
    (hsize : 0 < size) (timeout : Span T) (now : T) (agenda : List (Appointment T Cue)) (d : Desk Company)
    (feed : Feed) (hfeed : d.process.lead.output = .feed feed) (deeds : List (Deed T Cue)) :
    let S := Company.setting awaited hookError
    let start (c : Conduct T) := S.opened c timeout now agenda d
    let last := (Deed.run life deeds (start c)).2
    let other := (Deed.run life deeds (start (c.sized size hsize))).2
    let tape := (Deed.run S.taped.life deeds (S.taped.opened c timeout now agenda d.onTape)).2.world.process
    let intake := Intake.ofChunks c.encoding tape.chunks
    c.encoding.Readable (feed.pending ++ tape.fed) →
      ((Deed.run life deeds (start (c.sized size hsize))).1 = (Deed.run life deeds (start c)).1 ∧
        Deed.allTaken life deeds (start (c.sized size hsize)) = Deed.allTaken life deeds (start c) ∧
        other.world.process = last.world.process ∧
        other.world.session = { last.world.session with conduct := c.sized size hsize }) ∧
      ((∃ f, last.world.process.lead.output = .feed f ∧
          intake.bytes ++ f.pending = feed.pending ++ tape.fed ∧
            (last.world.session.reader.isAlive → last.world.settle last.now = last.world → f.pending = [])) ∧
        (deeds.getLast? = some .settle → last.world.settle last.now = last.world)) ∧
      (∀ text rest, c.encoding.Reads intake.bytes text rest ↔
        intake.text = text ∧ intake.decoder.pending = rest) ∧
      (last.world.session.eof = (last.world.session.reader == .ended) ∧
        intake.tail = if last.world.session.eof then Encoding.escapes intake.decoder.pending else []) ∧
      (∃ segments : List Segment, intake.text ++ intake.tail = segments.flatMap Segment.text ++ last.world.before ∧
        segments.filterMap Segment.output? = (Deed.allTaken life deeds (start c)).map Match.output) ∧
      ∀ (st : Stage T Company) (decoder : Decoder) (texts : List (List Char)), texts ≠ [] →
        (texts.foldl (fun st text => st.takeIn now text decoder) st).before =
          (st.takeIn now texts.flatten decoder).before := by
  intro S start last other tape intake hreadable
  have hlife : (life : Life T (Stage T Company) Cue) = S.life := life_eq awaited hookError
  -- Both sessions are like the one on tape that asks for as many bytes as the first.
  obtain ⟨⟨hanswers, hpair⟩, htaken⟩ := OffTape.run (S := S) (c := c) timeout now agenda d deeds
  obtain ⟨-, hconserved, -⟩ := OffTape.books S c timeout now agenda d deeds
  have hkept := (Fed.steady awaited hookError).run (Fed.opened awaited hookError c timeout now agenda hfeed)
  obtain ⟨-, hfed⟩ := hkept deeds
  have hr : (Deed.run S.taped.life deeds (S.taped.opened c timeout now agenda d.onTape)).2.world.Readable
      feed.pending := by
    rw [Stage.Readable, hpair.world.conduct]
    exact hreadable
  have hbegun : Paired (OffTape S (fun _ _ => True) c size hsize) (S.taped.opened c timeout now agenda d.onTape)
      (start (c.sized size hsize)) := OffTape.opened timeout now agenda d trivial
  obtain ⟨⟨hanswers', hpair'⟩, htaken'⟩ := (Fed.likeness awaited hookError c size hsize feed.pending).run deeds
    ⟨hbegun.now, hbegun.agenda, hbegun.faults, hbegun.world, hkept []⟩ fun _ => hr
  have hoff := hpair.world
  have hoff' := hpair'.world.1
  have hintake : (Deed.run S.taped.life deeds (S.taped.opened c timeout now agenda d.onTape)).2.world.intake =
      intake := by rw [Stage.intake, hoff.conduct]
  obtain ⟨heof, htail⟩ := hfed.published hr
  obtain ⟨f, hf, hstream⟩ := hfed.stream
  have haccepted := hfed.accepted hr
  rw [hintake] at htail haccepted
  have hprompt := (Company.prompt_steady c).run (S := S) (d := d)
    (Company.prompt_opened c timeout now agenda (by rw [hfeed]; trivial))
  simp only [← hlife, ← life_eq awaited hookError] at hanswers htaken hconserved hanswers' htaken' hoff hoff' hprompt
  refine ⟨⟨hanswers'.trans hanswers.symm, htaken'.trans htaken.symm, ?_, ?_⟩, ⟨⟨f, ?_, ?_, ?_⟩, ?_⟩, ?_, ⟨?_, ?_⟩,
    hconserved, ?_⟩
  · exact hoff'.process.trans hoff.process.symm
  · rw [hoff'.session, hoff.session]
  · rw [hoff.process]
    exact hf
  · rw [haccepted]
    exact hstream
  · intro halive hsettled
    refine Company.pending_of_settled (hprompt deeds) hsettled halive ?_
    rw [hoff.process]
    exact hf
  · intro hlast
    rw [hlife] at hprompt
    simp only [last, hlife]
    exact (Company.restful awaited hookError c).settle_run hlast hprompt _
  · intro text rest
    refine Intake.reads_iff ?_
    rw [← hstream, ← haccepted] at hreadable
    exact hreadable.of_append
  · rw [hoff.session]
    exact heof
  · rw [hoff.session]
    exact htail
  · intro st decoder texts hne
    exact congrArg (·.buffer.toList) (Stage.foldl_takeIn now decoder hne st)

/-- A mark and a character that come in two pieces, and half a unit at the end. -/
def pieces : List (Deed Int Cue) :=
  [.move (.feed [0xFE, 0x3D, 0xD8]), .settle, .move (.feed [0x00, 0xDE, 0x21, 0x00, 0x41]), .settle,
    .expectAny [.source "!"] none, .move .finish, .settle]

theorem pieces_unseen :
    let c : Conduct Int := { reading .utf16 with bufferLimit := some 2 }
    let run (c : Conduct Int) := Deed.run life pieces ((Company.setting false none).opened c ⟨5, .none⟩ 0 []
      { process := { lead := { output := .feed { pending := [0xFF] } } } })
    (run (c.sized 3 (by decide))).1 = (run c).1 ∧ (run c).2.world.before = ['\\', 'x', '4', '1'] := by
  intro c run
  have hsame := chunking_unseen false none c 3 (by decide) ⟨5, .none⟩ 0 []
    { process := { lead := { output := .feed { pending := [0xFF] } } } } { pending := [0xFF] } rfl pieces
    fun _ => .inl ⟨[0x3D, 0xD8, 0x00, 0xDE, 0x21, 0x00, 0x41], .inl (by decide +kernel)⟩
  exact ⟨hsame.1.1, by decide +kernel⟩

end Rehearsal

end Dialogue
