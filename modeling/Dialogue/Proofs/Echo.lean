import Dialogue.Proofs.Chunking
import Dialogue.Proofs.Transcript
import Mathlib.Data.List.Induction
/-!
# Echoes

What a session sends can be fed back to it, or to another one that uses the same encoding. Once the output has ended,
what was read of it is the text that was sent (`Rehearsal.echoed`), whatever the pieces in which it came and whatever
else was done meanwhile.
-/

namespace Dialogue

variable {T σ M : Type}

/-! ## The text that was sent -/

namespace Said

def text : Said → List Char
  | sent (.text s) _ => s.toList
  | _ => []

/-- Of what was said, everything that was sent is text and was taken. -/
def IsText : Said → Prop
  | sent (.text _) (.ok _) | closed _ => True
  | _ => False

instance : DecidablePred IsText
  | sent (.text _) (.ok _) | closed _ => .isTrue trivial
  | sent (.text _) (.error _) | sent (.bytes _) _ => .isFalse id

variable {e : Encoding} {hungUp : Except Failure Unit} {said : List Said} {now : Said}

theorem Faithful.of_snoc (h : Faithful e hungUp (said ++ [now])) :
    Faithful e hungUp said ∧ now.Follows e hungUp said := by
  refine ⟨?_, h said now [] rfl⟩
  rintro past x later rfl
  exact h past x (later ++ [now]) (by simp)

/-- What is kept of what was sent is its text, encoded. -/
theorem encode_text (he : e ≠ .utf16) (h : Faithful e hungUp said) (htext : ∀ x ∈ said, x.IsText) :
    e.encode (said.flatMap text) = .ok (recorded e said) := by
  induction said using List.reverseRecOn with
  | nil => exact (e.encode_nil).trans (by rw [Encoding.opening_plain he]; rfl)
  | append_singleton said now ih =>
    obtain ⟨hsaid, hnow⟩ := h.of_snoc
    have hfront := ih hsaid fun x hx => htext x (List.mem_append_left _ hx)
    have hlast := htext now (by simp)
    rw [List.flatMap_append]
    -- To close adds nothing on either side, and nothing can have been sent after that.
    match now with
    | closed outcome =>
      have hsame : recorded e (said ++ [closed outcome]) = recorded e said := by
        cases hany : said.any isClosing with
        | true => exact recorded_of_closed hany
        | false => simp [recorded_of_open hany, payload]
      rw [hsame]
      simpa [text] using hfront
    | sent (.text s) (.ok _) =>
      cases hany : said.any isClosing with
      | true => simp [Follows, hany] at hnow
      | false =>
        obtain ⟨bytes, hbytes⟩ : ∃ bytes, (Payload.text s).encode e = .ok bytes := by
          rw [Follows, hany] at hnow
          cases hs : (Payload.text s).encode e with
          | ok bytes => exact ⟨bytes, rfl⟩
          | error failure => simp [hs, Except.map] at hnow
        rw [recorded_of_open hany, payload, Payload.content, hbytes]
        refine Encoding.encode_append_iff.2 ⟨_, bytes, hfront, ?_, rfl⟩
        rw [Encoding.opening_plain he]
        simpa [text] using Payload.encode_text.1 hbytes
    | sent (.text _) (.error _) => exact hlast.elim
    | sent (.bytes _) _ => exact hlast.elim

end Said

/-- What was kept of texts that were all taken is what they are in the encoding. -/
theorem Transcript.written_text {awaited : Bool} {hookError : Option (Option Failure)} {c : Conduct T}
    {said : List Said} {s : Scene T (Stage T (Followed Company)) Cue} (h : Transcript awaited hookError c [] said s)
    (hplain : c.encoding ≠ .utf16) (htext : ∀ x ∈ said, x.IsText) :
    c.encoding.encode (said.flatMap Said.text) = .ok s.world.process.process.lead.input.written := by
  have hwritten : s.world.process.process.lead.input.written = Said.recorded c.encoding said :=
    congrArg (fun side => side.1.written) h.world.side
  rw [hwritten]
  exact Said.encode_text hplain h.faithful htext

/-! ## Nothing is dropped -/

/-- Nothing was dropped since the log was `log₀`. -/
def Undropped (log₀ : List Record) (st : Stage T σ) : Prop :=
  st.session.conduct.bufferLimit = none ∧
    ∃ records, st.log = log₀ ++ records ∧ ∀ removal ∈ records.filterMap Record.removal?, removal = none

/-- A session that begins has dropped nothing. -/
theorem Undropped.opened (S : Setting σ M) {c : Conduct T} (hlimit : c.bufferLimit = none) (timeout : Span T) (now : T)
    (agenda : List (Appointment T M)) (d : Desk σ) : Undropped d.log (S.opened c timeout now agenda d).world := by
  obtain ⟨starts, reader, waiter, hworld, -⟩ := S.opened_world c timeout now agenda d
  rw [hworld]
  exact ⟨hlimit, [], (List.append_nil _).symm, by simp⟩

/-- A session without a limit drops nothing. -/
theorem Undropped.steady [Moment T] (S : Setting σ M) (log₀ : List Record) :
    Steady S fun (_ : T) _ st => Undropped log₀ st where
  ongoing now _ := {
    aside := by
      rintro st st' ⟨hlimit, records, hlog, hnone⟩ ha
      obtain ⟨more, hmore, hquiet⟩ := ha.log
      obtain ⟨closed, channel, waiter, hs⟩ := ha.session
      refine ⟨hs ▸ hlimit, records ++ more, ?_, ?_⟩
      · rw [hmore, hlog, List.append_assoc]
      · rw [List.filterMap_append, hquiet, List.append_nil]
        exact hnone
    pause := fun _ h _ _ => h
    take := by
      rintro st bytes text decoder - ⟨hlimit, records, hlog, hnone⟩ - - - -
      rw [Stage.takeIn_eq]
      -- Without a limit there is no surplus, so what is taken in leaves no record of a drop.
      have hsurplus (size : Nat) : st.session.conduct.surplus size = 0 := by rw [Conduct.surplus, hlimit]; rfl
      refine ⟨hlimit, records ++ if st.session.conduct.verbose then [.received text] else [], ?_, ?_⟩
      · simp only [Stage.trimRecords, Stage.readChunk_session, hsurplus, if_true, List.append_nil]
        rw [← List.append_assoc, ← hlog]
        rfl
      · rw [List.filterMap_append]
        have hreceived : (if st.session.conduct.verbose then [Record.received text] else []).filterMap
            Record.removal? = [] := by
          split <;> rfl
        rw [hreceived, List.append_nil]
        exact hnone
    stop := fun _ h _ _ _ => h
    fail := fun _ h _ _ _ => h }
  pass _ h := h
  calm h := h
  consume := by
    rintro t l st f elapsed ⟨hlimit, records, hlog, hnone⟩
    refine ⟨hlimit, records ++ [.matched f.pattern.source (Moment.brief elapsed)], ?_, ?_⟩
    · rw [← List.append_assoc, ← hlog]
      rfl
    · rw [List.filterMap_append, List.forall_mem_append]
      exact ⟨hnone, by simp [Record.removal?]⟩

/-- If nothing was dropped, what has left the buffer is the output of the matches. -/
theorem Segment.text_of_undropped {segments : List Segment} (h : ∀ removal ∈ segments.map entry, removal = none) :
    segments.flatMap text = (segments.filterMap output?).flatten := by
  induction segments with
  | nil => rfl
  | cons segment segments ih =>
    obtain ⟨hsegment, hrest⟩ := List.forall_mem_cons.1 h
    cases segment with
    | output text => simp [Segment.text, output?, ih hrest]
    | dropped text => cases hsegment

/-! ## A reader that goes on as long as its feed -/

theorem Feed.ended_read (f : Feed) (most : Option Nat) :
    ∃ f', ((Output.feed f).read most).2 = .feed f' ∧ f'.ended = f.ended := by
  simp only [Output.read]
  split
  · refine ⟨_, rfl, ?_⟩
    cases most <;> rfl
  · exact ⟨f, rfl, rfl⟩

/-- A feed that has not ended. -/
def Output.goesOn : Output → Bool
  | feed f => !f.ended
  | _ => false

/-- The reader is alive as long as its feed goes on, and its decoder takes every byte. -/
structure Attentive (st : Stage T Company) : Prop where
  decoder : ∃ e pending, st.session.decoder = .reading e pending
  feed : ∃ f, st.process.lead.output = .feed f ∧ (f.ended = false → st.session.reader.isAlive)

namespace Attentive

variable {awaited : Bool} {hookError : Option (Option Failure)}

theorem alive {st : Stage T Company} (h : Attentive st) (hgoing : st.process.lead.output.goesOn = true) :
    st.session.reader.isAlive := by
  obtain ⟨f, hf, halive⟩ := h.feed
  rw [hf] at hgoing
  exact halive (by simpa [Output.goesOn] using hgoing)

theorem readChunk {st : Stage T Company} (h : Attentive st)
    (hlink : st.session.link = Company.link awaited hookError) :
    ∃ f, st.readChunk.2.process.lead.output = .feed f ∧ (f.ended = false → st.session.reader.isAlive) := by
  obtain ⟨f, hf, halive⟩ := h.feed
  obtain ⟨f', hf', hended⟩ := f.ended_read (some st.session.conduct.bufferSize)
  exact ⟨f', by rw [Company.readChunk_output hlink, hf, hf'], hended ▸ halive⟩

theorem ongoing (awaited : Bool) (hookError : Option (Option Failure)) (now : T) :
    Ongoing (Company.setting awaited hookError) now Attentive where
  aside {st st'} h ha := by
    obtain ⟨closed, channel, waiter, hs⟩ := ha.session
    obtain ⟨f, hf, halive⟩ := h.feed
    refine ⟨hs ▸ h.decoder, ?_⟩
    have hhandled := Company.handled ha.touch
    rw [hf] at hhandled
    rw [hs]
    generalize st'.process.lead.output = output at hhandled
    cases hhandled with
    | none => exact ⟨f, rfl, halive⟩
    | fed _ bytes => exact ⟨f.feed bytes, rfl, halive⟩
    | finished => exact ⟨f.finish, rfl, fun hgoing => nomatch hgoing⟩
    | closed => exact ⟨f.close, rfl, fun hgoing => nomatch hgoing⟩
  pause hlink h _ _ := by
    obtain ⟨f, hf, -⟩ := h.readChunk hlink
    exact ⟨h.decoder, f, hf, fun _ => rfl⟩
  take {st bytes text decoder} hlink h halive _ _ htake := by
    obtain ⟨e, pending, hdecoder⟩ := h.decoder
    obtain ⟨f, hf, -⟩ := h.readChunk hlink
    rw [Stage.takeIn_eq]
    refine ⟨⟨e, (e.run pending bytes).2, ?_⟩, f, hf, fun _ => halive⟩
    rw [hdecoder] at htake
    exact ((Prod.mk.inj (Option.some.inj htake)).2).symm
  stop {st tail} hlink h _ _ _ := by
    obtain ⟨f, hf, -⟩ := h.readChunk hlink
    refine ⟨h.decoder, f.close, ?_, fun hgoing => nomatch hgoing⟩
    have houtput := Company.closeOutput_output hlink st.readChunk.2.process
    rw [hf] at houtput
    exact houtput
  fail _ h _ _ hfinish := by
    -- Only a decoder that still awaits a mark can fail at the end.
    obtain ⟨e, pending, hdecoder⟩ := h.decoder
    rw [hdecoder] at hfinish
    cases hfinish

theorem steady [Moment T] (awaited : Bool) (hookError : Option (Option Failure)) :
    Steady (Company.setting awaited hookError) fun (_ : T) _ st => Attentive st where
  ongoing now _ := ongoing awaited hookError now
  pass _ h := h
  calm h := ⟨h.decoder, h.feed⟩
  consume _ _ h := ⟨h.decoder, h.feed⟩

end Attentive

theorem Stage.begin_ready {session : Session T σ} {d : Desk σ} (h : (begin session d).1 = .ok ()) :
    (begin session d).2.session.reader = .ready := by
  revert h
  simp only [begin]
  rcases d.countStart with ⟨_ | e, d⟩
  · simp only
    split
    · exact fun _ => rfl
    · rcases d.countStart with ⟨_ | e, d⟩
      · exact fun _ => rfl
      · intro h
        cases h
  · intro h
    cases h

/-- A session that has begun listens to its feed, if no mark has to tell its byte order. -/
theorem Attentive.opened {awaited : Bool} {hookError : Option (Option Failure)} {c : Conduct T} {timeout : Span T}
    {now : T} {agenda : List (Appointment T Cue)} {d : Desk Company} (hplain : c.encoding ≠ .utf16) {f : Feed}
    (hf : d.process.lead.output = .feed f)
    (hbegun : (Stage.begin (.ofLink (Company.link awaited hookError) c timeout now) d).1 = .ok ()) :
    Attentive ((Company.setting awaited hookError).opened c timeout now agenda d).world := by
  have hready := Stage.begin_ready hbegun
  obtain ⟨starts, reader, waiter, hworld, -⟩ := (Company.setting awaited hookError).opened_world c timeout now agenda d
  have hreader : ((Company.setting awaited hookError).opened c timeout now agenda d).world.session.reader = .ready :=
    hready
  rw [hworld] at hreader ⊢
  refine ⟨⟨c.encoding, [], ?_⟩, f, hf, fun _ => hreader ▸ rfl⟩
  cases he : c.encoding with
  | utf16 => exact absurd he hplain
  | _ => simp [Session.ofLink, Decoder.ofEncoding, he]

/-! ## The end of the feed -/

/-- Nothing is left to read. -/
def Taped.Drained (w : Taped Company Cue) : Prop := ∃ f, w.process.lead.output = .feed f ∧ f.pending = []

namespace Fed

variable {awaited : Bool} {hookError : Option (Option Failure)} {initial : List UInt8}
  {st : Stage T (Taped Company Cue)}

/-- Background work makes none of the moves of the surroundings. -/
theorem keeps_made (awaited : Bool) (hookError : Option (Option Failure)) (made : List Cue) :
    (Company.setting awaited hookError).taped.link.Keeps (·.made = made) where
  read _ _ h := h
  closeOutput h := h
  begin wait hwait _ h := by
    obtain ⟨wait', -, rfl⟩ := Option.map_eq_some_iff.1 hwait
    exact h
  poll wait hwait _ h := by
    obtain ⟨wait', -, rfl⟩ := Option.map_eq_some_iff.1 hwait
    exact h

/-- It puts nothing into a feed. -/
theorem keeps_drained (awaited : Bool) (hookError : Option (Option Failure)) :
    (Company.setting awaited hookError).taped.link.Keeps Taped.Drained where
  read n w h := by
    obtain ⟨f, hf, hpending⟩ := h
    refine ⟨f, ?_, hpending⟩
    show (w.process.lead.output.read (some n)).2 = _
    rw [hf, Feed.read_of_nil hpending]
  closeOutput {w} h := by
    obtain ⟨f, hf, hpending⟩ := h
    refine ⟨f.close, ?_, hpending⟩
    show w.process.lead.output.close.2 = _
    rw [hf]
    rfl
  begin wait hwait _ h := by
    obtain ⟨wait', hwait', rfl⟩ := Option.map_eq_some_iff.1 hwait
    rw [Company.wait_eq hwait']
    exact h
  poll wait hwait _ h := by
    obtain ⟨wait', hwait', rfl⟩ := Option.map_eq_some_iff.1 hwait
    rw [Company.wait_eq hwait']
    exact h

/-- A reader that is alive when its feed has ended reads all that was fed, and ends. -/
theorem settle_ended (h : Fed initial st) (hlink : st.session.link = (Company.setting awaited hookError).taped.link)
    (hr : st.Readable initial) (halive : st.session.reader.isAlive) {f : Feed}
    (hf : st.process.process.lead.output = .feed f) (hended : f.ended = true) (now : T) :
    (st.settle now).session.reader = .ended ∧ (st.settle now).process.read = initial ++ st.process.fed := by
  obtain ⟨text, d, hd⟩ := h.feed_pending hr hf
  have hl : st.session.link.Shows (Taped.process (M := Cue)) := hlink ▸ shows awaited hookError
  have hremaining : st.session.link.remaining st.process = f.pending.length + 1 := by
    rw [hlink]
    exact congrArg Output.remaining hf
  obtain ⟨st₁, hon, hview, hsession⟩ :=
    Stage.readOn_feed now (st.session.link.remaining st.process + 1) hl hf hd (by omega)
  have hreader : st.runReader now = st₁.endReading := by
    have hlast : f.last = .bytes [] := by simp [Feed.last, hended]
    rw [Stage.runReader, if_pos halive, hon, hlast]
    rfl
  have hlink₁ : st₁.session.link = (Company.setting awaited hookError).taped.link := by
    rw [← hlink, hsession]
    split <;> rfl
  have hdrained : (st.settle now).process.Drained := by
    have hkeeps : st₁.session.link.Keeps Taped.Drained := hlink₁ ▸ keeps_drained awaited hookError
    have hread : st₁.endReading.process.Drained :=
      Stage.endReading_keeps hkeeps.toReaderKeeps ⟨f.drained, by rw [hview]; rfl, rfl⟩
    have hlink₂ : st₁.endReading.session.link = st₁.session.link := congrArg Prod.fst st₁.endReading_standing
    rw [Stage.settle, hreader]
    exact Stage.runWaiter_keeps (hlink₂ ▸ hkeeps) hread
  have hmade : (st.settle now).process.made = st.process.made := by
    have hkeeps : st.session.link.Keeps fun w : Taped Company Cue => w.made = st.process.made :=
      hlink ▸ keeps_made awaited hookError _
    exact Stage.settle_keeps hkeeps rfl now
  constructor
  · obtain ⟨channel, waiter, hwaiter⟩ := st₁.endReading.runWaiter_session
    rw [Stage.settle, hreader, hwaiter, Stage.endReading_reader]
  · obtain ⟨-, hfed⟩ := (ongoing awaited hookError now).settle ⟨hlink, h⟩
    obtain ⟨f', hf', hstream⟩ := hfed.stream
    obtain ⟨f'', hf'', hpending⟩ := hdrained
    obtain rfl := Output.feed.inj (hf'.symm.trans hf'')
    rw [hpending, List.append_nil] at hstream
    rw [hstream, Taped.fed, hmade]
    rfl

/-- If nothing was dropped of a text that has been read to its end, the matches and the buffer have all of it. -/
theorem heard {l : List (Match T)} {log₀ : List Record} {text : List Char} (h : Fed initial st)
    (hbooks : Accounted log₀ l st) (hundropped : Undropped log₀ st)
    (hplain : st.session.conduct.encoding ≠ .utf16) (hended : st.session.reader = .ended)
    (hread : st.session.conduct.encoding.encode text = .ok st.process.read) :
    l.flatMap Match.output ++ st.before = text ∧ st.session.eof = true := by
  have hr : st.Readable initial := fun hmarked => absurd hmarked hplain
  obtain ⟨heof, htail⟩ := h.published hr
  rw [hended] at heof
  have hbytes : (Intake.ofChunks st.session.conduct.encoding st.process.chunks).bytes = st.process.read :=
    h.accepted hr
  obtain ⟨htext, hpending⟩ := (Intake.reads_iff fun hmarked => absurd hmarked hplain).1
    (hbytes ▸ (Encoding.reads_plain hplain).2 (Encoding.run_encode hplain hread))
  have hreceived : st.intake.received = text := by
    rw [Intake.received, htail, Stage.intake, htext, hpending]
    simp [Encoding.escapes]
  obtain ⟨segments, hconserved, houtputs, records, hlog, hentries⟩ := hbooks.conserved
  obtain ⟨-, records', hlog', hnone⟩ := hundropped
  obtain rfl : records = records' := List.append_cancel_left (hlog.symm.trans hlog')
  rw [hentries] at hnone
  rw [Segment.text_of_undropped hnone, houtputs, ← List.flatMap_def, hreceived] at hconserved
  exact ⟨hconserved.symm, heof⟩

end Fed

/-- The output of a stand-in ends with it. -/
def Cue.Ends : Cue → Prop
  | finish | exit _ | closeOutput => True
  | _ => False

theorem Company.feed_ends {last : Cue} (hlast : last.Ends) {c : Company} {f : Feed} (hf : c.lead.output = .feed f) :
    last.fed = [] ∧ ∃ g, last.move = .outside g ∧ ∃ f', (g c).2.2.lead.output = .feed f' ∧ f'.ended = true := by
  cases last with
  | finish => exact ⟨rfl, _, rfl, f.finish, by simp [leadPart, Part.on, StandIn.finish, hf], rfl⟩
  | exit e => exact ⟨rfl, _, rfl, f.finish, by simp [StandIn.exit, StandIn.finish, hf], rfl⟩
  | closeOutput =>
    exact ⟨rfl, _, rfl, f.close, by simp [leadPart, Part.on, StandIn.closeOutput, Output.close, hf], rfl⟩
  | _ => exact hlast.elim

/-! ## The echo -/

namespace Fed

variable [Moment T] {awaited : Bool} {hookError : Option (Option Failure)} {initial : List UInt8}
  {s : Scene T (Stage T (Taped Company Cue)) Cue} {l : List (Match T)}

/-- When the feed ends, a reader that is alive reads all that was fed, and then nothing more. -/
theorem read_at_end (h : Fed initial s.world)
    (hlink : s.world.session.link = (Company.setting awaited hookError).taped.link)
    (hplain : s.world.session.conduct.encoding ≠ .utf16) (halive : s.world.session.reader.isAlive) {last : Cue}
    (hlast : last.Ends) (more : List (Deed T Cue)) :
    let life := (Company.setting awaited hookError).taped.life
    let ended := (Deed.run life (.move last :: .settle :: more) s).2.world
    ended.session.reader = .ended ∧ ended.process.read = initial ++ s.world.process.fed := by
  intro life ended
  obtain ⟨f, hf, -⟩ := h.stream
  obtain ⟨hnothing, g, hmove, f', hf', hended⟩ := Company.feed_ends hlast hf
  obtain ⟨st, hst, hsession, hfed, houtput⟩ : ∃ st,
      (((Company.setting awaited hookError).taped.moves last).make s.world).2 = st ∧
        st.session = s.world.session ∧ st.process.fed = s.world.process.fed ∧
          st.process.process.lead.output = .feed f' := by
    have htaped : (Company.setting awaited hookError).taped.moves last = last.move.taped last := rfl
    rw [htaped, hmove]
    refine ⟨_, rfl, rfl, ?_, hf'⟩
    simp [Move.taped, Move.make, Stage.actNoting, Desk.actNoting, Taped.fed, hnothing]
  have hafter := (steady awaited hookError).kept.act (l := ([] : List (Match T))) last (t := s.now) ⟨hlink, h⟩
  rw [hst] at hafter
  have hr : st.Readable initial := fun hmarked => absurd hmarked (hsession ▸ hplain)
  obtain ⟨hreader, hread⟩ := hafter.2.settle_ended hafter.1 hr (hsession ▸ halive) houtput hended s.now
  rw [hfed] at hread
  -- What was read by then is all that is ever read.
  have hover := (Steady.over (T := T) (Q := fun w => w.chunks = (st.settle s.now).process.chunks)
    (Company.setting awaited hookError).taped fun hchunks htouch => htouch.tape.1.trans hchunks).kept
  have hsettled := (Ongoing.always (Company.setting awaited hookError).taped s.now).settle ⟨hafter.1, trivial⟩
  have hrest := hover.restWith_settled (l := []) (fun _ => false) (some s.now) s.agenda { s with world := st }
    ⟨hsettled.1, hreader, rfl⟩
  obtain ⟨-, hover, hchunks⟩ := hover.run (l := []) more _ hrest
  have hrun : ended = (Deed.run life more
      ({ s with world := st }.restWith life (fun _ => false) (some s.now) s.agenda).2).2.world := by
    rw [← hst]
    rfl
  rw [hrun]
  refine ⟨hover, ?_⟩
  rw [Taped.read, hchunks, ← hread]
  rfl

end Fed

variable [Moment T]

namespace Rehearsal

/-- **An echo is heard as it was sent.** In every encoding that needs no mark: a session was told to send texts, all of
which it took, and what a recorder kept of them is what the output of a session without a limit was fed, in whatever
pieces, while whatever else was done. Once that output has ended, the reader has ended too, and the outputs of the
matches with what is left in the buffer are the texts that were sent, whatever is done then. -/
theorem echoed (awaited : Bool) (hookError : Option (Option Failure)) (c : Conduct T) (timeout : Span T) (now : T)
    (agenda : List (Appointment T Cue)) (hagenda : Plans Cue.Aloof agenda) (d : Desk Company)
    (hinput : d.process.lead.input = {}) (calls : List (Call T)) (hcalls : ∀ call ∈ calls, call.Aloof)
    (awaited' : Bool) (hookError' : Option (Option Failure)) (c' : Conduct T) (timeout' : Span T) (now' : T)
    (agenda' : List (Appointment T Cue)) (d' : Desk Company) (feed : Feed)
    (hfeed : d'.process.lead.output = .feed feed) (deeds : List (Deed T Cue)) (last : Cue) (hlast : last.Ends)
    (more : List (Deed T Cue)) (hsame : c'.encoding = c.encoding) (hplain : c.encoding ≠ .utf16)
    (hlimit : c'.bufferLimit = none) :
    let S := Company.setting awaited hookError
    let said := Call.allSaid S.life calls (S.opened c timeout now agenda d)
    let written :=
      (Deed.run S.life (calls.flatMap Call.deeds) (S.opened c timeout now agenda d)).2.world.process.lead.input.written
    let S' := Company.setting awaited' hookError'
    let heard := S'.opened c' timeout' now' agenda' d'
    let tape := (Deed.run S'.taped.life deeds (S'.taped.opened c' timeout' now' agenda' d'.onTape)).2.world.process
    let whole := deeds ++ (.move last :: .settle :: more)
    let ended := (Deed.run S'.life whole heard).2.world
    (∀ x ∈ said, x.IsText) →
    (Stage.begin (.ofLink S'.link c' timeout' now') d').1 = .ok () →
    (Deed.run S'.life deeds heard).2.world.process.lead.output.goesOn = true →
    feed.pending ++ tape.fed = written →
    (Deed.allTaken S'.life whole heard).flatMap Match.output ++ ended.before = said.flatMap Said.text ∧
      ended.session.eof = true ∧ ended.session.reader = .ended := by
  intro S said written S' heard tape whole ended htext hbegun hgoing hecho
  have hplain' : c'.encoding ≠ .utf16 := hsame ▸ hplain
  -- What was kept of the texts is what they are in the encoding.
  obtain ⟨htranscript, -, hfollowed⟩ := Transcript.of_opened awaited hookError c timeout now hagenda hinput hcalls
  have hwritten : c.encoding.encode (said.flatMap Said.text) = .ok written := by
    have hkept := congrArg (·.process.lead.input.written) hfollowed.world.2
    exact (htranscript.written_text hplain htext).trans (congrArg Except.ok hkept.symm)
  -- The other session is read off its tape.
  let start := S'.taped.opened c' timeout' now' agenda' d'.onTape
  have hoff (deeds : List (Deed T Cue)) := (OffTape.run (S := S') (c := c') timeout' now' agenda' d' deeds).1.2.world
  have hconduct (deeds : List (Deed T Cue)) : (Deed.run S'.taped.life deeds start).2.world.session.conduct = c' :=
    (hoff deeds).conduct
  have hfed := (Fed.steady awaited' hookError').run (Fed.opened awaited' hookError' c' timeout' now' agenda' hfeed)
  -- Its reader goes on as long as the feed does, and has then read all that was fed.
  have halive : (Deed.run S'.taped.life deeds start).2.world.session.reader.isAlive := by
    obtain ⟨-, hattentive⟩ := (Attentive.steady awaited' hookError').run (Attentive.opened hplain' hfeed hbegun) deeds
    have hreader := hattentive.alive hgoing
    rw [(hoff deeds).session] at hreader
    exact hreader
  obtain ⟨hlink, hbefore⟩ := hfed deeds
  obtain ⟨hended, hread⟩ := hbefore.read_at_end hlink (by rw [hconduct]; exact hplain') halive hlast more
  have hrun : (Deed.run S'.taped.life whole start).2 = _ :=
    congrArg Prod.snd (Deed.run_append S'.taped.life deeds _ start)
  rw [← hrun] at hended hread
  rw [hecho] at hread
  -- So its books hold the texts.
  obtain ⟨-, hafter⟩ := hfed whole
  obtain ⟨-, hbooks⟩ := Accounted.steady.run (Accounted.opened (S := S') c' timeout' now' agenda' d') whole
  obtain ⟨-, hundropped⟩ :=
    (Undropped.steady S'.taped d'.log).run (Undropped.opened S'.taped hlimit timeout' now' agenda' d'.onTape) whole
  obtain ⟨hheard, heof⟩ := hafter.heard hbooks hundropped (by rw [hconduct]; exact hplain') hended
    (by rw [hconduct, hsame, hread]; exact hwritten)
  obtain ⟨-, htaken⟩ := OffTape.run (S := S') (c := c') timeout' now' agenda' d' whole
  have hsession : ended.session = _ := (hoff whole).session
  refine ⟨?_, (congrArg Session.eof hsession).trans heof, (congrArg Session.reader hsession).trans hended⟩
  rw [← hheard, htaken]
  exact congrArg (_ ++ ·.buffer.toList) hsession

/-- A greeting that is sent in three texts, one of them empty. -/
def greeting : List (Call Int) := [.send (.text "é"), .send (.text ""), .send (.text "😀!")]

/-- It comes back in pieces that end inside its characters, and one of them is matched meanwhile. -/
def greetingBack : List (Deed Int Cue) :=
  [.settle, .move (.feed [0x00, 0x3D, 0xD8, 0x00]), .expectAny [.source "é"] none, .settle,
    .move (.feed [0xDE, 0x21, 0x00])]

theorem greeting_echoed :
    let e : Encoding := .utf16Fixed .littleEndian
    let S := Company.setting false none
    let heard := S.opened (reading e) ⟨5, .none⟩ 0 [] { process := { lead := { output := .feed { pending := [0xE9] } } } }
    let whole := greetingBack ++ [.move .finish, .settle]
    (Deed.allTaken S.life whole heard).flatMap Match.output ++ (Deed.run S.life whole heard).2.world.before =
      ['é', '😀', '!'] := by
  intro e S heard whole
  have hsaid : (Call.allSaid S.life greeting (S.opened (reading e) ⟨5, .none⟩ 0 [] { process := {} })).flatMap Said.text =
      ['é', '😀', '!'] := by
    decide +kernel
  have hechoed := echoed false none (reading e) ⟨5, .none⟩ 0 [] (fun _ h => nomatch h) { process := {} } rfl greeting
    (by simp [greeting, Call.Aloof]) false none (reading e) ⟨5, .none⟩ 0 []
    { process := { lead := { output := .feed { pending := [0xE9] } } } } { pending := [0xE9] } rfl greetingBack .finish
    trivial [] rfl (by decide) rfl
  obtain ⟨hheard, -⟩ := hechoed (by decide +kernel) rfl (by decide +kernel) (by decide +kernel)
  rw [hsaid] at hheard
  simpa only [e, S, heard, whole] using hheard

end Rehearsal

end Dialogue
