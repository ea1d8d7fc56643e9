import Dialogue.Proofs.Runs
/-!
# What a session can do

Everything that happens to a session is made of few steps: the reader reads once, a match is taken,
or something is done that touches neither the text nor the reader (`Aside`). `Steady.kept` is the way to
an invariant: it is enough that each of these steps keeps it.
-/

namespace Dialogue

variable {T σ M : Type}

/-! ## One read -/

/-- Whether the reader goes on after a chunk, if its decoder is `d`. -/
def Chunk.goesOn (d : Decoder) : Chunk → Bool
  | .bytes (b :: bs) => (d.feed (b :: bs)).isSome
  | _ => false

/-- Whether a chunk ends the reader. -/
def Chunk.stops (d : Decoder) : Chunk → Bool
  | .blocked => false
  | chunk => !chunk.goesOn d

theorem Chunk.eq_blocked {chunk : Chunk} {d : Decoder} (hgo : ¬ chunk.goesOn d) (hstops : ¬ chunk.stops d) :
    chunk = .blocked := by
  cases chunk <;> simp_all [stops]

/-- How many of so many characters are above the limit. -/
def Conduct.surplus (c : Conduct T) (size : Nat) : Nat := c.bufferLimit.elim 0 (size - ·)

theorem Conduct.surplus_le (c : Conduct T) (size : Nat) : c.surplus size ≤ size := by
  unfold Conduct.surplus
  cases c.bufferLimit with
  | none => exact Nat.zero_le _
  | some limit => exact Nat.sub_le ..

namespace Stage

/-- What the reader does about a chunk. -/
def takeChunk (now : T) (chunk : Chunk) (st : Stage T σ) : Stage T σ :=
  match chunk with
  | .blocked => { st with session := { st.session with reader := .waiting } }
  | .nothing | .bytes [] | .text "" => st.endReading
  | .text _ => st.stopReading .textForBytes
  | .failed e => st.stopReading e
  | .bytes bytes =>
    match st.session.decoder.feed bytes with
    | some (text, decoder) => st.takeIn now text decoder
    | none => st.stopReading .markMissing

/-- The chunk that the reader gets next, and the stage after the read. -/
def readChunk (st : Stage T σ) : Chunk × Stage T σ :=
  st.act (st.session.link.read st.session.conduct.bufferSize)

/-- One read, and what the reader does about it. -/
def readOnce (now : T) (st : Stage T σ) : Stage T σ := st.readChunk.2.takeChunk now st.readChunk.1

/-- The reader has ended, and with it the output: `tail` is the last text. -/
def ended (tail : List Char) (st : Stage T σ) : Stage T σ :=
  { st with
    process := (st.session.link.closeOutput st.process).2
    session := { st.session with
      reader := .ended, buffer := st.session.buffer ++ tail, eof := true, stirred := true } }

/-- What trimming `size` characters puts on record. -/
def trimRecords (c : Conduct T) (size : Nat) : List Record :=
  if c.surplus size = 0 then [] else [.dropped (c.surplus size)]

theorem trim_eq (st : Stage T σ) :
    st.trim = { st with
      log := st.log ++ trimRecords st.session.conduct st.before.length
      session := { st.session with
        buffer := (st.before.drop (st.session.conduct.surplus st.before.length)).toArray } } := by
  simp only [trim, trimRecords, Conduct.surplus, before, Array.length_toList]
  rcases Option.eq_none_or_eq_some st.session.conduct.bufferLimit with hl | ⟨limit, hl⟩
  · simp [hl]
  · by_cases h : st.session.buffer.size ≤ limit
    · simp [hl, h, show st.session.buffer.size - limit = 0 by omega]
    · have hne : st.session.buffer.size - limit ≠ 0 := by omega
      have hextract : st.session.buffer.extract (st.session.buffer.size - limit) st.session.buffer.size =
          (st.session.buffer.toList.drop (st.session.buffer.size - limit)).toArray := by
        apply Array.ext'
        simp [List.take_of_length_le]
      simp only [hl, h, if_false, note, Desk.note, Option.elim_some, hne, hextract]

theorem takeIn_eq (now : T) (text : List Char) (decoder : Decoder) (st : Stage T σ) :
    st.takeIn now text decoder = { st with
      log := st.log ++ ((if st.session.conduct.verbose then [.received text] else []) ++
        trimRecords st.session.conduct (st.before ++ text).length)
      session := { st.session with
        buffer := ((st.before ++ text).drop (st.session.conduct.surplus (st.before ++ text).length)).toArray
        decoder, lastRead := now, stirred := true } } := by
  have hnote : (if st.session.conduct.verbose then st.note (.received text) else st) =
      { st with log := st.log ++ if st.session.conduct.verbose then [.received text] else [] } := by
    split <;> simp [note, Desk.note]
  have hbuffer : (st.session.buffer ++ text).toList = st.before ++ text := by simp [before]
  simp only [takeIn, hnote, trim_eq]
  simp only [before, hbuffer, List.append_assoc]

theorem readChunk_session (st : Stage T σ) : st.readChunk.2.session = st.session := rfl

theorem readOn_succ (now : T) (fuel : Nat) (st : Stage T σ) :
    readOn now (fuel + 1) st =
      if st.readChunk.1.goesOn st.session.decoder then readOn now fuel (st.readOnce now)
      else st.readOnce now := by
  rw [readOn, ← readChunk, readOnce, ← readChunk_session st]
  rcases st.readChunk with ⟨chunk, st'⟩
  rcases chunk with (_ | ⟨b, bs⟩) | s | _ | e | _
  case bytes.cons =>
    simp only [Chunk.goesOn, takeChunk]
    rcases Option.eq_none_or_eq_some (st'.session.decoder.feed (b :: bs)) with hf | ⟨x, hf⟩ <;> simp [hf]
  case text =>
    by_cases hs : s = ""
    · subst hs
      rfl
    · simp [Chunk.goesOn, takeChunk]
  all_goals rfl

/-- The reader goes on with the text of a chunk. -/
theorem readOnce_of_goesOn (now : T) {st : Stage T σ} (h : st.readChunk.1.goesOn st.session.decoder) :
    ∃ b bs text decoder, st.readChunk.1 = .bytes (b :: bs) ∧
      st.session.decoder.feed (b :: bs) = some (text, decoder) ∧
      st.readOnce now = st.readChunk.2.takeIn now text decoder := by
  rcases hx : st.readChunk.1 with (_ | ⟨b, bs⟩) | s | _ | e | _
  case bytes.cons =>
    rw [hx] at h
    obtain ⟨⟨text, decoder⟩, hf⟩ : ∃ r, st.session.decoder.feed (b :: bs) = some r :=
      Option.isSome_iff_exists.1 h
    exact ⟨b, bs, text, decoder, rfl, hf, by simp only [readOnce, hx, takeChunk, readChunk_session, hf]⟩
  all_goals simp [hx, Chunk.goesOn] at h

/-- The reader is alive as long as it goes on. -/
theorem isAlive_of_goesOn (now : T) {st : Stage T σ} (h : st.readChunk.1.goesOn st.session.decoder)
    (halive : st.session.reader.isAlive) : (st.readOnce now).session.reader.isAlive := by
  obtain ⟨_, _, _, _, -, -, heq⟩ := readOnce_of_goesOn now h
  rw [heq, takeIn_eq]
  exact halive

/-- The reader waits when there is nothing to read. -/
theorem readOnce_of_blocked (now : T) {st : Stage T σ} (h : st.readChunk.1 = .blocked) :
    st.readOnce now = { st.readChunk.2 with session := { st.session with reader := .waiting } } := by
  simp only [readOnce, h, takeChunk, readChunk_session]

theorem endReading_of_none (st : Stage T σ) (h : st.session.decoder.finish = none) :
    st.endReading = { st with session := { st.session with reader := .ended } } := by
  simp only [endReading, h]

/-- Without a wait for the exit, the end of the output is the exit, unless closing fails. -/
theorem endReading_of_some (st : Stage T σ) {tail : List Char} (h : st.session.decoder.finish = some tail) :
    st.endReading =
      if st.session.link.wait.isNone && (st.session.link.closeOutput st.process).1.isOk then
        ((st.ended tail).fulfil none).2
      else st.ended tail := by
  simp only [endReading, h, publishEnd, act, Desk.act]
  split
  · next e _ heq =>
    obtain ⟨herror, rfl⟩ := Prod.mk.inj heq
    rw [if_neg (by simp [herror, Except.isOk, Except.toBool])]
    rfl
  · next heq =>
    obtain ⟨hok, rfl⟩ := Prod.mk.inj heq
    simp only [hok, Except.isOk, Except.toBool, Bool.and_true]
    rfl

/-- A chunk that ends the reader does nothing else, but that a failure of the stream is on record. -/
theorem takeChunk_of_stops (st : Stage T σ) {chunk : Chunk} (now : T)
    (h : chunk.stops st.session.decoder) : st.takeChunk now chunk = st.endReading ∨
      st.takeChunk now chunk =
        (st.note (.readerStopped (st.session.link.outputName st.process))).endReading := by
  have hstop (e : Failure) : st.stopReading e = st.endReading ∨ st.stopReading e =
      (st.note (.readerStopped (st.session.link.outputName st.process))).endReading := by
    simp only [stopReading]
    split
    · exact .inr rfl
    · exact .inl rfl
  rcases chunk with (_ | ⟨b, bs⟩) | s | _ | e | _
  case bytes.cons =>
    have hf : st.session.decoder.feed (b :: bs) = none := by
      simpa [Chunk.stops, Chunk.goesOn] using h
    simpa only [takeChunk, hf] using hstop .markMissing
  case text =>
    by_cases hs : s = ""
    · subst hs
      exact .inl rfl
    · simpa only [takeChunk] using hstop .textForBytes
  case failed => exact hstop e
  case blocked => simp [Chunk.stops] at h
  all_goals exact .inl rfl

end Stage

/-- A session that begins at a desk changes nothing there but the count of starts. -/
theorem Stage.begin_eq (session : Session T σ) (d : Desk σ) : ∃ starts reader waiter,
    (begin session d).2 = { d with starts, session := { session with reader, waiter } } ∧
      (reader = session.reader ∨ reader = .ready) := by
  simp only [begin, Desk.countStart]
  cases d.refusal (d.starts + 1) with
  | some e => exact ⟨_, _, _, rfl, .inl rfl⟩
  | none =>
    by_cases hnone : session.link.wait.isNone
    · simp only [hnone, if_true]
      exact ⟨_, _, _, rfl, .inr rfl⟩
    · simp only [hnone]
      cases d.refusal (d.starts + 1 + 1) <;> exact ⟨_, _, _, rfl, .inr rfl⟩

/-- How a session begins that waits for the exit: its reader is started, and then its waiter. -/
theorem Stage.begin_cases (session : Session T σ) (hawaited : session.link.wait.isSome) (d : Desk σ) :
    (∃ e, d.refusal (d.starts + 1) = some e ∧
      begin session d = (.error e, { d with starts := d.starts + 1, session })) ∨
    d.refusal (d.starts + 1) = none ∧
      ((∃ e, d.refusal (d.starts + 1 + 1) = some e ∧ begin session d =
          (.error e, { d with starts := d.starts + 1 + 1, session := { session with reader := .ready } })) ∨
        d.refusal (d.starts + 1 + 1) = none ∧ begin session d =
          (.ok (), { d with
            starts := d.starts + 1 + 1, session := { session with reader := .ready, waiter := .ready } })) := by
  have hwait : session.link.wait.isNone = false := by simpa using hawaited
  simp only [begin, Desk.countStart, hwait]
  cases hreader : d.refusal (d.starts + 1) with
  | some e => exact .inl ⟨e, rfl, rfl⟩
  | none =>
    refine .inr ⟨rfl, ?_⟩
    simp only [Bool.false_eq_true, if_false]
    cases d.refusal (d.starts + 1 + 1) with
    | some e => exact .inl ⟨e, rfl, rfl⟩
    | none => exact .inr ⟨rfl, rfl⟩

/-- A session begins if none of its background work is refused. -/
theorem Stage.begin_unrefused (session : Session T σ) (d : Desk σ) (hreader : d.refusal (d.starts + 1) = none)
    (hwaiter : d.refusal (d.starts + 1 + 1) = none) : ∃ starts reader waiter,
      begin session d = (.ok (), { d with starts, session := { session with reader, waiter } }) := by
  simp only [begin, Desk.countStart, hreader]
  split
  · exact ⟨_, _, _, rfl⟩
  · simp only [hwaiter]
    exact ⟨_, _, _, rfl⟩

/-- Only the count of starts and the two background tasks can differ from what they were before a session
began. -/
theorem Setting.opened_world (S : Setting σ M) (c : Conduct T) (timeout : Span T) (now : T)
    (agenda : List (Appointment T M)) (d : Desk σ) : ∃ starts, ∃ reader waiter : Task,
    (S.opened c timeout now agenda d).world =
        { d with starts, session := { Session.ofLink S.link c timeout now with reader, waiter } } ∧
      (reader = .idle ∨ reader = .ready) :=
  Stage.begin_eq (.ofLink S.link c timeout now) d

theorem Setting.opened_conduct (S : Setting σ M) (c : Conduct T) (timeout : Span T) (now : T)
    (agenda : List (Appointment T M)) (d : Desk σ) :
    (S.opened c timeout now agenda d).world.session.conduct = c := by
  obtain ⟨starts, reader, waiter, heq, -⟩ := S.opened_world c timeout now agenda d
  rw [heq]
  rfl

theorem Setting.opened_link (S : Setting σ M) (c : Conduct T) (timeout : Span T) (now : T)
    (agenda : List (Appointment T M)) (d : Desk σ) :
    (S.opened c timeout now agenda d).world.session.link = S.link := by
  obtain ⟨_, _, _, heq, -⟩ := S.opened_world c timeout now agenda d
  rw [heq]
  rfl

/-! ## The waiter -/

theorem Stage.endWaiting_frame (outcome : Except Failure Unit) (st : Stage T σ) :
    (st.endWaiting outcome).process = st.process ∧
      ∃ channel, (st.endWaiting outcome).session = { st.session with channel, waiter := .ended } := by
  unfold endWaiting
  cases outcome with
  | ok _ => exact ⟨rfl, _, rfl⟩
  | error e =>
    simp only
    split <;> exact ⟨rfl, _, rfl⟩

/-- After it has asked for the exit, the waiter has ended, or waits because the process goes on. -/
theorem Stage.pollExit_frame (wait : Wait σ) (st : Stage T σ) :
    (st.pollExit wait).process = (wait.poll st.process).2.2 ∧
      ∃ channel waiter, (st.pollExit wait).session = { st.session with channel, waiter } ∧
        (waiter = .ended ∨ waiter = .waiting ∧ (wait.poll st.process).1 = none) := by
  have hpoll : (st.actNoting wait.poll).1 = (wait.poll st.process).1 ∧
      (st.actNoting wait.poll).2.process = (wait.poll st.process).2.2 ∧
      (st.actNoting wait.poll).2.session = st.session := ⟨rfl, rfl, rfl⟩
  simp only [pollExit]
  split
  · next outcome st' heq =>
    rw [heq] at hpoll
    obtain ⟨hprocess, channel, hsession⟩ := st'.endWaiting_frame outcome
    rw [hpoll.2.2] at hsession
    exact ⟨hprocess.trans hpoll.2.1, channel, .ended, hsession, .inl rfl⟩
  · next st' heq =>
    rw [heq] at hpoll
    refine ⟨hpoll.2.1, st.session.channel, .waiting, ?_, .inr ⟨rfl, hpoll.1.symm⟩⟩
    rw [← hpoll.2.2]

theorem Stage.runWaiter_session (st : Stage T σ) :
    ∃ channel waiter, st.runWaiter.session = { st.session with channel, waiter } := by
  unfold runWaiter
  split
  · next wait _ _ =>
    obtain ⟨-, channel, waiter, hsession, -⟩ := pollExit_frame wait { st with process := wait.begin st.process }
    exact ⟨channel, waiter, hsession⟩
  · next wait _ _ =>
    obtain ⟨-, channel, waiter, hsession, -⟩ := pollExit_frame wait st
    exact ⟨channel, waiter, hsession⟩
  · exact ⟨st.session.channel, st.session.waiter, rfl⟩

/-- A waiter that was let go on has ended, or waits, and the process has just said that it goes on. -/
theorem Stage.runWaiter_polled {st : Stage T σ} {wait : Wait σ} (hwait : st.session.link.wait = some wait)
    (hstarted : st.session.waiter ≠ .idle) :
    st.runWaiter.session.waiter = .ended ∨ st.runWaiter.session.waiter = .waiting ∧
      ∃ w, (wait.poll w).1 = none ∧ (wait.poll w).2.2 = st.runWaiter.process := by
  have hpolled (st : Stage T σ) : (st.pollExit wait).session.waiter = .ended ∨
      (st.pollExit wait).session.waiter = .waiting ∧
        ∃ w, (wait.poll w).1 = none ∧ (wait.poll w).2.2 = (st.pollExit wait).process := by
    obtain ⟨hprocess, channel, waiter, hsession, hwaiter⟩ := st.pollExit_frame wait
    rw [hsession, hprocess]
    rcases hwaiter with hended | ⟨hwaiting, hnone⟩
    · exact .inl hended
    · exact .inr ⟨hwaiting, st.process, hnone, rfl⟩
  simp only [runWaiter, hwait]
  cases hwaiter : st.session.waiter with
  | ready => exact hpolled _
  | waiting => exact hpolled st
  | idle => exact absurd hwaiter hstarted
  | ended => exact .inl hwaiter

/-! ## What is sent -/

/-- Sending does nothing, or writes, after a note if sessions put on record what they do, and then may flush. -/
theorem Stage.send_cases (data : Payload) (st : Stage T σ) :
    (st.send data).2 = st ∨ ∃ noted bytes, (noted = st ∨ noted = st.note (.sent data.toValue)) ∧
      ((st.send data).2 = (noted.act (st.session.link.write bytes)).2 ∨
        (st.send data).2 = ((noted.act (st.session.link.write bytes)).2.act st.session.link.flush).2) := by
  simp only [send]
  split
  · exact .inl rfl
  · split
    · exact .inl rfl
    · next bytes _ =>
      right
      have hnoted : ∃ noted, (if st.session.conduct.verbose then st.note (.sent data.toValue) else st) = noted ∧
          (noted = st ∨ noted = st.note (.sent data.toValue)) := by
        split
        · exact ⟨_, rfl, .inr rfl⟩
        · exact ⟨_, rfl, .inl rfl⟩
      obtain ⟨noted, heq, hnoted⟩ := hnoted
      have hlink : noted.session.link = st.session.link := by
        rcases hnoted with rfl | rfl <;> rfl
      refine ⟨noted, bytes, hnoted, ?_⟩
      rw [heq, hlink]
      split
      · next hwrite => exact .inl (congrArg Prod.snd hwrite).symm
      · next written hwrite =>
        obtain rfl : (noted.act (st.session.link.write bytes)).2 = written := congrArg Prod.snd hwrite
        have hwritten : (noted.act (st.session.link.write bytes)).2.session.link = st.session.link := hlink
        rw [hwritten]
        exact .inr rfl

/-- What callers do touches neither the text nor the background work. -/
theorem Stage.perform_session (cue : SessionCue) (st : Stage T σ) :
    ∃ closed channel, (st.perform cue).2.session = { st.session with closed, channel } := by
  cases cue with
  | send data =>
    refine ⟨st.session.closed, st.session.channel, ?_⟩
    change (st.send data).2.session = st.session
    rcases st.send_cases data with heq | ⟨noted, bytes, hnoted, hsent⟩
    · rw [heq]
    · have hsession : noted.session = st.session := by
        rcases hnoted with rfl | rfl <;> rfl
      rw [← hsession]
      rcases hsent with heq | heq <;> rw [heq] <;> rfl
  | close =>
    change ∃ closed channel, st.close.2.session = { st.session with closed, channel }
    unfold close
    split
    · exact ⟨st.session.closed, st.session.channel, rfl⟩
    · exact ⟨true, st.session.channel, rfl⟩
  | subscribe callback => exact ⟨st.session.closed, _, rfl⟩

/-! ## Steps aside -/

/-- What can be done to the process without reading from it. -/
inductive Setting.Touch (S : Setting σ M) : σ → σ → Prop
  | none (w : σ) : S.Touch w w
  | write (bytes : List UInt8) (w : σ) : S.Touch w (S.link.write bytes w).2
  | flush (w : σ) : S.Touch w (S.link.flush w).2
  | hangUp (w : σ) : S.Touch w (S.link.hangUp w).2
  | begin {wait : Wait σ} (h : wait ∈ S.link.wait) (w : σ) : S.Touch w (wait.begin w)
  | poll {wait : Wait σ} (h : wait ∈ S.link.wait) (w : σ) : S.Touch w (wait.poll w).2.2
  | outside {m : M} {f : σ → Except Failure Unit × List Record × σ} (h : S.moves m = .outside f) (w : σ) :
    S.Touch w (f w).2.2

/-- Neither the text nor the reader is touched: something may have been done to the process and put on
record, and the input, the exit and the waiter may have gone on. -/
structure Aside (S : Setting σ M) (st st' : Stage T σ) : Prop where
  touch : S.Touch st.process st'.process
  log : ∃ records, st'.log = st.log ++ records ∧ records.filterMap Record.removal? = []
  session : ∃ closed channel waiter, st'.session = { st.session with closed, channel, waiter }

namespace Aside

variable {S : Setting σ M} {st st' : Stage T σ}

theorem link_eq (h : Aside S st st') : st'.session.link = st.session.link := by
  obtain ⟨closed, channel, waiter, hs⟩ := h.session
  rw [hs]

theorem note {r : Record} (hr : r.removal? = none) : Aside S st (st.note r) :=
  ⟨.none _, ⟨[r], rfl, by simp [hr]⟩, ⟨_, _, _, rfl⟩⟩

theorem act {α : Type} {f : σ → α × σ} (h : S.Touch st.process (f st.process).2) :
    Aside S st (st.act f).2 :=
  ⟨h, ⟨[], by simp [Stage.act, Desk.act], rfl⟩, ⟨_, _, _, rfl⟩⟩

theorem actNoting {α : Type} {f : σ → α × List Record × σ} (h : S.Touch st.process (f st.process).2.2)
    (hr : (f st.process).2.1.filterMap Record.removal? = []) : Aside S st (st.actNoting f).2 :=
  ⟨h, ⟨_, rfl, hr⟩, ⟨_, _, _, rfl⟩⟩

/-- Callbacks put nothing on record but their failures. -/
theorem runAll_discreet (waiting : List Callback) (c : Channel) :
    (Channel.runAll waiting c).2.1.filterMap Record.removal? = [] := by
  induction waiting generalizing c with
  | nil => rfl
  | cons callback rest ih =>
    simp only [Channel.runAll]
    split
    · exact ih _
    · split
      · simpa [Record.removal?] using ih _
      · rfl

theorem waiter (waiter : Task) : Aside S st { st with session := { st.session with waiter } } :=
  ⟨.none _, ⟨[], by simp, rfl⟩, ⟨_, _, _, rfl⟩⟩

theorem fulfil (exit : Exit) : Aside S st (st.fulfil exit).2 := by
  refine ⟨.none _, ⟨(st.session.channel.fulfil exit).2.1, rfl, ?_⟩, ⟨_, _, _, rfl⟩⟩
  simp only [Channel.fulfil]
  split
  · exact runAll_discreet _ _
  · rfl

theorem subscribe (callback : Callback) : Aside S st (st.subscribe callback).2 :=
  ⟨.none _, ⟨[], by simp [Stage.subscribe], rfl⟩, ⟨_, _, _, rfl⟩⟩

end Aside

/-! ## What goes on by itself -/

/-- What each step keeps at a time at which nothing is matched. -/
structure Ongoing (S : Setting σ M) (now : T) (P : Stage T σ → Prop) : Prop where
  aside : ∀ {st st'}, P st → Aside S st st' → P st'
  /-- There is nothing to read at the moment. -/
  pause : ∀ {st}, st.session.link = S.link → P st → st.session.reader.isAlive → st.readChunk.1 = .blocked →
    P { st.readChunk.2 with session := { st.session with reader := .waiting } }
  /-- A chunk of text comes in. -/
  take : ∀ {st bytes text decoder}, st.session.link = S.link → P st → st.session.reader.isAlive →
    st.readChunk.1 = .bytes bytes → bytes ≠ [] → st.session.decoder.feed bytes = some (text, decoder) →
    P (st.readChunk.2.takeIn now text decoder)
  /-- The reader ends, and publishes the end of the output. -/
  stop : ∀ {st tail}, st.session.link = S.link → P st → st.session.reader.isAlive →
    st.readChunk.1.stops st.session.decoder → st.session.decoder.finish = some tail →
    P (st.readChunk.2.ended tail)
  /-- The reader ends, and its decoder cannot be finished. -/
  fail : ∀ {st}, st.session.link = S.link → P st → st.session.reader.isAlive →
    st.readChunk.1.stops st.session.decoder → st.session.decoder.finish = none →
    P { st.readChunk.2 with session := { st.session with reader := .ended } }

/-- Something that holds of a session linked to what the setting says. -/
abbrev Linked (S : Setting σ M) (P : Stage T σ → Prop) (st : Stage T σ) : Prop :=
  st.session.link = S.link ∧ P st

namespace Ongoing

variable {S : Setting σ M} {now : T} {P : Stage T σ → Prop} {st : Stage T σ}

theorem step_aside (hs : Ongoing S now P) {st' : Stage T σ} (h : Linked S P st) (ha : Aside S st st') :
    Linked S P st' :=
  ⟨ha.link_eq.trans h.1, hs.aside h.2 ha⟩

theorem endReading (hs : Ongoing S now P) (h : Linked S P st) (halive : st.session.reader.isAlive)
    (hstops : st.readChunk.1.stops st.session.decoder) :
    Linked S P st.readChunk.2.endReading ∧
      ∀ r : Record, r.removal? = none → Linked S P (st.readChunk.2.note r).endReading := by
  -- A reader that fails puts on record what it failed of before it ends, and the order does not matter.
  cases hf : st.session.decoder.finish with
  | none =>
    have hfail : Linked S P { st.readChunk.2 with session := { st.session with reader := .ended } } :=
      ⟨h.1, hs.fail h.1 h.2 halive hstops hf⟩
    refine ⟨?_, fun r hr => ?_⟩
    · rw [Stage.endReading_of_none st.readChunk.2 hf]
      exact hfail
    · rw [Stage.endReading_of_none (st.readChunk.2.note r) hf]
      exact hs.step_aside hfail (.note hr)
  | some tail =>
    have hended : Linked S P (st.readChunk.2.ended tail) := ⟨h.1, hs.stop h.1 h.2 halive hstops hf⟩
    refine ⟨?_, fun r hr => ?_⟩
    · rw [Stage.endReading_of_some st.readChunk.2 hf]
      split
      · exact hs.step_aside hended (.fulfil none)
      · exact hended
    · have hnoted : Linked S P ((st.readChunk.2.note r).ended tail) := hs.step_aside hended (.note hr)
      rw [Stage.endReading_of_some (st.readChunk.2.note r) hf]
      split
      · exact hs.step_aside hnoted (.fulfil none)
      · exact hnoted

theorem readOnce (hs : Ongoing S now P) (h : Linked S P st) (halive : st.session.reader.isAlive) :
    Linked S P (st.readOnce now) := by
  by_cases hgo : st.readChunk.1.goesOn st.session.decoder
  · obtain ⟨b, bs, text, decoder, hchunk, hf, heq⟩ := Stage.readOnce_of_goesOn now hgo
    rw [heq]
    exact ⟨by rw [Stage.takeIn_eq]; exact h.1, hs.take h.1 h.2 halive hchunk (by simp) hf⟩
  by_cases hstops : st.readChunk.1.stops st.session.decoder
  · obtain ⟨hend, hnote⟩ := hs.endReading h halive hstops
    rcases Stage.takeChunk_of_stops st.readChunk.2 now hstops with heq | heq
    · rwa [Stage.readOnce, heq]
    · rw [Stage.readOnce, heq]
      exact hnote _ rfl
  · have hblocked := Chunk.eq_blocked hgo hstops
    rw [Stage.readOnce_of_blocked now hblocked]
    exact ⟨h.1, hs.pause h.1 h.2 halive hblocked⟩

theorem runReader (hs : Ongoing S now P) (h : Linked S P st) : Linked S P (st.runReader now) := by
  have hread (fuel : Nat) : ∀ {st : Stage T σ}, Linked S P st → st.session.reader.isAlive →
      Linked S P (st.readOn now fuel) := by
    induction fuel with
    | zero => exact fun h _ => h
    | succ fuel ih =>
      intro st h halive
      rw [Stage.readOn_succ]
      split
      · next hgo => exact ih (hs.readOnce h halive) (Stage.isAlive_of_goesOn now hgo halive)
      · exact hs.readOnce h halive
  simp only [Stage.runReader]
  split
  · next halive => exact hread _ h halive
  · exact h

theorem pollExit (hs : Ongoing S now P) {wait : Wait σ} (hw : wait ∈ S.link.wait) (h : Linked S P st) :
    Linked S P (st.pollExit wait) := by
  have hpoll : Linked S P (st.actNoting wait.poll).2 :=
    hs.step_aside h (.actNoting (.poll hw _) (S.wait_discreet _ hw _))
  simp only [Stage.pollExit]
  split
  · next outcome st' heq =>
    rw [heq] at hpoll
    have hended := hs.step_aside hpoll (.waiter .ended)
    cases outcome with
    | ok _ => exact hs.step_aside (hs.step_aside hended (.note rfl)) (.fulfil none)
    | error e =>
      simp only [Stage.endWaiting]
      split
      · exact hs.step_aside (hs.step_aside hended (.note rfl)) (.fulfil (some e))
      · exact hended
  · next heq =>
    rw [heq] at hpoll
    exact hs.step_aside hpoll (.waiter .waiting)

theorem runWaiter (hs : Ongoing S now P) (h : Linked S P st) : Linked S P st.runWaiter := by
  simp only [Stage.runWaiter]
  split
  · next wait hw _ =>
    have hw : wait ∈ S.link.wait := by rw [← h.1, hw]; rfl
    exact hs.pollExit hw (hs.step_aside h ⟨.begin hw _, ⟨[], by simp, rfl⟩, ⟨_, _, _, rfl⟩⟩)
  · next wait hw _ =>
    exact hs.pollExit (by rw [← h.1, hw]; rfl) h
  · exact h

theorem send (hs : Ongoing S now P) (data : Payload) (h : Linked S P st) :
    Linked S P (st.send data).2 := by
  rcases st.send_cases data with heq | ⟨noted, bytes, hnoted, hsent⟩
  · rwa [heq]
  · have hnoted : Linked S P noted := by
      rcases hnoted with rfl | rfl
      · exact h
      · exact hs.step_aside h (.note rfl)
    have hwritten : Linked S P (noted.act (S.link.write bytes)).2 := hs.step_aside hnoted (.act (.write bytes _))
    rw [h.1] at hsent
    rcases hsent with heq | heq
    · rwa [heq]
    · rw [heq]
      exact hs.step_aside hwritten (.act (.flush _))

theorem close (hs : Ongoing S now P) (h : Linked S P st) : Linked S P st.close.2 := by
  simp only [Stage.close]
  split
  · exact h
  · have hclosed : Linked S P { st with session := { st.session with closed := true } } :=
      hs.step_aside h ⟨.none _, ⟨[], by simp, rfl⟩, ⟨_, _, _, rfl⟩⟩
    refine hs.step_aside hclosed (.act ?_)
    rw [h.1]
    exact .hangUp _

theorem settle (hs : Ongoing S now P) (h : Linked S P st) : Linked S P (st.settle now) :=
  hs.runWaiter (hs.runReader h)

theorem perform (hs : Ongoing S now P) (cue : SessionCue) (h : Linked S P st) :
    Linked S P (st.perform cue).2 :=
  match cue with
  | .send data => hs.send data h
  | .close => hs.close h
  | .subscribe callback => hs.step_aside h (.subscribe callback)

theorem outside (hs : Ongoing S now P) {m : M} {f : σ → Except Failure Unit × List Record × σ}
    (hm : S.moves m = .outside f) (h : Linked S P st) : Linked S P (st.actNoting f).2 :=
  hs.step_aside h (.actNoting (.outside hm _) (S.moves_discreet _ _ hm _))

end Ongoing

/-! ## Invariants by steps -/

variable [Moment T]

/-- A match takes the front of the buffer. -/
theorem Stage.before_consume (st : Stage T σ) (f : Finding) (elapsed : T) :
    st.before = (st.consume f elapsed).1.output ++ (st.consume f elapsed).2.before := by
  simp [consume, before, note, List.take_of_length_le]

/-- What each step of a run keeps. -/
structure Steady (S : Setting σ M) (P : T → List (Match T) → Stage T σ → Prop) : Prop where
  ongoing : ∀ t l, Ongoing S t (P t l)
  pass : ∀ {t l st} (due : T), P t l st → P (Moment.later t due) l st
  calm : ∀ {t l st}, P t l st → P t l st.calm
  consume : ∀ {t l st} (f : Finding) (elapsed : T), P t l st →
    P t (l ++ [(st.consume f elapsed).1]) (st.consume f elapsed).2

namespace Steady

variable {S : Setting σ M} {P : T → List (Match T) → Stage T σ → Prop}

/-- What every step keeps is never broken. -/
theorem kept (hs : Steady S P) : Kept S fun t l => Linked S (P t l) where
  pass due h := ⟨h.1, hs.pass due h.2⟩
  settle h := (hs.ongoing _ _).settle h
  perform cue h := (hs.ongoing _ _).perform cue h
  outside hm h := (hs.ongoing _ _).outside hm h
  calm h := ⟨h.1, hs.calm h.2⟩
  consume f elapsed h := ⟨h.1, hs.consume f elapsed h.2⟩

/-- What every step keeps holds after every run of a session for which it held when it began. -/
theorem run (hs : Steady S P) {c : Conduct T} {timeout : Span T} {now : T} {agenda : List (Appointment T M)}
    {d : Desk σ} (h : P now [] (S.opened c timeout now agenda d).world) (deeds : List (Deed T M)) :
    let r := Deed.run S.life deeds (S.opened c timeout now agenda d)
    Linked S (P r.2.now (Deed.allTaken S.life deeds (S.opened c timeout now agenda d))) r.2.world := by
  exact hs.kept.run deeds _ ⟨S.opened_link c timeout now agenda d, h⟩

/-- A session keeps its conduct. -/
theorem conduct (S : Setting σ M) (c : Conduct T) : Steady S fun (_ : T) _ st => st.session.conduct = c where
  ongoing _ _ :=
    { aside := fun h ha => by
        obtain ⟨closed, channel, waiter, hs⟩ := ha.session
        rw [hs]
        exact h
      pause := fun _ h _ _ => h
      take := fun _ h _ _ _ _ => by
        rw [Stage.takeIn_eq]
        exact h
      stop := fun _ h _ _ _ => h
      fail := fun _ h _ _ _ => h }
  pass _ h := h
  calm h := h
  consume _ _ h := h

end Steady

end Dialogue
