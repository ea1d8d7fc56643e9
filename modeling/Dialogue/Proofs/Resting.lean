import Dialogue.Proofs.Rehearsing
import Dialogue.Proofs.Waiting
/-!
# Rehearsals come to rest

The output of a stand-in makes a reader wait only if it is a feed with nothing pending, and every other
read leaves less to read. So the background work of a rehearsal comes to rest (`Company.restful`): it
reads all there is to read, and goes on only when something is done to the stand-in.
-/

namespace Dialogue

namespace Output

/-- Every read answers, but for one that waits for a feed. -/
def Prompt : Output → Prop
  | script s => ∀ chunk ∈ s.items, chunk ≠ .blocked
  | _ => True

/-- What can be done to an output without reading from it. -/
inductive Handled : Output → Output → Prop
  | none (o : Output) : Handled o o
  | fed (f : Feed) (bytes : List UInt8) : Handled (feed f) (feed (f.feed bytes))
  | finished (f : Feed) : Handled (feed f) (feed f.finish)
  | closed (o : Output) : Handled o o.close.2

theorem Handled.prompt {o o' : Output} (h : Handled o o') (hp : o.Prompt) : o'.Prompt := by
  cases h with
  | none => exact hp
  | fed => trivial
  | finished => trivial
  | closed => cases o <;> exact hp

theorem Prompt.read {o : Output} (h : o.Prompt) (n : Nat) : (o.read (some n)).2.Prompt := by
  rcases o with f | ⟨rest, closed⟩ | s
  · simp only [Output.read]
    split <;> trivial
  · simp only [Output.read]
    split <;> trivial
  · simp only [Output.read]
    split
    · next hitems => simp only [Prompt, hitems]; exact fun _ hc => nomatch hc
    · next hitems =>
      exact fun chunk hc => h chunk (hitems ▸ List.mem_cons_of_mem _ hc)

theorem Prompt.read_blocked {o : Output} (h : o.Prompt) {n : Nat} (hb : (o.read (some n)).1 = .blocked) :
    (o.read (some n)).2 = o := by
  rcases o with f | ⟨rest, closed⟩ | s
  · simp only [Output.read] at hb ⊢
    split at hb <;> simp_all
  · simp only [Output.read] at hb
    split at hb <;> simp at hb
  · simp only [Output.read] at hb
    split at hb
    · simp at hb
    · next item _ hitems => exact absurd hb (h item (by simp [hitems]))

/-- A read that gives bytes leaves less to read. -/
theorem remaining_read {o : Output} {n : Nat} {b : UInt8} {bs : List UInt8}
    (h : (o.read (some n)).1 = .bytes (b :: bs)) : (o.read (some n)).2.remaining < o.remaining := by
  have hdrop {rest : List UInt8} (htake : rest.take n = b :: bs) : (rest.drop n).length < rest.length := by
    have hlength := congrArg List.length (List.take_append_drop n rest)
    rw [htake, List.length_append, List.length_cons] at hlength
    omega
  rcases o with f | ⟨rest, closed⟩ | s
  · simp only [Output.read] at h ⊢
    split at h
    · next hreadable =>
      rw [if_pos hreadable]
      exact Nat.succ_lt_succ (hdrop (Chunk.bytes.inj h))
    · simp at h
  · simp only [Output.read] at h ⊢
    split at h
    · simp at h
    · next hopen =>
      rw [if_neg hopen]
      exact Nat.succ_lt_succ (hdrop (Chunk.bytes.inj h))
  · simp only [Output.read] at h ⊢
    split at h
    · simp at h
    · next hitems => simp [hitems, remaining]

end Output

theorem StandIn.feed_handled (bytes : List UInt8) (x : StandIn) :
    Output.Handled x.output (x.feed bytes).2.output := by
  unfold feed
  split
  · next f hf => exact hf ▸ .fed f bytes
  · exact .none _

theorem StandIn.finish_handled (x : StandIn) : Output.Handled x.output x.finish.output := by
  unfold finish
  split
  · next f hf => exact hf ▸ .finished f
  · exact .none _

namespace Company

variable {T : Type} {awaited : Bool} {hookError : Option (Option Failure)} {st : Stage T Company}

theorem handled {c c' : Company} (h : (setting awaited hookError).Touch c c') :
    Output.Handled c.lead.output c'.lead.output := by
  cases h with
  | none => exact .none _
  | write => exact .none _
  | flush => exact .none _
  | hangUp => cases hookError <;> exact .none _
  | begin hw => rw [wait_eq hw]; exact .none _
  | poll hw => rw [wait_eq hw]; exact .none _
  | @outside cue f hm =>
    cases cue with
    | session cue => simp [setting, Cue.move] at hm
    | feed bytes =>
      obtain rfl := Move.outside.inj hm
      exact StandIn.feed_handled bytes c.lead
    | finish =>
      obtain rfl := Move.outside.inj hm
      exact StandIn.finish_handled c.lead
    | exit e =>
      obtain rfl := Move.outside.inj hm
      exact StandIn.finish_handled c.lead
    | closeOutput =>
      obtain rfl := Move.outside.inj hm
      exact .closed _
    | step s => cases s <;> (obtain rfl := Move.outside.inj hm; exact .none _)
    | _ => obtain rfl := Move.outside.inj hm; exact .none _

/-! ## The reader and the waiter -/

theorem readChunk_fst (h : st.session.link = link awaited hookError) :
    st.readChunk.1 = (st.process.lead.output.read (some st.session.conduct.bufferSize)).1 := by
  rw [Stage.readChunk, h]
  rfl

theorem readChunk_output (h : st.session.link = link awaited hookError) :
    st.readChunk.2.process.lead.output =
      (st.process.lead.output.read (some st.session.conduct.bufferSize)).2 := by
  rw [Stage.readChunk, h]
  rfl

theorem readChunk_blocked (h : st.session.link = link awaited hookError)
    (hb : st.process.lead.output.read (some st.session.conduct.bufferSize) = (.blocked, st.process.lead.output)) :
    st.readChunk = (.blocked, st) := by
  rw [Stage.readChunk, h]
  simp only [Stage.act, Desk.act, link, Part.onLink, Part.on, leadPart, StandIn.link, StandIn.read, hb]

theorem closeOutput_output (h : st.session.link = link awaited hookError) (c : Company) :
    (st.session.link.closeOutput c).2.lead.output = c.lead.output.close.2 := by
  rw [h]
  rfl

/-- The output is prompt, and the conduct is what it was. -/
def Prompt (c : Conduct T) (st : Stage T Company) : Prop :=
  st.process.lead.output.Prompt ∧ st.session.conduct = c

theorem prompt_ongoing (c : Conduct T) (now : T) : Ongoing (setting awaited hookError) now (Prompt c) where
  aside h ha := by
    obtain ⟨closed, channel, waiter, hs⟩ := ha.session
    exact ⟨(handled ha.touch).prompt h.1, by rw [hs]; exact h.2⟩
  pause hlink h _ _ := ⟨readChunk_output hlink ▸ h.1.read _, h.2⟩
  take hlink h _ _ _ _ := by
    rw [Stage.takeIn_eq]
    exact ⟨readChunk_output hlink ▸ h.1.read _, h.2⟩
  stop {st _} hlink h _ _ _ := by
    have hread := readChunk_output hlink ▸ h.1.read st.session.conduct.bufferSize
    exact ⟨closeOutput_output hlink _ ▸ (Output.Handled.closed _).prompt hread, h.2⟩
  fail hlink h _ _ _ := ⟨readChunk_output hlink ▸ h.1.read _, h.2⟩

theorem prompt_opened (c : Conduct T) (timeout : Span T) (now : T) (agenda : List (Appointment T Cue))
    {d : Desk Company} (hprompt : d.process.lead.output.Prompt) :
    Prompt c ((setting awaited hookError).opened c timeout now agenda d).world := by
  obtain ⟨starts, reader, waiter, heq, -⟩ := (setting awaited hookError).opened_world c timeout now agenda d
  rw [heq]
  exact ⟨hprompt, rfl⟩

/-- The reader has ended or waits, and has nothing to read. -/
def Idle (st : Stage T Company) : Prop :=
  st.session.reader.isAlive → st.session.reader = .waiting ∧
    st.process.lead.output.read (some st.session.conduct.bufferSize) = (.blocked, st.process.lead.output)

theorem idle_of_ended (h : st.session.reader = .ended) : Idle st := fun halive => by
  rw [h] at halive
  cases halive

theorem reader_of_stops (st : Stage T Company) (now : T) {chunk : Chunk} (h : chunk.stops st.session.decoder) :
    (st.takeChunk now chunk).session.reader = .ended := by
  have hend (st : Stage T Company) : st.endReading.session.reader = .ended := by
    cases hf : st.session.decoder.finish with
    | none => rw [Stage.endReading_of_none st hf]
    | some tail =>
      rw [Stage.endReading_of_some st hf]
      split <;> rfl
  rcases Stage.takeChunk_of_stops st now h with heq | heq <;> rw [heq] <;> exact hend _

theorem readOn_idle (c : Conduct T) (now : T) (fuel : Nat) (h : Linked (setting awaited hookError) (Prompt c) st)
    (hfuel : st.process.lead.output.remaining < fuel) (halive : st.session.reader.isAlive) :
    Idle (st.readOn now fuel) := by
  induction fuel generalizing st with
  | zero => omega
  | succ fuel ih =>
    have hfst := readChunk_fst h.1
    have hsnd := readChunk_output h.1
    rw [Stage.readOn_succ]
    split
    · next hgo =>
      obtain ⟨b, bs, text, decoder, hchunk, -, heq⟩ := Stage.readOnce_of_goesOn now hgo
      -- A read that brings something in leaves less to be read, so the fuel lasts until one does not.
      have hless := Output.remaining_read (hfst ▸ hchunk)
      refine ih ((prompt_ongoing c now).readOnce h halive) ?_ (Stage.isAlive_of_goesOn now hgo halive)
      rw [heq, Stage.takeIn_eq]
      rw [← hsnd] at hless
      exact Nat.lt_of_lt_of_le hless (Nat.lt_succ_iff.1 hfuel)
    · next hgo =>
      by_cases hstops : st.readChunk.1.stops st.session.decoder
      · exact idle_of_ended (reader_of_stops st.readChunk.2 now hstops)
      · have hblocked := Chunk.eq_blocked hgo hstops
        have hread := h.2.1.read_blocked (hfst ▸ hblocked)
        rw [Stage.readOnce_of_blocked now hblocked]
        refine fun _ => ⟨rfl, ?_⟩
        simp only [hsnd, hread]
        exact Prod.ext (hfst ▸ hblocked) hread

/-- Asking whether the stand-in has exited changes nothing. -/
theorem poll_eq (st : Stage T Company) : st.actNoting (leadPart.onWait StandIn.wait).poll =
    (if st.process.lead.exited then some (StandIn.failing st.process.lead.exitError) else none, st) := by
  have hlog : st.log ++ [] = st.log := List.append_nil _
  show (_, ({ st with log := st.log ++ [] } : Stage T Company)) = _
  rw [hlog]
  rfl

/-- After it was asked for the exit, the waiter has ended or waits for it. -/
theorem pollExit_frame (st : Stage T Company) :
    let st' := st.pollExit (leadPart.onWait StandIn.wait)
    st'.process = st.process ∧ st'.session.reader = st.session.reader ∧ st'.session.conduct = st.session.conduct ∧
      (st'.session.waiter = .ended ∨ st'.session.waiter = .waiting ∧ ¬ st.process.lead.exited) := by
  intro st'
  obtain ⟨hprocess, channel, waiter, hsession, hwaiter⟩ := st.pollExit_frame (leadPart.onWait StandIn.wait)
  simp only [st', hsession, true_and]
  exact ⟨hprocess, hwaiter.imp id fun ⟨hwaiting, hpoll⟩ => ⟨hwaiting, poll_none hpoll⟩⟩

theorem runWaiter_frame (h : st.session.link = link awaited hookError) :
    st.runWaiter.process.lead.output = st.process.lead.output ∧
      st.runWaiter.session.reader = st.session.reader ∧ st.runWaiter.session.conduct = st.session.conduct ∧
      ∀ wait ∈ (link awaited hookError).wait, st.runWaiter.session.waiter ≠ .ready ∧
        (st.runWaiter.session.waiter = .waiting → ¬ st.runWaiter.process.lead.exited) := by
  have hpolled (st : Stage T Company) :
      let st' := st.pollExit (leadPart.onWait StandIn.wait)
      st'.session.waiter ≠ .ready ∧ (st'.session.waiter = .waiting → ¬ st'.process.lead.exited) := by
    obtain ⟨hprocess, -, -, hwaiter⟩ := pollExit_frame st
    rcases hwaiter with hended | ⟨hwaiting, hexited⟩
    · simp [hended]
    · simpa [hwaiting, hprocess] using hexited
  unfold Stage.runWaiter
  split
  · next wait hw hready =>
    obtain rfl := wait_eq (h ▸ hw)
    obtain ⟨hprocess, hreader, hconduct, -⟩ :=
      pollExit_frame { st with process := (leadPart.onWait StandIn.wait).begin st.process }
    exact ⟨by rw [hprocess]; rfl, hreader, hconduct, fun _ _ => hpolled _⟩
  · next wait hw hwaiting =>
    obtain rfl := wait_eq (h ▸ hw)
    obtain ⟨hprocess, hreader, hconduct, -⟩ := pollExit_frame st
    exact ⟨by rw [hprocess], hreader, hconduct, fun _ _ => hpolled _⟩
  · next hready hwaiting =>
    refine ⟨rfl, rfl, rfl, fun wait hw => ⟨?_, ?_⟩⟩
    · exact hready wait (h ▸ hw)
    · exact fun h' => absurd h' (hwaiting wait (h ▸ hw))

/-- A rehearsal of a prompt stand-in comes to rest. -/
theorem restful (awaited : Bool) (hookError : Option (Option Failure)) (c : Conduct T) :
    Restful (setting awaited hookError) (Prompt c) where
  ongoing := prompt_ongoing c
  calm h := h
  atRest {st} now h := by
    have hread := (prompt_ongoing c now).runReader h
    have hidle : Idle (st.runReader now) := by
      unfold Stage.runReader
      split
      · next halive => exact readOn_idle c now _ h (by rw [h.1]; exact Nat.lt_succ_self _) halive
      · next hdead => exact fun halive => absurd halive hdead
    have hsettled : Linked (setting awaited hookError) (Prompt c) (st.settle now) :=
      (prompt_ongoing c now).runWaiter hread
    obtain ⟨houtput, hreader, hconduct, hwaiter⟩ := runWaiter_frame hread.1
    rw [← Stage.settle] at houtput hreader hconduct hwaiter
    refine ⟨?_, ?_⟩
    · intro halive
      obtain ⟨hwaiting, hblocked⟩ := hidle (hreader ▸ halive)
      refine ⟨hreader.trans hwaiting, readChunk_blocked hsettled.1 ?_⟩
      rw [houtput, hconduct, hblocked]
    · intro wait hw
      rw [hsettled.1] at hw
      refine ⟨(hwaiter wait hw).1, ?_⟩
      intro hwaiting
      rw [wait_eq hw, poll_eq, if_neg ((hwaiter wait hw).2 hwaiting)]

end Company

end Dialogue
