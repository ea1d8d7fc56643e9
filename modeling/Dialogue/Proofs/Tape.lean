import Dialogue.Proofs.Likeness
import Dialogue.Proofs.Steps
/-!
# Sessions on tape

A session keeps no record of what it reads. A world on tape does: it holds every chunk that was read, how often
the output was closed, how often the exit was waited for and how that ended, and what the surroundings did. A
tape changes nothing (`OffTape.likeness`), so that a statement about what was read in a run can be made of the
run on tape.
-/

namespace Dialogue

variable {T σ M : Type}

/-! ## Worlds on tape -/

structure Taped (σ M : Type) where
  process : σ
  /-- What was read, in order. -/
  chunks : List Chunk := []
  /-- How often the output was closed. -/
  closings : Nat := 0
  /-- What the surroundings did, in order. -/
  made : List M := []
  /-- How often a wait for the exit was begun. -/
  begun : Nat := 0
  /-- How those waits ended that did, in order. -/
  endings : List (Except Failure Unit) := []

def Taped.part : Part (Taped σ M) σ where
  get w := w.process
  put process w := { w with process }

def Wait.taped (wait : Wait σ) : Wait (Taped σ M) where
  begin w := { w with process := wait.begin w.process, begun := w.begun + 1 }
  poll w :=
    let (outcome, records, process) := wait.poll w.process
    (outcome, records, { w with process, endings := w.endings ++ outcome.toList })

def Link.taped (l : Link σ) : Link (Taped σ M) :=
  { Taped.part.onLink l with
    read n w :=
      let (chunk, process) := l.read n w.process
      (chunk, { w with process, chunks := w.chunks ++ [chunk] })
    closeOutput w :=
      let (outcome, process) := l.closeOutput w.process
      (outcome, { w with process, closings := w.closings + 1 })
    wait := l.wait.map Wait.taped }

/-- A move that is noted on the tape if it is one of the surroundings. -/
def Move.taped (m : M) : Move σ → Move (Taped σ M)
  | session cue => .session cue
  | outside f => .outside fun w =>
    let (outcome, records, process) := f w.process
    (outcome, records, { w with process, made := w.made ++ [m] })

def Setting.taped (S : Setting σ M) : Setting (Taped σ M) M where
  link := S.link.taped
  moves m := (S.moves m).taped m
  wait_discreet := by
    intro wait hw w
    obtain ⟨wait', hw', rfl⟩ := Option.map_eq_some_iff.1 hw
    exact S.wait_discreet wait' hw' w.process
  moves_discreet := by
    intro m f hm w
    cases hm' : S.moves m with
    | session cue => simp [hm', Move.taped] at hm
    | outside g =>
      rw [hm', Move.taped, Move.outside.injEq] at hm
      rw [← hm]
      exact S.moves_discreet m g hm' w.process

def Desk.onTape (d : Desk σ) : Desk (Taped σ M) :=
  { d with process := { process := d.process } }

/-- The same conduct with another number of bytes asked for in one read. -/
def Conduct.sized (c : Conduct T) (size : Nat) (h : 0 < size) : Conduct T :=
  { c with bufferSize := size, bufferSize_pos := h }

/-- The second stage is the first one off tape, with a log of its own and another number of bytes asked
for in one read. -/
structure OffTape (S : Setting σ M) (logs : List Record → List Record → Prop) (c : Conduct T) (size : Nat)
    (hsize : 0 < size) (st : Stage T (Taped σ M)) (st' : Stage T σ) : Prop where
  process : st'.process = st.process.process
  log : logs st.log st'.log
  link : st.session.link = S.link.taped
  conduct : st.session.conduct = c
  session : st'.session = { st.session with link := S.link, conduct := c.sized size hsize }

namespace OffTape

variable {S : Setting σ M} {logs : List Record → List Record → Prop} {c : Conduct T} {size : Nat}
  {hsize : 0 < size} {st : Stage T (Taped σ M)} {st' : Stage T σ}

theorem alike (h : OffTape S logs c size hsize st st') : Alike st st' := by
  constructor <;> rw [h.session]
  all_goals rw [← h.conduct]; rfl

theorem act {α : Type} {f : Taped σ M → α × Taped σ M} {g : σ → α × σ}
    (h : OffTape S logs c size hsize st st') (hfg : ∀ w, g w.process = ((f w).1, (f w).2.process)) :
    (st'.act g).1 = (st.act f).1 ∧ OffTape S logs c size hsize (st.act f).2 (st'.act g).2 := by
  have hg := hfg st.process
  rw [← h.process] at hg
  exact ⟨congrArg Prod.fst hg, congrArg Prod.snd hg, h.log, h.link, h.conduct, h.session⟩

/-- Session fields other than the link and the conduct go along. -/
theorem update {session : Session T (Taped σ M)} {session' : Session T σ}
    (h : OffTape S logs c size hsize st st') (hlink : session.link = st.session.link)
    (hconduct : session.conduct = st.session.conduct)
    (hs : session' = { session with link := S.link, conduct := c.sized size hsize }) :
    OffTape S logs c size hsize { st with session } { st' with session := session' } :=
  ⟨h.process, h.log, hlink.trans h.link, hconduct.trans h.conduct, hs⟩

theorem ended (h : OffTape S logs c size hsize st st') (tail : List Char) :
    OffTape S logs c size hsize (st.ended tail) (st'.ended tail) := by
  refine ⟨?_, h.log, h.link, h.conduct, ?_⟩
  · simp only [Stage.ended, h.session, h.link, h.process]
    rfl
  · simp only [Stage.ended, h.session]

theorem pause (h : OffTape S logs c size hsize st st') : OffTape S logs c size hsize
    { st with session := { st.session with reader := .waiting } }
    { st' with session := { st'.session with reader := .waiting } } :=
  h.update rfl rfl (by rw [h.session])

theorem calm (h : OffTape S logs c size hsize st st') : OffTape S logs c size hsize st.calm st'.calm :=
  h.update rfl rfl (by rw [h.session])

theorem close (h : OffTape S logs c size hsize st st') :
    st'.close.1 = st.close.1 ∧ OffTape S logs c size hsize st.close.2 st'.close.2 := by
  have hclosed : st'.session.closed = st.session.closed := by rw [h.session]
  have hup : OffTape S logs c size hsize { st with session := { st.session with closed := true } }
      { st' with session := { st'.session with closed := true } } :=
    h.update rfl rfl (by rw [h.session])
  simp only [Stage.close, hclosed]
  split
  · exact ⟨rfl, h⟩
  · refine hup.act fun w => ?_
    rw [h.session, h.link]
    simp only [Link.hangUp, Link.taped, Part.onLink]
    cases S.link.hook <;> rfl

theorem subscribe (h : OffTape S logs c size hsize st st') (callback : Callback) :
    (st'.subscribe callback).1 = (st.subscribe callback).1 ∧
      OffTape S logs c size hsize (st.subscribe callback).2 (st'.subscribe callback).2 := by
  simp only [Stage.subscribe, h.session, true_and]
  exact h.update rfl rfl rfl

section
variable (hlogs : ∀ {l l'} (records : List Record), logs l l' → logs (l ++ records) (l' ++ records))
include hlogs

theorem note (h : OffTape S logs c size hsize st st') (r : Record) :
    OffTape S logs c size hsize (st.note r) (st'.note r) :=
  ⟨h.process, hlogs [r] h.log, h.link, h.conduct, h.session⟩

theorem actNoting {α : Type} {f : Taped σ M → α × List Record × Taped σ M} {g : σ → α × List Record × σ}
    (h : OffTape S logs c size hsize st st')
    (hfg : ∀ w, g w.process = ((f w).1, (f w).2.1, (f w).2.2.process)) :
    (st'.actNoting g).1 = (st.actNoting f).1 ∧
      OffTape S logs c size hsize (st.actNoting f).2 (st'.actNoting g).2 := by
  have hg := hfg st.process
  rw [← h.process] at hg
  refine ⟨congrArg Prod.fst hg, congrArg (·.2.2) hg, ?_, h.link, h.conduct, h.session⟩
  have hr : (g st'.process).2.1 = (f st.process).2.1 := congrArg (·.2.1) hg
  simp only [Stage.actNoting, Desk.actNoting, hr]
  exact hlogs _ h.log

theorem fulfil (h : OffTape S logs c size hsize st st') (exit : Exit) :
    OffTape S logs c size hsize (st.fulfil exit).2 (st'.fulfil exit).2 := by
  have hc : st'.session.channel = st.session.channel := by rw [h.session]
  refine ⟨h.process, ?_, h.link, h.conduct, ?_⟩
  · simp only [Stage.fulfil, hc]
    exact hlogs _ h.log
  · simp only [Stage.fulfil, h.session]

/-! ### The waiter -/

theorem endWaiting (h : OffTape S logs c size hsize st st') (outcome : Except Failure Unit) :
    OffTape S logs c size hsize (st.endWaiting outcome) (st'.endWaiting outcome) := by
  have hw : OffTape S logs c size hsize { st with session := { st.session with waiter := .ended } }
      { st' with session := { st'.session with waiter := .ended } } :=
    h.update rfl rfl (by rw [h.session])
  simp only [Stage.endWaiting]
  cases outcome with
  | ok _ => exact (hw.note hlogs _).fulfil hlogs none
  | error e =>
    simp only
    split
    · exact (hw.note hlogs _).fulfil hlogs (some e)
    · exact hw

theorem pollExit (h : OffTape S logs c size hsize st st') (wait : Wait σ) :
    OffTape S logs c size hsize (st.pollExit wait.taped) (st'.pollExit wait) := by
  obtain ⟨heq, hp⟩ := h.actNoting hlogs (f := wait.taped.poll) (g := wait.poll) fun w => rfl
  simp only [Stage.pollExit]
  revert heq hp
  rcases st.actNoting wait.taped.poll with ⟨outcome, w⟩
  rcases st'.actNoting wait.poll with ⟨outcome', w'⟩
  rintro rfl hp
  cases outcome' with
  | some outcome => exact hp.endWaiting hlogs outcome
  | none => exact hp.update rfl rfl (by rw [hp.session])

theorem runWaiter (h : OffTape S logs c size hsize st st') :
    OffTape S logs c size hsize st.runWaiter st'.runWaiter := by
  have hwaiter : st'.session.waiter = st.session.waiter := by rw [h.session]
  have hwait : st'.session.link.wait = S.link.wait := by rw [h.session]
  have hwait' : st.session.link.wait = S.link.wait.map Wait.taped := by rw [h.link]; rfl
  simp only [Stage.runWaiter, hwaiter, hwait, hwait']
  cases S.link.wait with
  | none => exact h
  | some wait =>
    cases st.session.waiter with
    | ready =>
      refine pollExit hlogs ?_ wait
      exact ⟨by simp only [h.process]; rfl, h.log, h.link, h.conduct, h.session⟩
    | waiting => exact h.pollExit hlogs wait
    | idle => exact h
    | ended => exact h

/-! ### The reader -/

theorem endReading (h : OffTape S logs c size hsize st st') :
    OffTape S logs c size hsize st.endReading st'.endReading := by
  have hd : st'.session.decoder = st.session.decoder := by rw [h.session]
  cases hf : st.session.decoder.finish with
  | none =>
    rw [Stage.endReading_of_none st hf, Stage.endReading_of_none st' (hd ▸ hf)]
    exact h.update rfl rfl (by rw [h.session])
  | some tail =>
    have hcond : (st'.session.link.wait.isNone && (st'.session.link.closeOutput st'.process).1.isOk) =
        (st.session.link.wait.isNone && (st.session.link.closeOutput st.process).1.isOk) := by
      rw [h.session, h.link, h.process]
      exact congrArg (· && _) Option.isNone_map.symm
    rw [Stage.endReading_of_some st hf, Stage.endReading_of_some st' (hd ▸ hf), hcond]
    split
    · exact (h.ended tail).fulfil hlogs none
    · exact h.ended tail

theorem stopReading (h : OffTape S logs c size hsize st st') (e : Failure) :
    OffTape S logs c size hsize (st.stopReading e) (st'.stopReading e) := by
  have hname : st'.session.link.outputName st'.process = st.session.link.outputName st.process := by
    rw [h.session, h.link, h.process]
    rfl
  simp only [Stage.stopReading, hname]
  split
  · exact (h.note hlogs _).endReading hlogs
  · exact h.endReading hlogs

theorem takeIn (h : OffTape S logs c size hsize st st') (now : T) (text : List Char) (decoder : Decoder) :
    OffTape S logs c size hsize (st.takeIn now text decoder) (st'.takeIn now text decoder) := by
  have hbefore : st'.before = st.before := by rw [Stage.before, Stage.before, h.session]
  have hconduct : st'.session.conduct = st.session.conduct.sized size hsize := by rw [h.session, h.conduct]
  rw [Stage.takeIn_eq, Stage.takeIn_eq, hbefore, hconduct]
  refine ⟨h.process, hlogs _ h.log, h.link, h.conduct, ?_⟩
  simp only [h.session]
  rfl

theorem takeChunk (h : OffTape S logs c size hsize st st') (now : T) (chunk : Chunk) :
    OffTape S logs c size hsize (st.takeChunk now chunk) (st'.takeChunk now chunk) := by
  rcases chunk with (_ | ⟨b, bs⟩) | s | _ | e | _
  case bytes.cons =>
    have hd : st'.session.decoder.feed (b :: bs) = st.session.decoder.feed (b :: bs) := by rw [h.session]
    simp only [Stage.takeChunk, hd]
    split
    · exact h.takeIn hlogs now _ _
    · exact h.stopReading hlogs _
  case text =>
    by_cases hs : s = ""
    · subst hs
      exact h.endReading hlogs
    · simpa only [Stage.takeChunk] using h.stopReading hlogs _
  case failed => exact h.stopReading hlogs e
  case blocked => exact h.pause
  all_goals exact h.endReading hlogs

/-! ### The caller -/

theorem send (h : OffTape S logs c size hsize st st') (data : Payload) :
    (st'.send data).1 = (st.send data).1 ∧
      OffTape S logs c size hsize (st.send data).2 (st'.send data).2 := by
  have hclosed : st'.session.closed = st.session.closed := by rw [h.session]
  have hconduct : st'.session.conduct = st.session.conduct.sized size hsize := by rw [h.session, h.conduct]
  simp only [Stage.send, hclosed, hconduct, Conduct.sized]
  split
  · exact ⟨rfl, h⟩
  · split
    · exact ⟨rfl, h⟩
    · next bytes _ =>
      have hnoted : OffTape S logs c size hsize
          (if st.session.conduct.verbose then st.note (.sent data.toValue) else st)
          (if st.session.conduct.verbose then st'.note (.sent data.toValue) else st') := by
        split
        · exact h.note hlogs _
        · exact h
      obtain ⟨heq, hp⟩ := hnoted.act (f := S.link.taped.write bytes) (g := S.link.write bytes) fun w => rfl
      rw [hnoted.link, congrArg Session.link hnoted.session]
      revert heq hp
      rcases Stage.act (S.link.taped.write bytes) _ with ⟨outcome, w⟩
      rcases Stage.act (S.link.write bytes) _ with ⟨outcome', w'⟩
      rintro rfl hp
      cases outcome' with
      | error e => exact ⟨rfl, hp⟩
      | ok _ =>
        refine hp.act fun v => ?_
        rw [hp.session, hp.link]
        rfl

theorem perform (h : OffTape S logs c size hsize st st') (cue : SessionCue) :
    (st'.perform cue).1 = (st.perform cue).1 ∧
      OffTape S logs c size hsize (st.perform cue).2 (st'.perform cue).2 :=
  match cue with
  | .send data => h.send hlogs data
  | .close => h.close
  | .subscribe callback => h.subscribe callback

theorem move (h : OffTape S logs c size hsize st st') (m : M) :
    ((S.moves m).make st').1 = ((S.taped.moves m).make st).1 ∧
      OffTape S logs c size hsize ((S.taped.moves m).make st).2 ((S.moves m).make st').2 := by
  simp only [Setting.taped]
  cases S.moves m with
  | session cue => exact h.perform hlogs cue
  | outside f => exact h.actNoting hlogs fun w => rfl

theorem consume (h : OffTape S logs c size hsize st st') (f : Finding) (elapsed : T) [Moment T] :
    OffTape S logs c size hsize (st.consume f elapsed).2 (st'.consume f elapsed).2 := by
  have hrest : OffTape S logs c size hsize
      { st with session := { st.session with
        buffer := st.session.buffer.extract f.found.stop st.session.buffer.size } }
      { st' with session := { st'.session with
        buffer := st'.session.buffer.extract f.found.stop st'.session.buffer.size } } :=
    h.update rfl rfl (by rw [h.session])
  exact hrest.note hlogs _

/-- A session and its like on tape are not told apart, as long as the reader does not tell them; `P` is
what can be known of the session on tape. -/
theorem likeness [Moment T] {Fine P : Stage T (Taped σ M) → Prop} (hkept : Kept S.taped fun (_ : T) _ st => P st)
    (hspoilt : Kept S.taped fun (_ : T) _ st => ¬ Fine st)
    (hread : ∀ {st st'} (now : T), OffTape S logs c size hsize st st' → P st → Fine st →
      OffTape S logs c size hsize (st.runReader now) (st'.runReader now)) :
    Likeness S.taped S Fine fun st st' => OffTape S logs c size hsize st st' ∧ P st where
  alike h := h.1.alike
  settle now h hf := ⟨(hread now h.1 h.2 hf).runWaiter hlogs, hkept.settle (t := now) (l := []) h.2⟩
  perform cue h :=
    let ⟨heq, hp⟩ := h.1.perform hlogs cue
    ⟨heq, hp, hkept.perform (t := 0) (l := []) cue h.2⟩
  move m h :=
    let ⟨heq, hp⟩ := h.1.move hlogs m
    ⟨heq, hp, hkept.act (t := 0) (l := []) m h.2⟩
  calm h := ⟨h.1.calm, hkept.calm (t := 0) (l := []) h.2⟩
  consume f elapsed h := ⟨h.1.consume hlogs f elapsed, hkept.consume (t := 0) (l := []) f elapsed h.2⟩
  spoilt := hspoilt

end

/-- A session that begins, on tape and off it. -/
theorem opened (timeout : Span T) (now : T) (agenda : List (Appointment T M)) (d : Desk σ)
    (hlog : logs d.log d.log) :
    Paired (OffTape S logs c size hsize) (S.taped.opened c timeout now agenda d.onTape)
      (S.opened (c.sized size hsize) timeout now agenda d) := by
  refine ⟨rfl, rfl, rfl, ?_⟩
  have hwait : S.taped.link.wait.isNone = S.link.wait.isNone := Option.isNone_map
  simp only [Setting.opened, Stage.begin, Desk.countStart, Desk.onTape, Session.ofLink, hwait]
  cases d.refusal (d.starts + 1) with
  | some e => exact ⟨rfl, hlog, rfl, rfl, rfl⟩
  | none =>
    by_cases hnone : S.link.wait.isNone
    · simp only [hnone, if_true]
      exact ⟨rfl, hlog, rfl, rfl, rfl⟩
    · simp only [hnone]
      cases d.refusal (d.starts + 1 + 1) <;> exact ⟨rfl, hlog, rfl, rfl, rfl⟩

/-! ## A tape changes nothing -/

theorem readChunk (h : OffTape S logs c c.bufferSize c.bufferSize_pos st st') :
    st'.readChunk.1 = st.readChunk.1 ∧
      OffTape S logs c c.bufferSize c.bufferSize_pos st.readChunk.2 st'.readChunk.2 := by
  simp only [Stage.readChunk]
  refine h.act fun w => ?_
  rw [h.session, h.link, h.conduct]
  rfl

theorem readOnce (h : OffTape S Eq c c.bufferSize c.bufferSize_pos st st') (now : T) :
    OffTape S Eq c c.bufferSize c.bufferSize_pos (st.readOnce now) (st'.readOnce now) := by
  obtain ⟨heq, hp⟩ := h.readChunk
  rw [Stage.readOnce, Stage.readOnce, heq]
  exact hp.takeChunk (fun _ h => by rw [h]) now _

theorem readOn (h : OffTape S Eq c c.bufferSize c.bufferSize_pos st st') (now : T) (fuel : Nat) :
    OffTape S Eq c c.bufferSize c.bufferSize_pos (st.readOn now fuel) (st'.readOn now fuel) := by
  induction fuel generalizing st st' with
  | zero => exact h
  | succ fuel ih =>
    have hchunk := h.readChunk.1
    have hd : st'.session.decoder = st.session.decoder := by rw [h.session]
    rw [Stage.readOn_succ, Stage.readOn_succ, hchunk, hd]
    split
    · exact ih (h.readOnce now)
    · exact h.readOnce now

theorem runReader (h : OffTape S Eq c c.bufferSize c.bufferSize_pos st st') (now : T) :
    OffTape S Eq c c.bufferSize c.bufferSize_pos (st.runReader now) (st'.runReader now) := by
  have hreader : st'.session.reader = st.session.reader := by rw [h.session]
  have hremaining : st'.session.link.remaining st'.process = st.session.link.remaining st.process := by
    rw [h.session, h.link, h.process]
    rfl
  simp only [Stage.runReader, hreader, hremaining]
  split
  · exact h.readOn now _
  · exact h

/-- A run on tape is the run: the same answers, views, matches and log. -/
theorem run [Moment T] (timeout : Span T) (now : T) (agenda : List (Appointment T M)) (d : Desk σ)
    (deeds : List (Deed T M)) :
    Agree (OffTape S Eq c c.bufferSize c.bufferSize_pos)
        (Deed.run S.taped.life deeds (S.taped.opened c timeout now agenda d.onTape))
        (Deed.run S.life deeds (S.opened c timeout now agenda d)) ∧
      Deed.allTaken S.life deeds (S.opened c timeout now agenda d) =
        Deed.allTaken S.taped.life deeds (S.taped.opened c timeout now agenda d.onTape) := by
  have hlike : Likeness S.taped S (fun _ => True) fun st st' =>
      OffTape (T := T) S Eq c c.bufferSize c.bufferSize_pos st st' ∧ True :=
    likeness (fun _ h => by rw [h]) .always .never fun now h _ _ => h.runReader now
  obtain ⟨⟨hanswers, hpair⟩, htaken⟩ :=
    hlike.run deeds ((opened timeout now agenda d rfl).imp fun h => ⟨h, trivial⟩) trivial
  exact ⟨⟨hanswers, hpair.imp And.left⟩, htaken⟩

end OffTape

end Dialogue
