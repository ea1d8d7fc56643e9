import Dialogue.Proofs.Frames
import Dialogue.Proofs.Likeness
import Dialogue.Proofs.Setbacks
/-!
# Sessions that are followed

A session whose process is followed does what it would do otherwise: each step of it, without what was asked, is the
step of the session that is not followed. So no run tells the two apart (`Setting.following`).
-/

namespace Dialogue

variable {T σ M : Type}

/-- What is awaited, followed. -/
def Wait.followed (whose : Whose) (wait : Wait σ) : Wait (Followed σ) where
  begin := fun w => (Followed.on whose .beginWait (fun _ => .ok ()) (fun process => ((), wait.begin process)) w).2
  poll := fun w =>
    let (outcome, records, process) := wait.poll w.process
    (outcome, records, { process, asked := w.asked ++ [⟨whose, .pollWait, .ok ()⟩] })

theorem Link.wait_followed (whose : Whose) (l : Link σ) : (l.followed whose).wait = l.wait.map (Wait.followed whose) :=
  rfl

theorem Link.wait_mem_followed (whose : Whose) (l : Link σ) {wait : Wait σ} (hwait : wait ∈ l.wait) :
    wait.followed whose ∈ (l.followed whose).wait :=
  Option.map_eq_some_iff.2 ⟨wait, hwait, rfl⟩

/-- What the surroundings do is asked of nobody. -/
def Move.followed : Move σ → Move (Followed σ)
  | session cue => .session cue
  | outside f => .outside fun w =>
    let (outcome, records, process) := f w.process
    (outcome, records, { w with process })

def Setting.followed (whose : Whose) (S : Setting σ M) : Setting (Followed σ) M where
  link := S.link.followed whose
  moves m := (S.moves m).followed
  wait_discreet := by
    intro wait hwait w
    obtain ⟨wait', hwait', rfl⟩ := Option.map_eq_some_iff.1 hwait
    exact S.wait_discreet wait' hwait' w.process
  moves_discreet := by
    intro m f hm w
    cases hm' : S.moves m with
    | session cue => simp [hm', Move.followed] at hm
    | outside g =>
      rw [hm', Move.followed, Move.outside.injEq] at hm
      rw [← hm]
      exact S.moves_discreet m g hm' w.process

namespace Stage

/-- The stage without what was asked, linked to the process itself. -/
def plain (l : Link σ) (st : Stage T (Followed σ)) : Stage T σ where
  toDesk := st.toDesk.plain
  session := { st.session with link := l }

variable {whose : Whose} {l : Link σ}

/-! ## The reader -/

theorem takeIn_plain (now : T) (text : List Char) (decoder : Decoder) (st : Stage T (Followed σ)) :
    (st.plain l).takeIn now text decoder = (st.takeIn now text decoder).plain l := by
  rw [takeIn_eq, takeIn_eq]
  rfl

theorem note_plain (r : Record) (st : Stage T (Followed σ)) : (st.plain l).note r = (st.note r).plain l := rfl

section
variable {st : Stage T (Followed σ)} (hl : st.session.link = l.followed whose)
include hl

theorem readChunk_plain : (st.plain l).readChunk = (st.readChunk.1, st.readChunk.2.plain l) := by
  unfold readChunk
  rw [hl]
  rfl

theorem ended_plain (tail : List Char) : (st.plain l).ended tail = (st.ended tail).plain l := by
  unfold ended
  rw [hl]
  rfl

theorem endReading_plain : (st.plain l).endReading = st.endReading.plain l := by
  cases hf : st.session.decoder.finish with
  | none =>
    rw [endReading_of_none st hf, endReading_of_none (st.plain l) hf]
    rfl
  | some tail =>
    have hclose : ((st.plain l).session.link.wait.isNone &&
          ((st.plain l).session.link.closeOutput (st.plain l).process).1.isOk) =
        (st.session.link.wait.isNone && (st.session.link.closeOutput st.process).1.isOk) := by
      rw [hl, l.wait_followed whose, Option.isNone_map]
      rfl
    rw [endReading_of_some st hf, endReading_of_some (st.plain l) hf, hclose, ended_plain hl]
    split <;> rfl

theorem stopReading_plain (e : Failure) : (st.plain l).stopReading e = (st.stopReading e).plain l := by
  have hname : (st.plain l).session.link.outputName (st.plain l).process = st.session.link.outputName st.process := by
    rw [hl]
    rfl
  unfold stopReading
  split
  · rw [hname, note_plain]
    exact endReading_plain hl
  · exact endReading_plain hl

theorem takeChunk_plain (now : T) (chunk : Chunk) :
    (st.plain l).takeChunk now chunk = (st.takeChunk now chunk).plain l := by
  rcases chunk with (_ | ⟨b, bs⟩) | s | _ | e | _
  case bytes.cons =>
    have hdecoder : (st.plain l).session.decoder = st.session.decoder := rfl
    simp only [takeChunk, hdecoder]
    split
    · exact takeIn_plain now _ _ st
    · exact stopReading_plain hl _
  case text =>
    by_cases hs : s = ""
    · subst hs
      exact endReading_plain hl
    · simpa only [takeChunk] using stopReading_plain hl _
  case failed => exact stopReading_plain hl e
  case blocked => rfl
  all_goals exact endReading_plain hl

theorem readOnce_plain (now : T) : (st.plain l).readOnce now = (st.readOnce now).plain l := by
  rw [readOnce, readOnce, readChunk_plain hl]
  have hl : st.readChunk.2.session.link = l.followed whose := hl
  exact takeChunk_plain hl now _

theorem runReader_plain (now : T) : (st.plain l).runReader now = (st.runReader now).plain l := by
  -- Both read with the same fuel, since what remains of the output is the same.
  have hread (fuel : Nat) : ∀ {st : Stage T (Followed σ)}, st.session.link = l.followed whose →
      (st.plain l).readOn now fuel = (st.readOn now fuel).plain l := by
    induction fuel with
    | zero => exact fun _ => rfl
    | succ fuel ih =>
      intro st hl
      have hlink : (st.readOnce now).session.link = l.followed whose :=
        (congrArg Prod.fst (readOnce_standing now st)).trans hl
      have hchunk : (st.plain l).readChunk.1 = st.readChunk.1 := congrArg Prod.fst (readChunk_plain hl)
      have hdecoder : (st.plain l).session.decoder = st.session.decoder := rfl
      rw [readOn_succ, readOn_succ, hchunk, hdecoder, readOnce_plain hl]
      split
      · exact ih hlink
      · rfl
  have hremaining : (st.plain l).session.link.remaining (st.plain l).process = st.session.link.remaining st.process := by
    rw [hl]
    rfl
  have hreader : (st.plain l).session.reader = st.session.reader := rfl
  unfold runReader
  rw [hremaining, hreader]
  split
  · exact hread _ hl
  · rfl

end

/-! ## The waiter -/

theorem endWaiting_plain (outcome : Except Failure Unit) (st : Stage T (Followed σ)) :
    (st.plain l).endWaiting outcome = (st.endWaiting outcome).plain l := by
  unfold endWaiting
  cases outcome with
  | ok _ => rfl
  | error e =>
    simp only
    split <;> rfl

theorem pollExit_plain (whose : Whose) (wait : Wait σ) (st : Stage T (Followed σ)) :
    (st.plain l).pollExit wait = (st.pollExit (wait.followed whose)).plain l := by
  have hpoll : (st.plain l).actNoting wait.poll =
      ((st.actNoting (wait.followed whose).poll).1, (st.actNoting (wait.followed whose).poll).2.plain l) := rfl
  unfold pollExit
  rw [hpoll]
  rcases st.actNoting (wait.followed whose).poll with ⟨_ | outcome, st⟩
  · rfl
  · exact endWaiting_plain outcome st

section
variable {st : Stage T (Followed σ)} (hl : st.session.link = l.followed whose)
include hl

theorem runWaiter_plain : (st.plain l).runWaiter = st.runWaiter.plain l := by
  have hwaiter : (st.plain l).session.waiter = st.session.waiter := rfl
  have hwait : (st.plain l).session.link.wait = l.wait := rfl
  unfold runWaiter
  rw [hl, l.wait_followed whose, hwait, hwaiter]
  cases l.wait with
  | none => rfl
  | some wait =>
    cases st.session.waiter with
    | ready => exact pollExit_plain whose wait { st with process := (wait.followed whose).begin st.process }
    | waiting => exact pollExit_plain whose wait st
    | idle => rfl
    | ended => rfl

theorem settle_plain (now : T) : (st.plain l).settle now = (st.settle now).plain l := by
  have hlink : (st.runReader now).session.link = l.followed whose :=
    (congrArg Prod.fst (runReader_standing now st)).trans hl
  rw [settle, settle, runReader_plain hl, runWaiter_plain hlink]

/-! ## The caller -/

theorem send_plain (data : Payload) : (st.plain l).send data = ((st.send data).1, (st.send data).2.plain l) := by
  have hclosed : (st.plain l).session.closed = st.session.closed := rfl
  have hconduct : (st.plain l).session.conduct = st.session.conduct := rfl
  unfold send
  rw [hclosed, hconduct]
  split
  · rfl
  · split
    · rfl
    · next bytes _ =>
      obtain ⟨noted, hnoted, hplain, hsession⟩ : ∃ noted,
          (if st.session.conduct.verbose then st.note (.sent data.toValue) else st) = noted ∧
            (if st.session.conduct.verbose then (st.plain l).note (.sent data.toValue) else st.plain l) =
              noted.plain l ∧ noted.session = st.session := by
        split <;> exact ⟨_, rfl, rfl, rfl⟩
      have hact : (noted.plain l).act ((noted.plain l).session.link.write bytes) =
          ((noted.act (noted.session.link.write bytes)).1,
            (noted.act (noted.session.link.write bytes)).2.plain l) := by
        rw [hsession, hl]
        rfl
      have hlink : (noted.act (noted.session.link.write bytes)).2.session.link = l.followed whose := by
        rw [← hl, ← hsession]
        rfl
      simp only [hnoted, hplain]
      rw [hact]
      revert hlink
      rcases noted.act (noted.session.link.write bytes) with ⟨e | _, written⟩ <;> intro hlink
      · rfl
      · simp only
        rw [hlink]
        rfl

theorem close_plain : (st.plain l).close = (st.close.1, st.close.2.plain l) := by
  have hclosed : (st.plain l).session.closed = st.session.closed := rfl
  have hhangUp : ∀ w, l.hangUp w.process = (((l.followed whose).hangUp w).1, ((l.followed whose).hangUp w).2.process) := by
    unfold Link.hangUp Link.followed
    cases l.hook <;> exact fun _ => rfl
  unfold close
  rw [hclosed]
  split
  · rfl
  · simp only [hl]
    have hact := hhangUp st.process
    simp only [act, Desk.act, plain, Desk.plain, hact]

theorem perform_plain (cue : SessionCue) :
    (st.plain l).perform cue = ((st.perform cue).1, (st.perform cue).2.plain l) :=
  match cue with
  | .send data => send_plain hl data
  | .close => close_plain hl
  | .subscribe _ => rfl

theorem make_plain (move : Move σ) :
    move.make (st.plain l) = ((move.followed.make st).1, (move.followed.make st).2.plain l) :=
  match move with
  | .session cue => perform_plain hl cue
  | .outside _ => rfl

end

/-! ## The beginning -/

theorem begin_plain (session : Session T (Followed σ)) (hl : session.link = l.followed whose) (d : Desk (Followed σ)) :
    begin { session with link := l } d.plain = ((begin session d).1, (begin session d).2.plain l) := by
  have hstart : d.plain.countStart = (d.countStart.1, d.countStart.2.plain) := rfl
  have hwait : session.link.wait.isNone = l.wait.isNone := by
    rw [hl, l.wait_followed whose, Option.isNone_map]
  unfold begin
  rw [hstart]
  simp only [hwait]
  rcases d.countStart with ⟨_ | e, d⟩
  · simp only
    split
    · rfl
    · have hmore : d.plain.countStart = (d.countStart.1, d.countStart.2.plain) := rfl
      rw [hmore]
      rcases d.countStart with ⟨_ | e, d⟩ <;> rfl
  · rfl

end Stage

/-! ## Runs -/

/-- A desk of which nothing has been asked yet. -/
def Desk.followed (d : Desk σ) : Desk (Followed σ) := { d with process := { process := d.process, asked := [] } }

/-- The second stage is the first one when it is not followed. -/
abbrev Stage.Unfollowed (whose : Whose) (l : Link σ) (st : Stage T (Followed σ)) (st' : Stage T σ) : Prop :=
  st.session.link = l.followed whose ∧ st' = st.plain l

/-- A session that begins is the same whether it is followed or not. -/
theorem Setting.following_opened (whose : Whose) (S : Setting σ M) (c : Conduct T) (timeout : Span T) (now : T)
    (agenda : List (Appointment T M)) (d : Desk σ) :
    Paired (Stage.Unfollowed whose S.link)
      ((S.followed whose).opened c timeout now agenda d.followed) (S.opened c timeout now agenda d) :=
  ⟨rfl, rfl, rfl, (S.followed whose).opened_link c timeout now agenda d.followed,
    congrArg Prod.snd (Stage.begin_plain (l := S.link) (.ofLink (S.link.followed whose) c timeout now) rfl d.followed)⟩

/-- A session stays linked to what it is linked to. -/
theorem Ongoing.always (S : Setting σ M) (now : T) : Ongoing S now fun _ => True where
  aside _ _ := trivial
  pause _ _ _ _ := trivial
  take _ _ _ _ _ _ := trivial
  stop _ _ _ _ _ := trivial
  fail _ _ _ _ _ := trivial

variable [Moment T]

theorem Setting.link_make (S : Setting σ M) (m : M) {st : Stage T σ} (hl : st.session.link = S.link) :
    ((S.moves m).make st).2.session.link = S.link := by
  cases hm : S.moves m with
  | session cue => exact ((Ongoing.always S (0 : T)).perform cue ⟨hl, trivial⟩).1
  | outside f => exact hl

/-- Whether a session is followed is not seen. -/
theorem Setting.following (whose : Whose) (S : Setting σ M) :
    Likeness (T := T) (S.followed whose) S (fun _ => True) (Stage.Unfollowed whose S.link) where
  alike := by
    rintro st _ ⟨-, rfl⟩
    constructor <;> rfl
  settle now h _ := by
    obtain ⟨hl, rfl⟩ := h
    exact ⟨(Stage.settle_session now _).1.trans hl, Stage.settle_plain hl now⟩
  perform := by
    rintro st _ cue ⟨hl, rfl⟩
    rw [Stage.perform_plain hl cue]
    exact ⟨rfl, ((Ongoing.always (S.followed whose) (0 : T)).perform cue ⟨hl, trivial⟩).1, rfl⟩
  move := by
    rintro st _ m ⟨hl, rfl⟩
    rw [Stage.make_plain hl (S.moves m)]
    exact ⟨rfl, (S.followed whose).link_make m hl, rfl⟩
  calm := by
    rintro st _ ⟨hl, rfl⟩
    exact ⟨hl, rfl⟩
  consume := by
    rintro st _ f elapsed ⟨hl, rfl⟩
    exact ⟨hl, rfl⟩
  spoilt := .never

end Dialogue
