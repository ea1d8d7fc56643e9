import Dialogue.Proofs.Following
import Dialogue.Proofs.Sends
import Mathlib.Data.List.TakeWhile
/-!
# The transcript of the input

What a session is told about its input is sends, batches and closings, in any order. What comes of each is settled by
what was said before it (`Said.Faithful`), and what a recorder keeps is what was sent, in order, up to the first
closing (`Rehearsal.input_transcribed`).
-/

namespace Dialogue

variable {T σ τ M : Type}

/-! ## What is said -/

/-- Something that a session was told about its input, and what came of it. -/
inductive Said where
  | sent (data : Payload) (outcome : Except Failure Unit)
  | closed (outcome : Except Failure Unit)

namespace Said

def isClosing : Said → Bool
  | sent .. => false
  | closed _ => true

/-- The bytes of what was sent, and none of what could not be. -/
def payload (e : Encoding) : Said → List UInt8
  | sent data (.ok _) => data.content e
  | _ => []

/-- What should be kept of it: what was sent before the first closing, in order. -/
def recorded (e : Encoding) (said : List Said) : List UInt8 :=
  (said.takeWhile (!·.isClosing)).flatMap (payload e)

/-- What should come of it after what was said before: `hungUp` is what comes of hanging up. A session that is closed
refuses everything that is sent, and to be closed again does nothing to it. -/
def Follows (e : Encoding) (hungUp : Except Failure Unit) (past : List Said) : Said → Prop
  | sent data outcome =>
    outcome = if past.any isClosing then .error .sessionClosed else (data.encode e).map fun _ => ()
  | closed outcome => outcome = if past.any isClosing then .ok () else hungUp

/-- What came of each thing that was said is what should come of it. -/
def Faithful (e : Encoding) (hungUp : Except Failure Unit) (said : List Said) : Prop :=
  ∀ past now later, said = past ++ now :: later → now.Follows e hungUp past

variable {e : Encoding} {hungUp : Except Failure Unit} {said : List Said} {now : Said}

theorem Faithful.nil : Faithful e hungUp [] := by
  intro past now later h
  simp at h

theorem Faithful.snoc (h : Faithful e hungUp said) (hnow : now.Follows e hungUp said) :
    Faithful e hungUp (said ++ [now]) := by
  intro past x later heq
  rcases List.eq_nil_or_concat later with rfl | ⟨later, last, rfl⟩
  · obtain ⟨rfl, hx⟩ := List.append_inj' heq rfl
    rwa [← List.singleton_inj.1 hx]
  · rw [List.concat_eq_append, ← List.cons_append, ← List.append_assoc] at heq
    exact h past x later (List.append_inj' heq rfl).1

theorem recorded_of_open (hopen : said.any isClosing = false) :
    recorded e (said ++ [now]) = recorded e said ++ now.payload e := by
  have hall : ∀ x ∈ said, (!x.isClosing) = true := by simpa using hopen
  have hwhole : said.takeWhile (!·.isClosing) = said := List.takeWhile_eq_self_iff.2 hall
  rw [recorded, recorded, hwhole, List.takeWhile_append_of_pos hall, List.flatMap_append]
  cases now <;> simp [isClosing, payload]

theorem recorded_of_closed (hclosed : said.any isClosing = true) : recorded e (said ++ [now]) = recorded e said := by
  have hshort : (said.takeWhile (!·.isClosing)).length ≠ said.length := by
    intro hlength
    have hwhole := (List.takeWhile_prefix (fun x : Said => !x.isClosing)).eq_of_length hlength
    obtain ⟨x, hx, hclosing⟩ := List.any_eq_true.1 hclosed
    simpa [hclosing] using List.takeWhile_eq_self_iff.1 hwhole x hx
  rw [recorded, recorded, List.takeWhile_append, if_neg hshort]

end Said

/-! ## Calls -/

/-- What a step says to a session. -/
def Step.said (step : Step T) (s : Scene T (Stage T σ) M) : List Said :=
  match step with
  | .send data => [.sent data (s.world.send data).1]
  | _ => []

/-- What the steps of a batch say, up to the first that fails. -/
def Stage.said [Moment T] (life : Life T (Stage T σ) M) : List (Step T) → Scene T (Stage T σ) M → List Said
  | [], _ => []
  | step :: steps, s =>
    match Stage.doStep life step s with
    | (.error _, _) => step.said s
    | (.ok _, next) => step.said s ++ said life steps next

/-- What a caller does to a session. It can be entered and left as a context. -/
inductive Call (T : Type) where
  | send (data : Payload)
  | batch (steps : List (Step T))
  | close
  | enter
  | leave
  | other (d : Deed T Cue)

namespace Call

/-- To enter a session does nothing, and to leave it closes it. -/
def deeds : Call T → List (Deed T Cue)
  | send data => [.move (.session (.send data))]
  | batch steps => [.batch steps]
  | close | leave => [.move (.session .close)]
  | enter => []
  | other d => [d]

variable [Moment T]

def said (life : Life T (Stage T σ) Cue) : Call T → Scene T (Stage T σ) Cue → List Said
  | send data, s => [.sent data (s.world.send data).1]
  | batch steps, s => Stage.said life steps s
  | close, s | leave, s => [.closed s.world.close.1]
  | enter, _ | other _, _ => []

/-- What is said in a run of calls, in order. -/
def allSaid (life : Life T (Stage T σ) Cue) : List (Call T) → Scene T (Stage T σ) Cue → List Said
  | [], _ => []
  | call :: calls, s => call.said life s ++ allSaid life calls (Deed.run life call.deeds s).2

end Call

/-- A cue that neither writes to the input of a stand-in nor closes it, nor tells its session to. -/
def Cue.Aloof : Cue → Prop
  | write _ | closeInput | session (.send _) | session .close => False
  | _ => True

theorem Cue.eq_session {cue : Cue} {told : SessionCue} (h : cue.move = .session told) : cue = .session told := by
  cases cue with
  | session cue => rw [Move.session.inj h]
  | step s => cases s <;> cases h
  | _ => cases h

/-- Nothing else that is done says anything to the session, or writes behind its back. -/
def Call.Aloof : Call T → Prop
  | other d => d.Spares Cue.Aloof
  | _ => True

/-! ## The side of the input -/

/-- Hanging up is calling the hook or closing the input. -/
def Asked.hangsUp (a : Asked) : Bool :=
  match a.errand with
  | .hook | .close .input => true
  | _ => false

namespace Company

/-- What becomes of the input, and how often its side was hung up. -/
def inputSide (w : Followed Company) : Input × List Asked := (w.process.lead.input, w.asked.filter Asked.hangsUp)

variable {awaited : Bool} {hookError : Option (Option Failure)} {whose : Whose} {side : Input × List Asked}

theorem inputSide_on {α : Type} {errand : Errand} {outcome : α → Except Failure Unit} {f : Company → α × Company}
    {w : Followed Company} (hside : inputSide w = side)
    (herrand : Asked.hangsUp ⟨whose, errand, outcome (f w.process).1⟩ = false)
    (hinput : (f w.process).2.lead.input = w.process.lead.input) :
    inputSide (Followed.on whose errand outcome f w).2 = side := by
  rw [← hside]
  simp [inputSide, Followed.on, herrand, hinput]

/-- Background work does not touch the side of the input. -/
theorem keeps_inputSide (awaited : Bool) (hookError : Option (Option Failure)) (whose : Whose)
    (side : Input × List Asked) : ((link awaited hookError).followed whose).Keeps (inputSide · = side) where
  read _ _ h := inputSide_on h rfl rfl
  closeOutput h := inputSide_on h rfl rfl
  begin wait hwait _ h := by
    rw [Link.wait_followed] at hwait
    obtain ⟨wait', hwait', rfl⟩ := Option.map_eq_some_iff.1 hwait
    rw [wait_eq hwait']
    exact inputSide_on (f := fun c => ((), (leadPart.onWait StandIn.wait).begin c)) h rfl rfl
  poll wait hwait w h := by
    rw [Link.wait_followed] at hwait
    obtain ⟨wait', hwait', rfl⟩ := Option.map_eq_some_iff.1 hwait
    rw [wait_eq hwait', ← h]
    simp [inputSide, Wait.followed, Part.onWait, StandIn.wait, leadPart, Asked.hangsUp]

theorem inputSide_finish (x : StandIn) : x.finish.input = x.input := by
  unfold StandIn.finish
  split <;> rfl

/-- Nor do the surroundings, if they keep aloof. -/
theorem inputSide_of_move {cue : Cue} {f : Company → Except Failure Unit × List Record × Company}
    (haloof : cue.Aloof) (hmove : cue.move = .outside f) (c : Company) : (f c).2.2.lead.input = c.lead.input := by
  cases cue with
  | session cue => simp [Cue.move] at hmove
  | write bytes => exact haloof.elim
  | closeInput => exact haloof.elim
  | feed bytes =>
    obtain rfl := Move.outside.inj hmove
    have hfed : (StandIn.feed bytes c.lead).2.input = c.lead.input := by
      unfold StandIn.feed
      split <;> rfl
    exact hfed
  | finish =>
    obtain rfl := Move.outside.inj hmove
    exact inputSide_finish c.lead
  | exit e =>
    obtain rfl := Move.outside.inj hmove
    exact inputSide_finish c.lead
  | step s => cases s <;> (obtain rfl := Move.outside.inj hmove; rfl)
  | _ =>
    obtain rfl := Move.outside.inj hmove
    rfl

/-- What is asked for at the first closing. -/
def hangUpErrand (hookError : Option (Option Failure)) : Errand :=
  if hookError.isSome then .hook else .close .input

/-- What comes of it: an input that is open can be closed, and a hook fails if it was told to. -/
def hungUp (hookError : Option (Option Failure)) : Except Failure Unit := hookError.elim (.ok ()) StandIn.failing

/-- The side of the input after what was said: what is kept, and whether it was hung up. -/
def sideAfter (hookError : Option (Option Failure)) (e : Encoding) (initial : List UInt8) (said : List Said) :
    Input × List Asked :=
  ({ written := initial ++ Said.recorded e said, closed := said.any Said.isClosing && hookError.isNone },
    if said.any Said.isClosing then [⟨.own, hangUpErrand hookError, hungUp hookError⟩] else [])

theorem inscribes_followed (awaited : Bool) (hookError : Option (Option Failure)) (whose : Whose) :
    ((link awaited hookError).followed whose).Inscribes (·.process.lead.input) where
  write _ _ := rfl
  flush _ := rfl

/-- An open recorder is closed without a failure, and a hook leaves it open. -/
theorem hangUp_followed (awaited : Bool) (hookError : Option (Option Failure)) (whose : Whose) {w : Followed Company}
    {written : List UInt8} (hinput : w.process.lead.input = { written }) :
    let hung := ((link awaited hookError).followed whose).hangUp w
    hung.1 = hungUp hookError ∧ inputSide hung.2 = ({ written, closed := hookError.isNone },
      w.asked.filter Asked.hangsUp ++ [⟨whose, hangUpErrand hookError, hungUp hookError⟩]) := by
  cases hookError with
  | none =>
    have hclose : ((link awaited none).closeInput w.process).1 = .ok () ∧
        ((link awaited none).closeInput w.process).2.lead.input = { written, closed := true } := by
      simp [link, Part.onLink, Part.on, StandIn.link, StandIn.closeInput, leadPart, hinput, Input.close]
    refine ⟨hclose.1, Prod.ext hclose.2 ?_⟩
    simp [inputSide, Link.hangUp, Link.followed, link, Followed.on, Asked.hangsUp, hangUpErrand, hungUp, ← hclose.1]
  | some e =>
    refine ⟨rfl, Prod.ext hinput ?_⟩
    simp [inputSide, Link.hangUp, Link.followed, link, Followed.on, hook, Asked.hangsUp, hangUpErrand, hungUp]

/-- To send is not to hang up. -/
theorem send_hangUps {st : Stage T (Followed Company)} (hl : st.session.link = (link awaited hookError).followed whose)
    (data : Payload) :
    (st.send data).2.process.asked.filter Asked.hangsUp = st.process.asked.filter Asked.hangsUp := by
  rcases st.send_cases data with heq | ⟨noted, bytes, hnoted, hsent⟩
  · rw [heq]
  · have hprocess : noted.process = st.process := by
      rcases hnoted with rfl | rfl <;> rfl
    rw [hl] at hsent
    rcases hsent with heq | heq <;>
      simp [heq, Stage.act, Desk.act, Link.followed, Followed.on, Asked.hangsUp, hprocess]

end Company

/-! ## What is told is transcribed -/

/-- A session of conduct `c` that was told so much has kept it, and is closed if it was told to be. -/
structure Transcribed (awaited : Bool) (hookError : Option (Option Failure)) (c : Conduct T) (initial : List UInt8)
    (said : List Said) (st : Stage T (Followed Company)) : Prop where
  link : st.session.link = (Company.link awaited hookError).followed .own
  conduct : st.session.conduct = c
  closed : st.session.closed = said.any Said.isClosing
  side : Company.inputSide st.process = Company.sideAfter hookError c.encoding initial said

namespace Transcribed

variable {awaited : Bool} {hookError : Option (Option Failure)} {c : Conduct T} {initial : List UInt8}
  {said : List Said} {st : Stage T (Followed Company)}

/-- Nothing else that is done adds to it. -/
theorem spared [Moment T] : Spared ((Company.setting awaited hookError).followed .own) Cue.Aloof
    (Transcribed awaited hookError c initial said) where
  settle {st} now h := by
    obtain ⟨hlink, hconduct, hclosed⟩ := Stage.settle_session now st
    refine ⟨hlink.trans h.link, hconduct.trans h.conduct, hclosed.trans h.closed, ?_⟩
    exact Stage.settle_keeps (h.link ▸ Company.keeps_inputSide awaited hookError .own _) h.side now
  move {cue st} haloof h := by
    have hmoves : ((Company.setting awaited hookError).followed .own).moves cue = cue.move.followed := rfl
    rw [hmoves]
    cases hmove : cue.move with
    | session told =>
      obtain rfl := Cue.eq_session hmove
      cases told with
      | send data => exact haloof.elim
      | close => exact haloof.elim
      | subscribe callback => exact ⟨h.link, h.conduct, h.closed, h.side⟩
    | outside f =>
      refine ⟨h.link, h.conduct, h.closed, ?_⟩
      rw [← h.side]
      exact Prod.ext (Company.inputSide_of_move haloof hmove st.process.process) rfl
  calm h := ⟨h.link, h.conduct, h.closed, h.side⟩
  consume _ _ h := ⟨h.link, h.conduct, h.closed, h.side⟩

theorem side_of_open (h : Transcribed awaited hookError c initial said st) (hopen : said.any Said.isClosing = false) :
    Company.inputSide st.process = ({ written := initial ++ Said.recorded c.encoding said }, []) := by
  rw [h.side]
  simp only [Company.sideAfter, hopen, Bool.false_and, Bool.false_eq_true, if_false]

/-- Nothing that is said to a closed session changes anything. -/
theorem stays (h : Transcribed awaited hookError c initial said st) (hclosed : said.any Said.isClosing = true)
    (now : Said) : Transcribed awaited hookError c initial (said ++ [now]) st := by
  refine ⟨h.link, h.conduct, ?_, ?_⟩
  · rw [h.closed, List.any_append, hclosed, Bool.true_or]
  · rw [h.side]
    simp only [Company.sideAfter, Said.recorded_of_closed hclosed, List.any_append, hclosed, Bool.true_or]

/-- A session that is open writes what it is sent behind what was written. -/
theorem recording (h : Transcribed awaited hookError c initial said st) (hopen : said.any Said.isClosing = false) :
    st.Recording (·.process.lead.input) := by
  have hinput := congrArg Prod.fst h.side
  refine ⟨h.link ▸ Company.inscribes_followed awaited hookError .own, ?_, h.closed.trans hopen⟩
  exact (congrArg Input.kind hinput)

theorem send (h : Transcribed awaited hookError c initial said st) (data : Payload) :
    Said.Follows c.encoding (Company.hungUp hookError) said (.sent data (st.send data).1) ∧
      Transcribed awaited hookError c initial (said ++ [.sent data (st.send data).1]) (st.send data).2 := by
  cases hany : said.any Said.isClosing with
  | true =>
    rw [Stage.send_of_closed (h.closed.trans hany) data]
    exact ⟨by simp [Said.Follows, hany], h.stays hany _⟩
  | false =>
    obtain ⟨hinput, hhangUps⟩ := Prod.mk.inj (h.side_of_open hany)
    obtain ⟨houtcome, hview, hsession⟩ := (h.recording hany).send_eq data
    simp only [hinput, h.conduct] at houtcome hview
    have hsent : (st.send data).1 = (data.encode c.encoding).map fun _ => () := by
      rw [houtcome]
      cases data.encode c.encoding <;> rfl
    -- What cannot be encoded has no content, so in both cases the payload is what was put behind the rest.
    have hpayload : Said.payload c.encoding (.sent data (st.send data).1) = data.content c.encoding := by
      rw [hsent, Payload.content]
      cases hdata : data.encode c.encoding <;> simp [Said.payload, Except.map, Except.toOption, Payload.content, hdata]
    have hmore : (said ++ [Said.sent data (st.send data).1]).any Said.isClosing = false := by
      simp [hany, Said.isClosing]
    refine ⟨by rw [Said.Follows, hany]; exact hsent, hsession ▸ h.link, hsession ▸ h.conduct, ?_, ?_⟩
    · rw [hsession, h.closed, hany, hmore]
    · refine Prod.ext (hview.trans ?_) (((Company.send_hangUps h.link data).trans hhangUps).trans ?_)
      · simp only [Company.sideAfter, hmore, Said.recorded_of_open hany, hpayload, Input.inscribed,
          Bool.false_eq_true, if_false, Bool.false_and, List.append_assoc]
      · simp only [Company.sideAfter, hmore, Bool.false_eq_true, if_false]

theorem close (h : Transcribed awaited hookError c initial said st) :
    Said.Follows c.encoding (Company.hungUp hookError) said (.closed st.close.1) ∧
      Transcribed awaited hookError c initial (said ++ [.closed st.close.1]) st.close.2 := by
  cases hany : said.any Said.isClosing with
  | true =>
    have hclose : st.close = (.ok (), st) := by simp only [Stage.close, h.closed.trans hany, if_true]
    rw [hclose]
    exact ⟨by simp [Said.Follows, hany], h.stays hany _⟩
  | false =>
    obtain ⟨hinput, hhangUps⟩ := Prod.mk.inj (h.side_of_open hany)
    have hclose : st.close = ({ st with session := { st.session with closed := true } } : Stage T _).act
        ((Company.link awaited hookError).followed .own).hangUp := by
      simp only [Stage.close, h.closed.trans hany, Bool.false_eq_true, if_false, h.link]
    obtain ⟨houtcome, hside⟩ := Company.hangUp_followed awaited hookError .own hinput
    have hmore : (said ++ [Said.closed st.close.1]).any Said.isClosing = true := by
      simp [Said.isClosing]
    rw [hclose] at hmore ⊢
    refine ⟨by rw [Said.Follows, hany]; exact houtcome, h.link, h.conduct, hmore.symm, ?_⟩
    refine hside.trans ?_
    simp only [Company.sideAfter, hmore, Said.recorded_of_open hany, Said.payload, hhangUps, List.append_nil,
      Bool.true_and, if_true, List.nil_append]

end Transcribed

/-- What was said up to here, and what there is to show for it. -/
structure Transcript (awaited : Bool) (hookError : Option (Option Failure)) (c : Conduct T) (initial : List UInt8)
    (said : List Said) (s : Scene T (Stage T (Followed Company)) Cue) : Prop where
  faithful : Said.Faithful c.encoding (Company.hungUp hookError) said
  world : Transcribed awaited hookError c initial said s.world
  plans : Plans Cue.Aloof s.agenda

namespace Transcript

variable {awaited : Bool} {hookError : Option (Option Failure)} {c : Conduct T} {initial : List UInt8}
  {said : List Said} {s : Scene T (Stage T (Followed Company)) Cue}

/-- Nothing was said to a session that has just begun. -/
theorem opened (awaited : Bool) (hookError : Option (Option Failure)) (c : Conduct T) (timeout : Span T) (now : T)
    {agenda : List (Appointment T Cue)} (hagenda : Plans Cue.Aloof agenda) {d : Desk Company}
    (hinput : d.process.lead.input = { written := initial }) :
    Transcript awaited hookError c initial []
      (((Company.setting awaited hookError).followed .own).opened c timeout now agenda d.followed) := by
  obtain ⟨starts, reader, waiter, hworld, -⟩ :=
    ((Company.setting awaited hookError).followed .own).opened_world c timeout now agenda d.followed
  refine ⟨.nil, ?_, hagenda⟩
  rw [hworld]
  exact ⟨rfl, rfl, rfl, Prod.ext (hinput.trans (by simp [Company.sideAfter, Said.recorded])) rfl⟩

theorem send (h : Transcript awaited hookError c initial said s) (data : Payload) :
    Transcript awaited hookError c initial (said ++ [.sent data (s.world.send data).1])
      { s with world := (s.world.send data).2 } :=
  ⟨h.faithful.snoc (h.world.send data).1, (h.world.send data).2, h.plans⟩

theorem close (h : Transcript awaited hookError c initial said s) :
    Transcript awaited hookError c initial (said ++ [.closed s.world.close.1])
      { s with world := s.world.close.2 } :=
  ⟨h.faithful.snoc h.world.close.1, h.world.close.2, h.plans⟩

/-- What keeps aloof adds nothing. -/
theorem spared (h : Transcript awaited hookError c initial said s)
    {s' : Scene T (Stage T (Followed Company)) Cue}
    (hs' : Spared.Holds Cue.Aloof (Transcribed awaited hookError c initial said) s') :
    Transcript awaited hookError c initial said s' :=
  ⟨h.faithful, hs'.1, hs'.2⟩

variable [Moment T]

theorem step (h : Transcript awaited hookError c initial said s) (step : Step T) :
    Transcript awaited hookError c initial (said ++ step.said s)
      (Stage.doStep ((Company.setting awaited hookError).followed .own).life step s).2 := by
  -- Whoever waits lets arranged moves happen, and these keep aloof.
  have hwaits (targets : List Target) (limit : Option (Span T)) :
      Transcript awaited hookError c initial (said ++ [])
        (Stage.expectAny ((Company.setting awaited hookError).followed .own).life targets limit s).2 := by
    rw [List.append_nil]
    exact h.spared (Transcribed.spared.expectAny targets limit ⟨h.world, h.plans⟩)
  cases step with
  | send data => exact h.send data
  | expect target limit => exact hwaits [target] limit
  | expectAny targets limit => exact hwaits targets limit
  | unknown v => simpa [Step.said, Stage.doStep] using h

theorem batch (h : Transcript awaited hookError c initial said s) (steps : List (Step T)) :
    Transcript awaited hookError c initial
      (said ++ Stage.said ((Company.setting awaited hookError).followed .own).life steps s)
      (Stage.batch ((Company.setting awaited hookError).followed .own).life steps s).2 := by
  induction steps generalizing said s with
  | nil =>
    rw [Stage.said, List.append_nil]
    exact h
  | cons step steps ih =>
    have hstep := h.step step
    simp only [Stage.said, Stage.batch]
    -- A step that failed has still said what it said.
    revert hstep
    rcases Stage.doStep ((Company.setting awaited hookError).followed .own).life step s with ⟨_ | _, next⟩ <;>
      intro hstep
    · exact hstep
    · rw [← List.append_assoc]
      exact ih hstep

theorem call (h : Transcript awaited hookError c initial said s) {call : Call T} (haloof : call.Aloof) :
    Transcript awaited hookError c initial
      (said ++ call.said ((Company.setting awaited hookError).followed .own).life s)
      (Deed.run ((Company.setting awaited hookError).followed .own).life call.deeds s).2 := by
  cases call with
  | send data => exact h.send data
  | batch steps => exact h.batch steps
  | close => exact h.close
  | leave => exact h.close
  | enter =>
    rw [Call.said, List.append_nil]
    exact h
  | other d =>
    rw [Call.said, List.append_nil]
    exact h.spared (Transcribed.spared.deed haloof ⟨h.world, h.plans⟩)

theorem run (h : Transcript awaited hookError c initial said s) {calls : List (Call T)}
    (haloof : ∀ call ∈ calls, call.Aloof) :
    Transcript awaited hookError c initial
      (said ++ Call.allSaid ((Company.setting awaited hookError).followed .own).life calls s)
      (Deed.run ((Company.setting awaited hookError).followed .own).life (calls.flatMap Call.deeds) s).2 := by
  induction calls generalizing said s with
  | nil =>
    rw [Call.allSaid, List.append_nil]
    exact h
  | cons call calls ih =>
    obtain ⟨hcall, hrest⟩ := List.forall_mem_cons.1 haloof
    rw [Call.allSaid, List.flatMap_cons, Deed.run_append, ← List.append_assoc]
    exact ih (h.call hcall) hrest

end Transcript

variable [Moment T]

/-! ## Two sessions that are told the same -/

namespace Likeness

variable {S : Setting σ Cue} {S' : Setting τ Cue} {R : Stage T σ → Stage T τ → Prop} {s : Scene T (Stage T σ) Cue}
  {s' : Scene T (Stage T τ) Cue}

theorem step_said (hl : Likeness S S' (fun _ => True) R) (step : Step T) (h : Paired R s s') :
    step.said s' = step.said s := by
  cases step with
  | send data =>
    have hsend : (s'.world.send data).1 = (s.world.send data).1 := (hl.perform (.send data) h.world).1
    simp only [Step.said, hsend]
  | _ => rfl

theorem batch_said (hl : Likeness S S' (fun _ => True) R) (steps : List (Step T)) (h : Paired R s s') :
    Stage.said S'.life steps s' = Stage.said S.life steps s := by
  induction steps generalizing s s' with
  | nil => rfl
  | cons step steps ih =>
    obtain ⟨heq, hp⟩ := hl.doStep step h trivial
    simp only [Stage.said, hl.step_said step h]
    revert heq hp
    rcases Stage.doStep S.life step s with ⟨outcome, next⟩
    rcases Stage.doStep S'.life step s' with ⟨outcome', next'⟩
    rintro rfl hp
    cases outcome' with
    | error e => rfl
    | ok results => simp only [ih hp]

/-- The same comes of what is said. -/
theorem allSaid (hl : Likeness S S' (fun _ => True) R) (calls : List (Call T)) (h : Paired R s s') :
    Call.allSaid S'.life calls s' = Call.allSaid S.life calls s := by
  induction calls generalizing s s' with
  | nil => rfl
  | cons call calls ih =>
    have hcall : call.said S'.life s' = call.said S.life s := by
      have hclose : s'.world.close.1 = s.world.close.1 := (hl.perform .close h.world).1
      cases call with
      | send data => exact hl.step_said (.send data) h
      | batch steps => exact hl.batch_said steps h
      | close => simp only [Call.said, hclose]
      | leave => simp only [Call.said, hclose]
      | enter => rfl
      | other d => rfl
    obtain ⟨⟨-, hp⟩, -⟩ := hl.run call.deeds h trivial
    rw [Call.allSaid, Call.allSaid, hcall, ih hp]

end Likeness

/-- What is said to a session that begins is on record if it is followed, and it is the same if it is not. -/
theorem Transcript.of_opened (awaited : Bool) (hookError : Option (Option Failure)) (c : Conduct T) (timeout : Span T)
    (now : T) {agenda : List (Appointment T Cue)} (hagenda : Plans Cue.Aloof agenda) {d : Desk Company}
    {initial : List UInt8} (hinput : d.process.lead.input = { written := initial }) {calls : List (Call T)}
    (hcalls : ∀ call ∈ calls, call.Aloof) :
    let S := Company.setting awaited hookError
    let start := S.opened c timeout now agenda d
    let followed := Deed.run (S.followed .own).life (calls.flatMap Call.deeds)
      ((S.followed .own).opened c timeout now agenda d.followed)
    Transcript awaited hookError c initial (Call.allSaid S.life calls start) followed.2 ∧
      Agree (Stage.Unfollowed .own S.link) followed (Deed.run S.life (calls.flatMap Call.deeds) start) := by
  intro S start followed
  have hlike := S.following (T := T) .own
  have hopened := S.following_opened .own c timeout now agenda d
  have hrun := (Transcript.opened awaited hookError c timeout now hagenda hinput).run hcalls
  rw [List.nil_append, ← hlike.allSaid calls hopened] at hrun
  exact ⟨hrun, (hlike.run (calls.flatMap Call.deeds) hopened trivial).1⟩

namespace Rehearsal

/-- **The transcript of the input.** Whatever a caller does and in whatever order, what comes of each thing that is
said to a session is settled by what was said before it: what is sent to an open session fails only if it cannot be
encoded, everything that is sent to a closed one is refused, and of the closings only the first can fail. A recorder
has kept what was sent before the first closing, in order, and none of what could not be encoded. The session is
closed if it was told to be, also if hanging up failed, and it was then hung up once: through its hook, or by closing
the input if it has none. -/
theorem input_transcribed (awaited : Bool) (hookError : Option (Option Failure)) (c : Conduct T) (timeout : Span T)
    (now : T) (agenda : List (Appointment T Cue)) (hagenda : Plans Cue.Aloof agenda) (d : Desk Company)
    {initial : List UInt8} (hinput : d.process.lead.input = { written := initial }) (calls : List (Call T))
    (hcalls : ∀ call ∈ calls, call.Aloof) :
    let S := Company.setting awaited hookError
    let start := S.opened c timeout now agenda d
    let said := Call.allSaid S.life calls start
    let run := Deed.run S.life (calls.flatMap Call.deeds) start
    let followed := Deed.run (S.followed .own).life (calls.flatMap Call.deeds)
      ((S.followed .own).opened c timeout now agenda d.followed)
    Said.Faithful c.encoding (Company.hungUp hookError) said ∧
      run.2.world.process.lead.input.written = initial ++ Said.recorded c.encoding said ∧
      run.2.world.session.closed = said.any Said.isClosing ∧
      (followed.2.world.process.asked.filter Asked.hangsUp = if said.any Said.isClosing then
        [⟨.own, Company.hangUpErrand hookError, Company.hungUp hookError⟩] else []) ∧
      run.1 = followed.1 ∧ run.2.world.process = followed.2.world.process.process := by
  intro S start said run followed
  obtain ⟨⟨hfaithful, hworld, -⟩, hanswers, hpair⟩ :=
    Transcript.of_opened awaited hookError c timeout now hagenda hinput hcalls
  have hplain : run.2.world = followed.2.world.plain S.link := hpair.world.2
  obtain ⟨hkept, hhangUps⟩ := Prod.mk.inj hworld.side
  refine ⟨hfaithful, ?_, ?_, hhangUps, hanswers, congrArg (·.process) hplain⟩
  · rw [hplain]
    exact congrArg Input.written hkept
  · rw [hplain]
    exact hworld.closed

/-- A session is entered, told this and that, and left; its hook fails. -/
def visit : List (Call Int) :=
  [.enter, .send (.text "a"), .send (.text "é"), .batch [.send (.bytes [0xFF]), .send (.text "b")], .leave,
    .send (.text "é"), .close]

theorem visit_transcribed :
    let e : Failure := .ambient .runtime []
    let S := Company.setting true (some (some e))
    let d : Desk Company := { process := {} }
    let run := Deed.run S.life (visit.flatMap Call.deeds) (S.opened (reading .ascii) ⟨5, .none⟩ 0 [] d)
    let followed := Deed.run (S.followed .own).life (visit.flatMap Call.deeds)
      ((S.followed .own).opened (reading .ascii) ⟨5, .none⟩ 0 [] d.followed)
    run.2.world.process.lead.input.written = [0x61, 0xFF, 0x62] ∧ run.2.world.session.closed = true ∧
      followed.2.world.process.asked.filter Asked.hangsUp = [⟨.own, .hook, .error e⟩] := by
  intro e S d run followed
  obtain ⟨-, hwritten, hclosed, hhangUps, -⟩ := input_transcribed true (some (some e)) (reading .ascii) ⟨5, .none⟩ 0
    [] (fun _ h => nomatch h) d rfl visit (by simp [visit, Call.Aloof])
  have hsaid : (Call.allSaid S.life visit (S.opened (reading .ascii) ⟨5, .none⟩ 0 [] d)).any Said.isClosing = true := by
    decide +kernel
  have hrecorded : Said.recorded .ascii (Call.allSaid S.life visit (S.opened (reading .ascii) ⟨5, .none⟩ 0 [] d)) =
      [0x61, 0xFF, 0x62] := by
    decide +kernel
  exact ⟨hwritten.trans hrecorded, hclosed.trans hsaid, hhangUps.trans (if_pos hsaid)⟩

end Rehearsal

end Dialogue
