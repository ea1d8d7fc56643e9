import Dialogue.Proofs.Encoded
import Dialogue.Proofs.EndOfOutput
/-!
# What a process is sent

A stand-in keeps what is written to it. A text that is sent in two pieces is kept as if it had been sent at once
(`Rehearsal.sent_in_pieces`), unless the encoding puts a mark in front of each piece (`Rehearsal.pieces_marked`).
-/

namespace Dialogue

variable {T σ : Type}

/-! ## Writing to an input -/

/-- To write through the link is to write to the input that is seen of the world. -/
structure Link.Inscribes (l : Link σ) (view : σ → Input) : Prop where
  write : ∀ bytes w, ((l.write bytes w).1, view (l.write bytes w).2) = (view w).write bytes
  flush : ∀ w, ((l.flush w).1, view (l.flush w).2) = ((view w).flush, view w)

theorem Company.inscribes (awaited : Bool) (hookError : Option (Option Failure)) :
    (link awaited hookError).Inscribes (·.lead.input) where
  write _ _ := rfl
  flush _ := rfl

namespace Input

/-- The input after bytes were put behind what was written; a closed one takes none. -/
def inscribed (bytes : List UInt8) (i : Input) : Input :=
  if i.closed then i else { i with written := i.written ++ bytes }

variable {i : Input}

/-- A recorder refuses to be written to if it is closed, and then it refuses to be flushed too. -/
theorem write_recorder (hkind : i.kind = .recorder) (bytes : List UInt8) :
    i.write bytes = (i.flush, i.inscribed bytes) := by
  cases hclosed : i.closed <;> simp [write, flush, inscribed, hkind, hclosed]

theorem inscribed_kind (bytes : List UInt8) : (i.inscribed bytes).kind = i.kind := by
  unfold inscribed
  split <;> rfl

theorem inscribed_flush (bytes : List UInt8) : (i.inscribed bytes).flush = i.flush := by
  unfold inscribed
  split <;> rfl

theorem inscribed_nil : i.inscribed [] = i := by
  simp [inscribed]

theorem inscribed_written (hflush : i.flush = .ok ()) (bytes : List UInt8) :
    (i.inscribed bytes).written = i.written ++ bytes := by
  cases hclosed : i.closed
  · simp [inscribed, hclosed]
  · simp [flush, hclosed] at hflush

end Input

/-! ## Sending to a recorder -/

/-- The bytes of what can be sent, and none of what cannot be encoded. -/
def Payload.content (e : Encoding) (data : Payload) : List UInt8 := (data.encode e).toOption.getD []

/-- The session is open, and what it sends goes to a recorder. -/
structure Stage.Recording (view : σ → Input) (st : Stage T σ) : Prop where
  link : st.session.link.Inscribes view
  kind : (view st.process).kind = .recorder
  opened : st.session.closed = false

theorem Stage.send_of_closed {st : Stage T σ} (hclosed : st.session.closed) (data : Payload) :
    st.send data = (.error .sessionClosed, st) := by
  simp only [send, hclosed, if_true]

namespace Stage.Recording

variable {view : σ → Input} {st : Stage T σ}

/-- Sending fails if the data cannot be encoded, or if the recorder is closed. What can be encoded is put behind what
was written. -/
theorem send_eq (h : st.Recording view) (data : Payload) :
    (st.send data).1 = (data.encode st.session.conduct.encoding).bind (fun _ => (view st.process).flush) ∧
      view (st.send data).2.process = (view st.process).inscribed (data.content st.session.conduct.encoding) ∧
      (st.send data).2.session = st.session := by
  unfold Payload.content
  cases hdata : data.encode st.session.conduct.encoding with
  | error e =>
    simp only [send, h.opened, Bool.false_eq_true, if_false, hdata]
    exact ⟨rfl, Input.inscribed_nil.symm, trivial⟩
  | ok bytes =>
    -- Noting what is sent touches neither the process nor the session.
    obtain ⟨noted, hnoted, hprocess, hsession⟩ : ∃ noted,
        (if st.session.conduct.verbose then st.note (.sent data.toValue) else st) = noted ∧
          noted.process = st.process ∧ noted.session = st.session := by
      split <;> exact ⟨_, rfl, rfl, rfl⟩
    obtain ⟨houtcome, hview⟩ :=
      Prod.mk.inj ((h.link.write bytes st.process).trans (Input.write_recorder h.kind bytes))
    obtain ⟨hflushed, hkept⟩ := Prod.mk.inj (h.link.flush (st.session.link.write bytes st.process).2)
    rw [hview] at hflushed hkept
    simp only [send, h.opened, Bool.false_eq_true, if_false, hdata, hnoted]
    rw [hsession]
    have hact : noted.act (st.session.link.write bytes) = ((st.session.link.write bytes st.process).1,
        { noted with process := (st.session.link.write bytes st.process).2 }) := by
      rw [← hprocess]
      rfl
    rw [hact]
    cases hfirst : (st.session.link.write bytes st.process).1 with
    | error e => exact ⟨hfirst.symm.trans houtcome, hview, hsession⟩
    | ok _ =>
      simp only [hsession]
      exact ⟨hflushed.trans (Input.inscribed_flush bytes), hkept, rfl⟩

theorem send (h : st.Recording view) (data : Payload) : (st.send data).2.Recording view := by
  obtain ⟨-, hview, hsession⟩ := h.send_eq data
  refine ⟨hsession ▸ h.link, ?_, hsession ▸ h.opened⟩
  rw [hview, Input.inscribed_kind, h.kind]

/-- What was sent before makes no difference to whether something can be sent. -/
theorem send_send (h : st.Recording view) (data more : Payload) :
    ((st.send data).2.send more).1 = (st.send more).1 := by
  obtain ⟨-, hview, hsession⟩ := h.send_eq data
  rw [((h.send data).send_eq more).1, (h.send_eq more).1, hview, hsession, Input.inscribed_flush]

theorem send_ok_iff (h : st.Recording view) (data : Payload) : (st.send data).1 = .ok () ↔
    data.encode st.session.conduct.encoding = .ok (data.content st.session.conduct.encoding) ∧
      (view st.process).flush = .ok () := by
  rw [(h.send_eq data).1, Payload.content]
  cases data.encode st.session.conduct.encoding <;> simp [Except.bind, Except.toOption]

theorem written (h : st.Recording view) {data : Payload} (hsent : (st.send data).1 = .ok ()) :
    (view (st.send data).2.process).written =
      (view st.process).written ++ data.content st.session.conduct.encoding := by
  rw [(h.send_eq data).2.1, Input.inscribed_written ((h.send_ok_iff data).1 hsent).2]

end Stage.Recording

/-! ## A text in pieces -/

theorem Payload.encode_text {e : Encoding} {s : String} {bytes : List UInt8} :
    (text s).encode e = .ok bytes ↔ e.encode s.toList = .ok bytes := by
  unfold encode
  cases he : e.encode s.toList <;> simp [he]

/-- A text can be encoded if its pieces can, and its bytes are theirs, with one mark in front. -/
theorem Payload.encode_pieces (e : Encoding) (a b : String) :
    ((text (a ++ b)).encode e = .ok ((text (a ++ b)).content e) ↔
      (text a).encode e = .ok ((text a).content e) ∧ (text b).encode e = .ok ((text b).content e)) ∧
    ((text (a ++ b)).encode e = .ok ((text (a ++ b)).content e) → ∃ back,
      (text b).content e = e.opening ++ back ∧ (text (a ++ b)).content e = (text a).content e ++ back) := by
  have hcontent {s : String} {bytes : List UInt8} (h : e.encode s.toList = .ok bytes) : (text s).content e = bytes := by
    rw [Payload.content, encode_text.2 h]
    rfl
  simp only [encode_text, String.toList_append]
  constructor
  · constructor
    · intro hwhole
      obtain ⟨front, back, ha, hb, -⟩ := Encoding.encode_append_iff.1 hwhole
      exact ⟨by rw [hcontent ha, ha], by rw [hcontent hb, hb]⟩
    · rintro ⟨ha, hb⟩
      obtain ⟨back, hback⟩ := Encoding.encode_opening hb
      have hwhole : e.encode (a ++ b).toList = .ok ((text a).content e ++ back) := by
        rw [String.toList_append]
        exact Encoding.encode_append_iff.2 ⟨_, back, ha, hback ▸ hb, rfl⟩
      rw [hcontent hwhole, ← String.toList_append, hwhole]
  · intro hwhole
    obtain ⟨front, back, ha, hb, heq⟩ := Encoding.encode_append_iff.1 hwhole
    exact ⟨back, hcontent hb, by rw [heq, hcontent ha]⟩

namespace Rehearsal

/-- **Text may be split over sends.** A text can be sent to a recorder exactly if its two pieces can, one after the
other, and whether the second can does not depend on the first. What is kept is then the same, namely the bytes of
the whole text, unless the encoding is the one that puts a mark in front of every text: with it, the second piece
brings one more mark. -/
theorem sent_in_pieces (awaited : Bool) (hookError : Option (Option Failure)) {st : Stage T Company}
    (hlink : st.session.link = Company.link awaited hookError) (hkind : st.process.lead.input.kind = .recorder)
    (hopen : st.session.closed = false) (a b : String) :
    let e := st.session.conduct.encoding
    let written (st : Stage T Company) := st.process.lead.input.written
    let whole := st.send (.text (a ++ b))
    let first := st.send (.text a)
    let second := first.2.send (.text b)
    (whole.1 = .ok () ↔ first.1 = .ok () ∧ second.1 = .ok ()) ∧ second.1 = (st.send (.text b)).1 ∧
      (whole.1 = .ok () →
        (∃ bytes, (Payload.text (a ++ b)).encode e = .ok bytes ∧ written whole.2 = written st ++ bytes) ∧
        (e ≠ .utf16 → written second.2 = written whole.2) ∧
        ∃ back, written whole.2 = written first.2 ++ back ∧ written second.2 = written first.2 ++ (e.opening ++ back)) := by
  intro e written whole first second
  have hst : st.Recording (·.lead.input) := ⟨hlink ▸ Company.inscribes awaited hookError, hkind, hopen⟩
  have hsecond : second.1 = (st.send (.text b)).1 := hst.send_send _ _
  obtain ⟨hpieces, hcontent⟩ := Payload.encode_pieces e a b
  have hok : whole.1 = .ok () ↔ first.1 = .ok () ∧ second.1 = .ok () := by
    rw [hsecond, hst.send_ok_iff, hst.send_ok_iff, hst.send_ok_iff, hpieces, ← and_and_right]
  refine ⟨hok, hsecond, fun hwhole => ?_⟩
  obtain ⟨hfirst, hboth⟩ := hok.1 hwhole
  have hencoded := ((hst.send_ok_iff _).1 hwhole).1
  obtain ⟨back, hb, hab⟩ := hcontent hencoded
  have hwritten : written whole.2 = written st ++ (Payload.text (a ++ b)).content e := hst.written hwhole
  have hfront : written first.2 = written st ++ (Payload.text a).content e := hst.written hfirst
  have hlast : written second.2 = written first.2 ++ (Payload.text b).content e := by
    have hmore := (hst.send (.text a)).written hboth
    rwa [(hst.send_eq (.text a)).2.2] at hmore
  have hback : written whole.2 = written first.2 ++ back := by
    rw [hwritten, hab, hfront, List.append_assoc]
  rw [hb] at hlast
  refine ⟨⟨_, hencoded, hwritten⟩, fun he => ?_, back, hback, hlast⟩
  rw [hlast, hback, Encoding.opening_plain he, List.nil_append]

/-- A session with nothing sent yet. -/
def unsent (encoding : Encoding) : Stage Int Company :=
  ((Company.setting false none).opened (reading encoding) ⟨5, .none⟩ 0 [] { process := {} }).world

theorem word_in_pieces :
    let st := unsent .utf8
    ((st.send (.text "é")).2.send (.text "!")).2.process.lead.input.written = [0xC3, 0xA9, 0x21] ∧
      (st.send (.text "é!")).2.process.lead.input.written = [0xC3, 0xA9, 0x21] := by
  intro st
  have hwhole : (st.send (.text "é!")).2.process.lead.input.written = [0xC3, 0xA9, 0x21] := by decide +kernel
  obtain ⟨-, -, hsame⟩ :=
    sent_in_pieces false none (show st.session.link = Company.link false none from rfl) rfl rfl "é" "!"
  exact ⟨((hsame rfl).2.1 (by decide)).trans hwhole, hwhole⟩

/-- With a mark in front of every text, both pieces are sent, but not what the whole is. -/
theorem pieces_marked :
    let st := unsent .utf16
    let whole := st.send (.text ("x" ++ "y"))
    let first := st.send (.text "x")
    let second := first.2.send (.text "y")
    whole.1 = .ok () ∧ first.1 = .ok () ∧ second.1 = .ok () ∧
      whole.2.process.lead.input.written = [0xFF, 0xFE, 0x78, 0x00, 0x79, 0x00] ∧
      second.2.process.lead.input.written = [0xFF, 0xFE, 0x78, 0x00, 0xFF, 0xFE, 0x79, 0x00] :=
  ⟨rfl, rfl, rfl, by decide +kernel, by decide +kernel⟩

end Rehearsal

end Dialogue
