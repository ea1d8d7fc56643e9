import Dialogue.Proofs.Intake
/-!
# Decoding piece by piece

What a decoder makes of a stream does not depend on how the stream is cut (`Decoder.feed_append`). Only the
mark of a stream whose byte order is not known can be missed at one place or another; how such a stream
looks at its end is told by its bytes (`Decoder.finish_eq_none_iff`).
-/

namespace Dialogue

/-! ## One piece after the other -/

namespace Encoding

variable (e : Encoding)

theorem foldl_advance (bytes : List UInt8) (out : List Char) (pending : List UInt8) :
    bytes.foldl e.advance (out, pending) =
      ((e.run pending bytes).1.reverse ++ out, (e.run pending bytes).2) := by
  have hfold (state : List Char × List UInt8) : bytes.foldl e.advance state =
      ((bytes.foldl e.advance ([], state.2)).1 ++ state.1, (bytes.foldl e.advance ([], state.2)).2) := by
    induction bytes generalizing state with
    | nil => rfl
    | cons b bytes ih =>
      rw [List.foldl_cons, List.foldl_cons, ih, ih (e.advance ([], state.2) b)]
      simp [advance]
  simp [hfold (out, pending), run]

theorem run_nil (pending : List UInt8) : e.run pending [] = ([], pending) := rfl

theorem run_cons (pending : List UInt8) (b : UInt8) (bytes : List UInt8) :
    e.run pending (b :: bytes) =
      ((e.step pending b).1 ++ (e.run (e.step pending b).2 bytes).1, (e.run (e.step pending b).2 bytes).2) := by
  rw [run, List.foldl_cons, advance, foldl_advance]
  simp

theorem run_append (pending bytes more : List UInt8) :
    e.run pending (bytes ++ more) =
      ((e.run pending bytes).1 ++ (e.run (e.run pending bytes).2 more).1, (e.run (e.run pending bytes).2 more).2) := by
  induction bytes generalizing pending with
  | nil => simp [run_nil]
  | cons b bytes ih => simp [run_cons, ih]

theorem Utf16.start_pending (order : ByteOrder) (a b : UInt8) :
    (Utf16.start order a b).2 = if Utf16.isHigh (Utf16.unit order a b) then [a, b] else [] := by
  simp only [Utf16.start]
  split
  · rfl
  · split <;> rfl

theorem Utf16.length_start (order : ByteOrder) (a b : UInt8) : (Utf16.start order a b).2.length ≤ 2 := by
  rw [Utf16.start_pending]
  split <;> simp

theorem length_step (pending : List UInt8) (b : UInt8) : (e.step pending b).2.length ≤ pending.length + 1 := by
  have hutf8 (b : UInt8) : (Utf8.start b).2.length ≤ 1 := by
    simp only [Utf8.start]
    split <;> simp
  have hunits (order : ByteOrder) : (Utf16.step order pending b).2.length ≤ pending.length + 1 := by
    rcases pending with _ | ⟨h, _ | ⟨l, _ | ⟨a, rest⟩⟩⟩
    · simp [Utf16.step]
    · exact Utf16.length_start order h b
    · simp [Utf16.step]
    · simp only [Utf16.step]
      split
      · simp
      · have hstart := Utf16.length_start order a b
        simp only [List.length_cons]
        omega
  cases e with
  | utf8 =>
    rcases pending with _ | ⟨lead, tails⟩
    · exact hutf8 b
    · have hstart := hutf8 b
      simp only [step, Utf8.step]
      split
      · split <;> simp
      · simp only [List.length_cons]
        omega
  | utf16 => exact hunits _
  | utf16Fixed order => exact hunits order
  | _ => simp [step, SingleByte.step]

theorem length_run (pending bytes : List UInt8) : (e.run pending bytes).2.length ≤ pending.length + bytes.length := by
  induction bytes generalizing pending with
  | nil => simp [run_nil]
  | cons b bytes ih =>
    have hstep := e.length_step pending b
    have hrest := ih (e.step pending b).2
    simp only [run_cons, List.length_cons]
    omega

/-! ## Streams without a mark -/

/-- Half a character of two or three bytes, as a little-endian stream without a mark could begin. -/
def Utf16.HalfStart : List UInt8 → Prop
  | _ :: hi :: rest => rest.length ≤ 1 ∧ 0xD8 ≤ hi.toNat ∧ hi.toNat < 0xDC
  | _ => False

instance (bytes : List UInt8) : Decidable (Utf16.HalfStart bytes) :=
  match bytes with
  | _ :: hi :: rest => inferInstanceAs (Decidable (rest.length ≤ 1 ∧ 0xD8 ≤ hi.toNat ∧ hi.toNat < 0xDC))
  | [] | [_] => .isFalse id

theorem Utf16.HalfStart.two_le {bytes : List UInt8} (h : HalfStart bytes) : 2 ≤ bytes.length := by
  rcases bytes with _ | ⟨lo, _ | ⟨hi, rest⟩⟩
  · exact h.elim
  · exact h.elim
  · simp

theorem Utf16.isHigh_unit (lo hi : UInt8) :
    isHigh (unit .littleEndian lo hi) = true ↔ 0xD8 ≤ hi.toNat ∧ hi.toNat < 0xDC := by
  have hlo := lo.toNat_lt
  show (decide (0xD800 ≤ lo.toNat + 256 * hi.toNat) && decide (lo.toNat + 256 * hi.toNat < 0xDC00)) = true ↔ _
  rw [Bool.and_eq_true, decide_eq_true_iff, decide_eq_true_iff]
  omega

/-- All of a stream is kept only while it is too short to tell a character. -/
theorem kept_iff (bytes : List UInt8) :
    (utf16.run [] bytes).2.length = bytes.length ↔ bytes.length < 2 ∨ Utf16.HalfStart bytes := by
  rcases bytes with _ | ⟨lo, _ | ⟨hi, rest⟩⟩
  · simp [run_nil]
  · simp [run_cons, run_nil, step, Utf16.step]
  · have htwo : (utf16.run [] (lo :: hi :: rest)).2 =
        (utf16.run (Utf16.start .littleEndian lo hi).2 rest).2 := by
      simp only [run_cons, step, Utf16.step]
    rw [htwo, Utf16.HalfStart, ← Utf16.isHigh_unit lo hi, Utf16.start_pending]
    simp only [List.length_cons]
    by_cases hhigh : Utf16.isHigh (Utf16.unit .littleEndian lo hi)
    · simp only [hhigh, if_true, and_true]
      rcases rest with _ | ⟨a, _ | ⟨b, rest⟩⟩
      · simp [run_nil]
      · simp [run_cons, run_nil, step, Utf16.step]
      · -- Two more bytes complete a character, or show that the first two are none.
        have hfour : (utf16.step [lo, hi, a] b).2.length ≤ 2 := by
          simp only [step, Utf16.step]
          split
          · simp
          · exact Utf16.length_start _ a b
        have hrest := utf16.length_run (utf16.step [lo, hi, a] b).2 rest
        have hthree : (utf16.step [lo, hi] a).2 = [lo, hi, a] := rfl
        simp only [run_cons, hthree, List.length_cons]
        omega
    · have hrest := utf16.length_run [] rest
      simp only [List.length_nil] at hrest
      simp only [hhigh, Bool.false_eq_true, if_false, and_false, or_false]
      omega

end Encoding

namespace Decoder

/-- The stream tells its byte order. -/
def Marked (bytes : List UInt8) : Prop := ∃ rest, bytes = 0xFF :: 0xFE :: rest ∨ bytes = 0xFE :: 0xFF :: rest

theorem findMark_of_not_marked {bytes : List UInt8} (h : ¬ Marked bytes) : findMark bytes =
    if bytes.length < 2 ∨ Encoding.Utf16.HalfStart bytes then some ([], awaitingMark bytes) else none := by
  unfold findMark
  split
  · next rest => exact absurd ⟨rest, .inl rfl⟩ h
  · next rest => exact absurd ⟨rest, .inr rfl⟩ h
  · by_cases hkept : bytes.length < 2 ∨ Encoding.Utf16.HalfStart bytes
    · rw [if_pos hkept, if_pos (beq_iff_eq.2 ((Encoding.kept_iff bytes).2 hkept))]
    · rw [if_neg hkept, if_neg (mt (fun heq => (Encoding.kept_iff bytes).1 (beq_iff_eq.1 heq)) hkept)]

/-- A piece is its parts, one after the other. -/
theorem feed_append (d : Decoder) (bytes more : List UInt8) :
    d.feed (bytes ++ more) = (d.feed bytes).bind fun (text, d) =>
      (d.feed more).map fun (rest, d) => (text ++ rest, d) := by
  cases d with
  | reading e pending => simp [feed, e.run_append]
  | awaitingMark pending =>
    simp only [feed, ← List.append_assoc]
    generalize pending ++ bytes = stream
    by_cases hmarked : Marked stream
    · obtain ⟨rest, rfl | rfl⟩ := hmarked <;> simp [findMark, afterMark, Encoding.run_append]
    by_cases hkept : stream.length < 2 ∨ Encoding.Utf16.HalfStart stream
    · rw [findMark_of_not_marked hmarked, if_pos hkept]
      simp
    · -- What was refused is refused with more behind it.
      obtain ⟨lo, hi, rest, rfl⟩ : ∃ lo hi rest, stream = lo :: hi :: rest := by
        rcases stream with _ | ⟨lo, _ | ⟨hi, rest⟩⟩
        · simp at hkept
        · simp at hkept
        · exact ⟨lo, hi, rest, rfl⟩
      have hmore : ¬ Marked (lo :: hi :: (rest ++ more)) := by
        rintro ⟨rest', heq | heq⟩
        · exact hmarked ⟨rest, .inl (by simp_all)⟩
        · exact hmarked ⟨rest, .inr (by simp_all)⟩
      have hlonger : ¬ ((lo :: hi :: (rest ++ more)).length < 2 ∨
          Encoding.Utf16.HalfStart (lo :: hi :: (rest ++ more))) := by
        simp only [Encoding.Utf16.HalfStart, List.length_cons, List.length_append] at hkept ⊢
        omega
      rw [List.cons_append, List.cons_append, findMark_of_not_marked hmarked, findMark_of_not_marked hmore,
        if_neg hkept, if_neg hlonger]
      rfl

theorem feed_nil (e : Encoding) : (ofEncoding e).feed [] = some ([], ofEncoding e) := by cases e <;> rfl

/-- The bytes that a decoder keeps. -/
def pending : Decoder → List UInt8
  | reading _ pending | awaitingMark pending => pending

/-- A decoder that can be finished escapes what it keeps. -/
theorem finish_of_isSome {d : Decoder} (h : d.finish.isSome) : d.finish = some (Encoding.escapes d.pending) := by
  cases d with
  | reading e pending => rfl
  | awaitingMark pending =>
    simp only [finish] at h ⊢
    split
    · rfl
    · next hlong => simp [hlong] at h

/-- A decoder cannot be finished if the stream could still tell neither its byte order nor a character. -/
theorem finish_eq_none_iff {e : Encoding} {bytes : List UInt8} {text : List Char} {d : Decoder}
    (h : (ofEncoding e).feed bytes = some (text, d)) :
    d.finish = none ↔ e = .utf16 ∧ Encoding.Utf16.HalfStart bytes := by
  cases e with
  | utf16 =>
    simp only [ofEncoding, feed, List.nil_append] at h
    by_cases hmarked : Marked bytes
    · obtain ⟨rest, rfl | rfl⟩ := hmarked
      · obtain ⟨rfl, rfl⟩ : _ ∧ _ := by simpa [findMark, afterMark] using h
        simp [finish, Encoding.Utf16.HalfStart]
      · obtain ⟨rfl, rfl⟩ : _ ∧ _ := by simpa [findMark, afterMark] using h
        simp [finish, Encoding.Utf16.HalfStart]
    · rw [findMark_of_not_marked hmarked] at h
      split at h
      · next hkept =>
        obtain ⟨rfl, rfl⟩ : text = [] ∧ d = awaitingMark bytes := by simpa [eq_comm] using h
        rcases hkept with hshort | hhalf
        · have hnot : ¬ Encoding.Utf16.HalfStart bytes := fun hhalf => Nat.not_lt.2 hhalf.two_le hshort
          simp [finish, hshort, hnot]
        · simp [finish, Nat.not_lt.2 hhalf.two_le, hhalf]
      · simp at h
  | _ =>
    obtain ⟨-, rfl⟩ : _ ∧ _ := by simpa [ofEncoding, feed] using h
    simp [finish]

end Decoder

/-! ## What comes in -/

namespace Intake

variable {e : Encoding} {chunks : List Chunk}

/-- What a decoder has accepted could as well have come in one piece. -/
theorem feed_bytes : (Decoder.ofEncoding e).feed (ofChunks e chunks).bytes =
    some ((ofChunks e chunks).text, (ofChunks e chunks).decoder) := by
  refine List.foldlRecOn
    (motive := fun i : Intake => (Decoder.ofEncoding e).feed i.bytes = some (i.text, i.decoder))
    chunks take (Decoder.feed_nil e) fun i hi chunk _ => ?_
  unfold take
  split
  · exact hi
  · split
    · exact hi
    · next b bs =>
      split
      · next text decoder hf =>
        rw [Decoder.feed_append, hi]
        simp [hf]
      · exact hi
    · exact hi

/-- The decoder cannot be finished if the stream could still tell neither its byte order nor a
character. -/
theorem finish_eq_none_iff : (ofChunks e chunks).decoder.finish = none ↔
    e = .utf16 ∧ Encoding.Utf16.HalfStart (ofChunks e chunks).bytes :=
  Decoder.finish_eq_none_iff feed_bytes

end Intake

end Dialogue
