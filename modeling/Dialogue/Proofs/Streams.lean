import Dialogue.Proofs.Characters
/-!
# What a stream says

`Encoding.Reads` says what text a stream is, mark included. A decoder of a stream that can tell its byte order
accepts every piece of it (`Intake.feed_more`), and what it has returned is that text (`Intake.reads_iff`).
-/

namespace Dialogue

namespace Encoding

/-- The mark that tells a byte order. -/
def ByteOrder.mark : ByteOrder → List UInt8
  | littleEndian => [0xFF, 0xFE]
  | bigEndian => [0xFE, 0xFF]

theorem ByteOrder.mark_append_inj {order order' : ByteOrder} {bytes bytes' : List UInt8}
    (h : order.mark ++ bytes = order'.mark ++ bytes') : order = order' ∧ bytes = bytes' := by
  cases order <;> cases order' <;> simp_all [mark]

/-- What a stream is, as far as it goes: a text, and the bytes that are kept for later. -/
inductive Reads : Encoding → List UInt8 → List Char → List UInt8 → Prop
  | plain {e : Encoding} {stream rest : List UInt8} {text : List Char} (he : e ≠ utf16)
      (h : e.Decodes stream text rest) : Reads e stream text rest
  | marked {order : ByteOrder} {stream rest : List UInt8} {text : List Char}
      (h : (utf16Fixed order).Decodes stream text rest) : Reads utf16 (order.mark ++ stream) text rest
  /-- There is no telling the byte order yet. -/
  | short {stream : List UInt8} (h : stream.length < 2) : Reads utf16 stream [] stream

/-- A stream that is to tell its byte order tells it first of all. -/
def Readable (e : Encoding) (stream : List UInt8) : Prop :=
  e = utf16 → Decoder.Marked stream ∨ stream.length < 2

theorem Readable.of_append {e : Encoding} {stream more : List UInt8} (h : e.Readable (stream ++ more)) :
    e.Readable stream := by
  intro he
  rcases stream with _ | ⟨a, _ | ⟨b, rest⟩⟩
  · exact .inr (by simp)
  · exact .inr (by simp)
  · rcases h he with ⟨rest', hrest⟩ | hshort
    · refine .inl ⟨rest, ?_⟩
      simp only [List.cons_append, List.cons.injEq] at hrest ⊢
      exact hrest.imp (fun h => ⟨h.1, h.2.1, trivial⟩) fun h => ⟨h.1, h.2.1, trivial⟩
    · simp only [List.cons_append, List.length_cons] at hshort
      omega

end Encoding

namespace Decoder

theorem marked_iff {stream : List UInt8} :
    Marked stream ↔ ∃ order : Encoding.ByteOrder, ∃ rest, stream = order.mark ++ rest := by
  constructor
  · rintro ⟨rest, rfl | rfl⟩
    · exact ⟨.littleEndian, rest, rfl⟩
    · exact ⟨.bigEndian, rest, rfl⟩
  · rintro ⟨order, rest, rfl⟩
    cases order
    · exact ⟨rest, .inl rfl⟩
    · exact ⟨rest, .inr rfl⟩

theorem feed_marked (order : Encoding.ByteOrder) (bytes : List UInt8) :
    (ofEncoding .utf16).feed (order.mark ++ bytes) = some (afterMark order bytes) := by
  cases order <;> rfl

theorem feed_short {stream : List UInt8} (hmarked : ¬ Marked stream) (h : stream.length < 2) :
    (ofEncoding .utf16).feed stream = some ([], .awaitingMark stream) := by
  rw [ofEncoding, feed, List.nil_append, findMark_of_not_marked hmarked, if_pos (.inl h)]

theorem feed_plain {e : Encoding} (he : e ≠ .utf16) (bytes : List UInt8) :
    (ofEncoding e).feed bytes = some ((e.run [] bytes).1, .reading e (e.run [] bytes).2) := by
  cases e with
  | utf16 => exact absurd rfl he
  | _ => rfl

end Decoder

namespace Encoding

variable {e : Encoding} {stream rest : List UInt8} {text : List Char}

theorem reads_plain (he : e ≠ utf16) : e.Reads stream text rest ↔ e.run [] stream = (text, rest) := by
  rw [← (legible he).decodes_iff]
  refine ⟨fun h => ?_, .plain he⟩
  cases h with
  | plain _ h => exact h
  | _ => exact absurd rfl he

theorem reads_marked {order : ByteOrder} : utf16.Reads (order.mark ++ stream) text rest ↔
    (utf16Fixed order).run [] stream = (text, rest) := by
  rw [← (legible (by simp)).decodes_iff]
  refine ⟨fun h => ?_, .marked⟩
  -- The cases need a variable for the stream: a mark and what follows it is none.
  generalize hs : order.mark ++ stream = bytes at h
  cases h with
  | plain he _ => exact absurd rfl he
  | marked h =>
    obtain ⟨rfl, rfl⟩ := ByteOrder.mark_append_inj hs
    exact h
  | short h =>
    have hmark : order.mark.length = 2 := by cases order <;> rfl
    rw [← hs, List.length_append, hmark] at h
    omega

theorem reads_short (hmarked : ¬ Decoder.Marked stream) (hshort : stream.length < 2) :
    utf16.Reads stream text rest ↔ text = [] ∧ rest = stream := by
  constructor
  · intro h
    cases h with
    | plain he _ => exact absurd rfl he
    | marked => exact absurd (Decoder.marked_iff.2 ⟨_, _, rfl⟩) hmarked
    | short => exact ⟨rfl, rfl⟩
  · rintro ⟨rfl, rfl⟩
    exact .short hshort

/-- What a decoder returns for a stream is its text. -/
theorem reads_iff (h : e.Readable stream) {got : List Char} {d : Decoder}
    (hfeed : (Decoder.ofEncoding e).feed stream = some (got, d)) :
    e.Reads stream text rest ↔ got = text ∧ d.pending = rest := by
  by_cases he : e = utf16
  · subst he
    by_cases hmarked : Decoder.Marked stream
    · obtain ⟨order, bytes, rfl⟩ := Decoder.marked_iff.1 hmarked
      rw [Decoder.feed_marked] at hfeed
      obtain ⟨rfl, rfl⟩ := Prod.mk.inj (Option.some.inj hfeed)
      rw [reads_marked, Prod.ext_iff]
      rfl
    · have hshort := (h rfl).resolve_left hmarked
      rw [Decoder.feed_short hmarked hshort] at hfeed
      obtain ⟨rfl, rfl⟩ := Prod.mk.inj (Option.some.inj hfeed)
      rw [reads_short hmarked hshort, eq_comm, @eq_comm _ rest]
      rfl
  · rw [Decoder.feed_plain he] at hfeed
    obtain ⟨rfl, rfl⟩ := Prod.mk.inj (Option.some.inj hfeed)
    rw [reads_plain he, Prod.ext_iff]
    rfl

/-- The decoder of a stream that tells its byte order accepts it. -/
theorem Readable.feed (h : e.Readable stream) : ∃ text d, (Decoder.ofEncoding e).feed stream = some (text, d) := by
  by_cases he : e = utf16
  · subst he
    by_cases hmarked : Decoder.Marked stream
    · obtain ⟨order, bytes, rfl⟩ := Decoder.marked_iff.1 hmarked
      exact ⟨_, _, Decoder.feed_marked order bytes⟩
    · exact ⟨_, _, Decoder.feed_short hmarked ((h rfl).resolve_left hmarked)⟩
  · exact ⟨_, _, Decoder.feed_plain he stream⟩

/-- A stream that tells its byte order is more than half a character. -/
theorem Readable.not_halfStart (h : e.Readable stream) : ¬ (e = utf16 ∧ Utf16.HalfStart stream) := by
  rintro ⟨he, hhalf⟩
  rcases h he with ⟨rest, rfl | rfl⟩ | hshort
  · exact absurd hhalf.2 (by decide)
  · exact absurd hhalf.2 (by decide)
  · exact Nat.not_lt.2 hhalf.two_le hshort

end Encoding

namespace Intake

variable {e : Encoding} {chunks : List Chunk}

/-- The decoder of a stream accepts what comes next in it. -/
theorem feed_more {more : List UInt8} (h : e.Readable ((ofChunks e chunks).bytes ++ more)) :
    ∃ text d, (ofChunks e chunks).decoder.feed more = some (text, d) := by
  obtain ⟨text, d, hfeed⟩ := h.feed
  rw [Decoder.feed_append, feed_bytes] at hfeed
  obtain ⟨⟨text, d⟩, hmore, -⟩ := Option.map_eq_some_iff.1 hfeed
  exact ⟨text, d, hmore⟩

theorem reads_iff {text : List Char} {rest : List UInt8} (h : e.Readable (ofChunks e chunks).bytes) :
    e.Reads (ofChunks e chunks).bytes text rest ↔
      (ofChunks e chunks).text = text ∧ (ofChunks e chunks).decoder.pending = rest :=
  Encoding.reads_iff h feed_bytes

end Intake

end Dialogue
