import Dialogue.Proofs.Tape
/-!
# What a decoder makes of a stream

An `Intake` is computed from the chunks of a stream alone: the text that a decoder returns for them, up
to where the stream is over for it. `Stage.intake` is that of what is on tape.
-/

namespace Dialogue

structure Intake where
  decoder : Decoder
  /-- The bytes that the decoder accepted. -/
  bytes : List UInt8 := []
  /-- What it returned for them. -/
  text : List Char := []
  /-- The stream is over. -/
  ended : Bool := false
  /-- What the decoder returned at the end of the stream, for what it still kept. -/
  tail : List Char := []

namespace Intake

/-- The stream is over; a decoder that cannot be finished returns nothing. -/
def finish (i : Intake) : Intake := { i with ended := true, tail := i.decoder.finish.getD [] }

def take (i : Intake) (chunk : Chunk) : Intake :=
  if i.ended then i
  else
    match chunk with
    | .blocked => i
    | .bytes (b :: bs) =>
      match i.decoder.feed (b :: bs) with
      | some (text, decoder) => { i with bytes := i.bytes ++ b :: bs, text := i.text ++ text, decoder }
      | none => i.finish
    | _ => i.finish

def ofChunks (e : Encoding) (chunks : List Chunk) : Intake := chunks.foldl take { decoder := .ofEncoding e }

/-- Everything that the decoder returned. -/
def received (i : Intake) : List Char := i.text ++ i.tail

theorem take_blocked (i : Intake) : i.take .blocked = i := by simp [take]

theorem take_bytes {i : Intake} (hopen : i.ended = false) {bytes : List UInt8} (hne : bytes ≠ [])
    {text : List Char} {decoder : Decoder} (hf : i.decoder.feed bytes = some (text, decoder)) :
    i.take (.bytes bytes) = { i with bytes := i.bytes ++ bytes, text := i.text ++ text, decoder } := by
  obtain ⟨b, bs, rfl⟩ := List.exists_cons_of_ne_nil hne
  simp only [take, hopen, hf]
  rfl

theorem take_stops {i : Intake} (hopen : i.ended = false) {chunk : Chunk} (hs : chunk.stops i.decoder) :
    i.take chunk = i.finish := by
  rcases chunk with (_ | ⟨b, bs⟩) | s | _ | e | _
  case bytes.cons =>
    have hf : i.decoder.feed (b :: bs) = none := by simpa [Chunk.stops, Chunk.goesOn] using hs
    simp [take, hopen, hf]
  case blocked => simp [Chunk.stops] at hs
  all_goals simp [take, hopen]

/-- There is a tail only once the stream is over: what the decoder made of its end. -/
theorem tail_eq (e : Encoding) (chunks : List Chunk) : (ofChunks e chunks).tail =
    if (ofChunks e chunks).ended then (ofChunks e chunks).decoder.finish.getD [] else [] := by
  refine List.foldlRecOn
    (motive := fun i : Intake => i.tail = if i.ended then i.decoder.finish.getD [] else []) chunks take rfl
    fun i hi chunk _ => ?_
  by_cases hended : i.ended
  · simp only [take, if_pos hended] at hi ⊢
    exact hi
  · rw [if_neg hended] at hi
    simp only [take, if_neg hended]
    split
    · exact hi.trans (if_neg hended).symm
    · split
      · exact hi.trans (if_neg hended).symm
      · rfl
    · rfl

end Intake

variable {T σ M : Type}

/-- What the decoder of a session has made of what is on tape. -/
def Stage.intake (st : Stage T (Taped σ M)) : Intake :=
  .ofChunks st.session.conduct.encoding st.process.chunks

theorem Stage.intake_readChunk {S : Setting σ M} {st : Stage T (Taped σ M)}
    (h : st.session.link = S.taped.link) : st.readChunk.2.intake = st.intake.take st.readChunk.1 := by
  simp only [intake, readChunk, act, Desk.act, h, Intake.ofChunks]
  exact List.foldl_append

/-- Nothing but the reader adds to what is on tape of reading and closing, and waits that have ended stay there. -/
theorem Setting.Touch.tape {S : Setting σ M} {w w' : Taped σ M} (h : S.taped.Touch w w') :
    w'.chunks = w.chunks ∧ w'.closings = w.closings ∧ w.endings <+: w'.endings := by
  cases h with
  | none => exact ⟨rfl, rfl, List.prefix_rfl⟩
  | write => exact ⟨rfl, rfl, List.prefix_rfl⟩
  | flush => exact ⟨rfl, rfl, List.prefix_rfl⟩
  | hangUp =>
    simp only [Setting.taped, Link.hangUp, Link.taped, Part.onLink]
    cases S.link.hook <;> exact ⟨rfl, rfl, List.prefix_rfl⟩
  | begin hw =>
    obtain ⟨wait, -, rfl⟩ := Option.map_eq_some_iff.1 hw
    exact ⟨rfl, rfl, List.prefix_rfl⟩
  | poll hw =>
    obtain ⟨wait, -, rfl⟩ := Option.map_eq_some_iff.1 hw
    exact ⟨rfl, rfl, List.prefix_append _ _⟩
  | @outside m f hm =>
    simp only [Setting.taped] at hm
    cases hm' : S.moves m with
    | session cue => simp [hm', Move.taped] at hm
    | outside g =>
      rw [hm', Move.taped, Move.outside.injEq] at hm
      subst hm
      exact ⟨rfl, rfl, List.prefix_rfl⟩

end Dialogue
