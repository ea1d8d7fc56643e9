import Dialogue.Proofs.Characters
/-!
# What a text becomes

A text is encoded character by character: in two pieces it becomes the bytes of the pieces, but that one encoding
puts a mark in front of each of them (`Encoding.encode_append_iff`). What the others make of a text is that text and
nothing else (`Encoding.run_encode`).
-/

namespace Dialogue.Encoding

/-- What stands in front of the bytes of every text. -/
def opening : Encoding → List UInt8
  | utf16 => Utf16.mark
  | _ => []

theorem opening_plain {e : Encoding} (he : e ≠ utf16) : e.opening = [] := by
  cases e with
  | utf16 => exact absurd rfl he
  | _ => rfl

theorem SingleByte.encodeText_eq_ok (code : SingleByte) {text : List Char} {bytes : List UInt8} :
    code.encodeText text = .ok bytes ↔ text.all (code.encode · |>.isSome) ∧ text.filterMap code.encode = bytes := by
  simp only [encodeText]
  split
  · next hall => simp [hall]
  · next hsome => simp [hsome]

variable {e : Encoding} {text more : List Char} {bytes : List UInt8}

/-- A text can be encoded if its pieces can, and becomes what they become, with one mark in front. -/
theorem encode_append_iff : e.encode (text ++ more) = .ok bytes ↔
    ∃ front back, e.encode text = .ok front ∧ e.encode more = .ok (e.opening ++ back) ∧ bytes = front ++ back := by
  have hsingle (code : SingleByte) : code.encodeText (text ++ more) = .ok bytes ↔
      ∃ front back, code.encodeText text = .ok front ∧ code.encodeText more = .ok ([] ++ back) ∧
        bytes = front ++ back := by
    simp only [SingleByte.encodeText_eq_ok, List.all_append, List.filterMap_append, Bool.and_eq_true, List.nil_append]
    constructor
    · rintro ⟨⟨htext, hmore⟩, rfl⟩
      exact ⟨_, _, ⟨htext, rfl⟩, ⟨hmore, rfl⟩, rfl⟩
    · rintro ⟨_, _, ⟨htext, rfl⟩, ⟨hmore, rfl⟩, rfl⟩
      exact ⟨⟨htext, hmore⟩, rfl⟩
  -- Only a table can lack a character; the others encode every text, and only one of them opens with a mark.
  cases e with
  | ascii => exact hsingle .ascii
  | latin1 => exact hsingle .latin1
  | western => exact hsingle .western
  | utf8 => simp [encode, opening, eq_comm]
  | utf16 => simp [encode, opening, eq_comm]
  | utf16Fixed order => simp [encode, opening, eq_comm]

theorem encode_nil (e : Encoding) : e.encode [] = .ok e.opening := by
  cases e <;> rfl

theorem encode_opening (h : e.encode text = .ok bytes) : ∃ back, bytes = e.opening ++ back := by
  obtain ⟨front, back, hnil, -, rfl⟩ := encode_append_iff.1 (show e.encode ([] ++ text) = .ok bytes from h)
  rw [encode_nil] at hnil
  exact ⟨back, by rw [Except.ok.inj hnil]⟩

/-- Bytes that a text becomes are that text, and nothing is kept for later. -/
theorem decodes_encode (he : e ≠ utf16) (h : e.encode text = .ok bytes) : e.Decodes bytes text [] := by
  induction text generalizing bytes with
  | nil =>
    rw [encode_nil, opening_plain he] at h
    obtain rfl := Except.ok.inj h
    exact (legible he).decodes_iff.2 rfl
  | cons c text ih =>
    obtain ⟨front, back, hc, htext, rfl⟩ := encode_append_iff.1 (show e.encode ([c] ++ text) = .ok bytes from h)
    rw [opening_plain he] at htext
    exact .char hc (ih htext)

/-- The decoder reads back what was encoded. -/
theorem run_encode (he : e ≠ utf16) (h : e.encode text = .ok bytes) : e.run [] bytes = (text, []) :=
  (legible he).decodes_iff.1 (decodes_encode he h)

end Dialogue.Encoding
