import Dialogue.Proofs.Decoded
/-!
# Characters as bytes

Decoding undoes encoding, character by character: for the codes of one byte, for UTF-16 in a fixed order,
and for UTF-8. What a decoder keeps is the beginning of a character, or of a surrogate, and what it escapes is of
none, so that each of these encodings is `Encoding.Legible`.
-/

namespace Dialogue.Encoding

theorem toNat_ofNat {n : Nat} (h : n.isValidChar) : (Char.ofNat n).toNat = n := by
  rw [Char.ofNat, dif_pos h]
  rfl

/-! ## One byte a character -/

namespace SingleByte

theorem directByte_toNat {bound : Nat} (hbound : bound ≤ 256) {b : UInt8} {c : Char}
    (h : directByte bound c = some b) : b.toNat = c.toNat ∧ c.toNat < bound := by
  unfold directByte at h
  split at h
  · next hlt =>
    obtain rfl := Option.some.inj h
    exact ⟨UInt8.toNat_ofNat_of_lt' (by simp [UInt8.size]; omega), hlt⟩
  · simp at h

theorem direct_invertible {bound : Nat} (hbound : bound ≤ 256) (b : UInt8) (c : Char) :
    direct bound b = some c ↔ directByte bound c = some b := by
  constructor
  · intro h
    unfold direct at h
    split at h
    · next hlt =>
      obtain rfl := Option.some.inj h
      have hn : (Char.ofNat b.toNat).toNat = b.toNat := toNat_ofNat (.inl (by omega))
      rw [directByte, hn, if_pos hlt, UInt8.ofNat_toNat]
    · simp at h
  · intro h
    obtain ⟨hb, hlt⟩ := directByte_toNat hbound h
    rw [direct, hb, if_pos hlt, Char.ofNat_toNat]

theorem western_decode {b : UInt8} {c : Char} (h : western.decode b = some c) : western.encode c = some b := by
  have hall : ∀ n : Fin 256, (western.decode (UInt8.ofNat n)).all fun c =>
      western.encode c == some (UInt8.ofNat n) := by decide +kernel
  have hb := hall ⟨b.toNat, b.toNat_lt⟩
  simp only [UInt8.ofNat_toNat, h, Option.all_some, beq_iff_eq] at hb
  exact hb

theorem western_invertible (b : UInt8) (c : Char) : western.decode b = some c ↔ western.encode c = some b := by
  refine ⟨western_decode, fun h => ?_⟩
  simp only [western] at h ⊢
  split at h
  · next hdirect =>
    obtain ⟨hb, -⟩ := directByte_toNat (Nat.le_refl 256) h
    rw [hb, if_neg (by simp_all)]
    exact (direct_invertible (Nat.le_refl 256) b c).2 h
  · obtain ⟨i, hi, rfl⟩ := Option.map_eq_some_iff.1 h
    obtain ⟨hlt, hc, -⟩ := List.findIdx?_eq_some_iff_getElem.1 hi
    have hlt' : i < 32 := hlt
    have hb : (UInt8.ofNat (0x80 + i)).toNat = 0x80 + i := UInt8.toNat_ofNat_of_lt' (by simp [UInt8.size]; omega)
    rw [hb, if_pos (by simp [isWesternUpper]; omega), Nat.add_sub_cancel_left, List.getElem?_eq_getElem hlt]
    simpa using hc

theorem encodeText_iff (code : SingleByte) {c : Char} {bytes : List UInt8} :
    code.encodeText [c] = .ok bytes ↔ ∃ b, code.encode c = some b ∧ bytes = [b] := by
  cases h : code.encode c with
  | none => simp [encodeText, h]
  | some b => simp [encodeText, h, eq_comm]

/-- A code of one byte keeps nothing. -/
theorem legible {e : Encoding} {code : SingleByte} (hcode : ∀ b c, code.decode b = some c ↔ code.encode c = some b)
    (hencode : ∀ c, e.encode [c] = code.encodeText [c]) (hstep : ∀ pending b, e.step pending b = code.step b)
    (hwidth : e.width = 1) (hplain : e ≠ utf8) {c₀ : Char} {b₀ : UInt8} (hsome : code.encode c₀ = some b₀) :
    e.Legible := by
  have hspells {c : Char} {bytes : List UInt8} : e.Spells c bytes ↔ ∃ b, code.encode c = some b ∧ bytes = [b] := by
    rw [Spells, hencode, encodeText_iff]
  have hbegun : e.Begun [] := .inl ⟨c₀, [b₀], hspells.2 ⟨b₀, hsome, rfl⟩, List.nil_prefix, by simp⟩
  refine ⟨⟨?_, ?_, fun _ h => (not_withheld hplain h).elim⟩, ⟨[], [], rfl, hbegun, Nat.dvd_zero _, by simp [hwidth]⟩, ?_⟩
  · intro c bytes hc
    obtain ⟨b, -, rfl⟩ := hspells.1 hc
    simp [hwidth]
  · intro c c' bytes bytes' hc hc' hfront
    obtain ⟨b, hb, rfl⟩ := hspells.1 hc
    obtain ⟨b', hb', rfl⟩ := hspells.1 hc'
    obtain rfl : b = b' := by simpa using hfront
    refine ⟨Option.some.inj ?_, rfl⟩
    rw [← (hcode b c).2 hb, (hcode b c').2 hb']
  · rintro pending b ⟨begun, part, rfl, hkept, -, hpart⟩
    -- Nothing but a whole byte begins a character, so nothing is pending.
    obtain ⟨c, whole, hc, hwhole, hne⟩ := hkept.resolve_right (not_withheld hplain)
    obtain ⟨b', -, rfl⟩ := hspells.1 hc
    have hbegun' : begun = [] := by
      rcases begun with _ | ⟨x, xs⟩
      · rfl
      · obtain ⟨rfl, hxs⟩ := List.cons_prefix_cons.1 hwhole
        exact absurd (congrArg _ (List.prefix_nil.1 hxs)) hne
    have hpart' : part = [] := List.eq_nil_of_length_eq_zero (by omega)
    subst hbegun' hpart'
    refine .taken ?_
    rw [hstep, step]
    cases hdecode : code.decode b with
    | some c => exact .char (hspells.2 ⟨b, (hcode b c).1 hdecode, rfl⟩)
    | none =>
      refine .bad ⟨.inl rfl, Nat.dvd_zero _, by simp [hwidth], ?_⟩
      intro h
      obtain ⟨c, whole, hc, hfront⟩ := h.resolve_right (not_withheld hplain)
      obtain ⟨b', hb', rfl⟩ := hspells.1 hc
      obtain rfl : b = b' := by simpa using hfront
      rw [(hcode b c).2 hb'] at hdecode
      cases hdecode

end SingleByte

theorem ascii_legible : ascii.Legible :=
  SingleByte.legible (SingleByte.direct_invertible (by decide)) (fun _ => rfl) (fun _ _ => rfl) rfl nofun
    (show SingleByte.ascii.encode 'a' = some 0x61 by decide)

theorem latin1_legible : latin1.Legible :=
  SingleByte.legible (SingleByte.direct_invertible (by decide)) (fun _ => rfl) (fun _ _ => rfl) rfl nofun
    (show SingleByte.latin1.encode 'a' = some 0x61 by decide)

theorem western_legible : western.Legible :=
  SingleByte.legible SingleByte.western_invertible (fun _ => rfl) (fun _ _ => rfl) rfl nofun
    (show SingleByte.western.encode 'a' = some 0x61 by decide)

/-! ## UTF-16 -/

namespace Utf16

variable {order : ByteOrder} {a b h l : UInt8}

theorem unit_lt (order : ByteOrder) (a b : UInt8) : unit order a b < 0x10000 := by
  have ha := a.toNat_lt
  have hb := b.toNat_lt
  cases order <;> simp only [unit] <;> omega

theorem unitBytes_unit (order : ByteOrder) (a b : UInt8) : unitBytes order (unit order a b) = [a, b] := by
  have ha := a.toNat_lt
  have hb := b.toNat_lt
  have hmod (m n : Nat) (hm : m < 256) : (m + 256 * n) % 256 = m ∧ (m + 256 * n) / 256 = n := by omega
  cases order with
  | littleEndian => simp only [unitBytes, unit, hmod _ _ ha, UInt8.ofNat_toNat]
  | bigEndian => simp only [unitBytes, unit, Nat.add_comm (256 * _), hmod _ _ hb, UInt8.ofNat_toNat]

/-- Every unit is two bytes. -/
theorem exists_unit (order : ByteOrder) {u : Nat} (hu : u < 0x10000) :
    ∃ a b, unitBytes order u = [a, b] ∧ unit order a b = u := by
  have hlow : (UInt8.ofNat (u % 256)).toNat = u % 256 := UInt8.toNat_ofNat_of_lt' (by simp [UInt8.size]; omega)
  have hhigh : (UInt8.ofNat (u / 256)).toNat = u / 256 := UInt8.toNat_ofNat_of_lt' (by simp [UInt8.size]; omega)
  cases order with
  | littleEndian => exact ⟨_, _, rfl, by simp only [unit, hlow, hhigh]; omega⟩
  | bigEndian => exact ⟨_, _, rfl, by simp only [unit, hlow, hhigh]; omega⟩

theorem isHigh_iff {u : Nat} : isHigh u = true ↔ 0xD800 ≤ u ∧ u < 0xDC00 := by simp [isHigh]

theorem isLow_iff {u : Nat} : isLow u = true ↔ 0xDC00 ≤ u ∧ u < 0xE000 := by simp [isLow]

theorem encodeChar_ofNat (hhigh : ¬ isHigh (unit order a b)) (hlow : ¬ isLow (unit order a b)) :
    encodeChar order (Char.ofNat (unit order a b)) = [a, b] := by
  have hlt := unit_lt order a b
  rw [isHigh_iff] at hhigh
  rw [isLow_iff] at hlow
  have hn : (Char.ofNat (unit order a b)).toNat = unit order a b := by
    refine toNat_ofNat ?_
    show _ ∨ _
    omega
  simp only [encodeChar, units, hn, if_pos hlt, List.flatMap_cons, unitBytes_unit, List.flatMap_nil, List.append_nil]

theorem encodeChar_join (hhigh : isHigh (unit order h l)) (hlow : isLow (unit order a b)) :
    encodeChar order (join (unit order h l) (unit order a b)) = [h, l, a, b] := by
  have hu := isHigh_iff.1 hhigh
  have hv := isLow_iff.1 hlow
  have hbytes := unitBytes_unit order h l
  have hbytes' := unitBytes_unit order a b
  generalize unit order h l = u at hu hbytes ⊢
  generalize unit order a b = v at hv hbytes' ⊢
  have hn : (join u v).toNat = 0x10000 + (u - 0xD800) * 1024 + (v - 0xDC00) := by
    refine toNat_ofNat ?_
    show _ ∨ _
    omega
  have hfirst : 0xD800 + (0x10000 + (u - 0xD800) * 1024 + (v - 0xDC00) - 0x10000) / 1024 = u := by omega
  have hsecond : 0xDC00 + (0x10000 + (u - 0xD800) * 1024 + (v - 0xDC00) - 0x10000) % 1024 = v := by omega
  simp only [encodeChar, units, hn]
  rw [if_neg (by omega), hfirst, hsecond]
  simp [hbytes, hbytes']

/-- A character is a unit of its own, or a high one and a low one. -/
theorem encodeChar_cases (order : ByteOrder) (c : Char) :
    (∃ a b, encodeChar order c = [a, b] ∧ ¬ isHigh (unit order a b) ∧ ¬ isLow (unit order a b) ∧
      c = Char.ofNat (unit order a b)) ∨
    ∃ h l a b, encodeChar order c = [h, l, a, b] ∧ isHigh (unit order h l) ∧ isLow (unit order a b) ∧
      c = join (unit order h l) (unit order a b) := by
  have hvalid : c.toNat < 0xD800 ∨ 0xDFFF < c.toNat ∧ c.toNat < 0x110000 := c.valid
  by_cases hlt : c.toNat < 0x10000
  · obtain ⟨a, b, hbytes, hunit⟩ := exists_unit order hlt
    refine .inl ⟨a, b, ?_, ?_, ?_, ?_⟩
    · simp [encodeChar, units, hlt, hbytes]
    · rw [hunit, isHigh_iff]
      omega
    · rw [hunit, isLow_iff]
      omega
    · rw [hunit, Char.ofNat_toNat]
  · obtain ⟨h, l, hbytes, hhigh⟩ := exists_unit order (u := 0xD800 + (c.toNat - 0x10000) / 1024) (by omega)
    obtain ⟨a, b, hbytes', hlow⟩ := exists_unit order (u := 0xDC00 + (c.toNat - 0x10000) % 1024) (by omega)
    refine .inr ⟨h, l, a, b, ?_, ?_, ?_, ?_⟩
    · simp [encodeChar, units, hlt, hbytes, hbytes']
    · rw [hhigh, isHigh_iff]
      omega
    · rw [hlow, isLow_iff]
      omega
    · rw [hhigh, hlow, join]
      have hn : 0x10000 + (0xD800 + (c.toNat - 0x10000) / 1024 - 0xD800) * 1024 +
          (0xDC00 + (c.toNat - 0x10000) % 1024 - 0xDC00) = c.toNat := by omega
      rw [hn, Char.ofNat_toNat]

theorem spells_iff {c : Char} {bytes : List UInt8} :
    (utf16Fixed order).Spells c bytes ↔ encodeChar order c = bytes := by
  simp [Spells, encode]

/-- What is begun, in whole units, is a high unit. -/
theorem begun_iff {begun : List UInt8} (hunits : 2 ∣ begun.length) :
    (utf16Fixed order).Begun begun ↔ begun = [] ∨ ∃ h l, begun = [h, l] ∧ isHigh (unit order h l) := by
  constructor
  · intro hbegun
    obtain ⟨c, whole, hc, hfront, hne⟩ := hbegun.resolve_right (not_withheld (by simp))
    rw [spells_iff] at hc
    subst hc
    -- A front of two or four bytes that is in whole units and not all of them is two of the four.
    rcases encodeChar_cases order c with ⟨a, b, hbytes, -, -, -⟩ | ⟨h, l, a, b, hbytes, hhigh, -, -⟩
    · rw [hbytes] at hfront hne
      have hlength := hfront.length_le
      rcases begun with _ | ⟨x, _ | ⟨y, _ | ⟨z, rest⟩⟩⟩
      · exact .inl rfl
      · simp at hunits
      · exact absurd (hfront.eq_of_length rfl) hne
      · simp only [List.length_cons, List.length_nil] at hlength
        omega
    · rw [hbytes] at hfront hne
      have hlength := hfront.length_le
      rcases begun with _ | ⟨x, _ | ⟨y, _ | ⟨z, _ | ⟨w, _ | ⟨v, rest⟩⟩⟩⟩⟩
      · exact .inl rfl
      · simp at hunits
      · obtain ⟨rfl, rfl⟩ : x = h ∧ y = l := by simpa using hfront
        exact .inr ⟨x, y, rfl, hhigh⟩
      · simp at hunits
      · exact absurd (hfront.eq_of_length rfl) hne
      · simp only [List.length_cons, List.length_nil] at hlength
        omega
  · rintro (rfl | ⟨h, l, rfl, hhigh⟩)
    · exact .inl ⟨'a', _, spells_iff.2 rfl, List.nil_prefix, by cases order <;> decide⟩
    · obtain ⟨a, b, -, hlow⟩ := exists_unit order (u := 0xDC00) (by decide)
      refine .inl ⟨_, _, spells_iff.2 (encodeChar_join (a := a) (b := b) hhigh ?_), ⟨[a, b], rfl⟩, by simp⟩
      rw [hlow]
      decide

/-- No character begins with a low unit. -/
theorem not_begins_low (hlow : isLow (unit order a b)) : ¬ (utf16Fixed order).Begins [a, b] := by
  intro hbegins
  obtain ⟨c, whole, hc, hfront⟩ := hbegins.resolve_right (not_withheld (by simp))
  rw [spells_iff] at hc
  subst hc
  rcases encodeChar_cases order c with ⟨a', b', hbytes, -, hnot, -⟩ | ⟨h, l, a', b', hbytes, hhigh, -, -⟩
  · rw [hbytes] at hfront
    obtain ⟨rfl, rfl⟩ : a = a' ∧ b = b' := by simpa using hfront
    exact hnot hlow
  · rw [hbytes] at hfront
    obtain ⟨rfl, rfl⟩ : a = h ∧ b = l := by simpa using hfront
    rw [isHigh_iff] at hhigh
    rw [isLow_iff] at hlow
    omega

/-- A unit goes on with a low one only. -/
theorem not_begins_pair (hlow : ¬ isLow (unit order a b)) :
    ¬ (utf16Fixed order).Begins [h, l, a, b] := by
  intro hbegins
  obtain ⟨c, whole, hc, hfront⟩ := hbegins.resolve_right (not_withheld (by simp))
  rw [spells_iff] at hc
  subst hc
  rcases encodeChar_cases order c with ⟨a', b', hbytes, -, -, -⟩ | ⟨h', l', a', b', hbytes, -, hlow', -⟩
  · rw [hbytes] at hfront
    simp at hfront
  · rw [hbytes] at hfront
    obtain ⟨-, -, rfl, rfl⟩ : h = h' ∧ l = l' ∧ a = a' ∧ b = b' := by simpa using hfront
    exact hlow hlow'

theorem prefixed : (utf16Fixed order).Prefixed where
  units {c bytes} hc := by
    rw [spells_iff] at hc
    rcases encodeChar_cases order c with ⟨a, b, hbytes, -⟩ | ⟨h, l, a, b, hbytes, -⟩ <;>
      (rw [← hc, hbytes]; exact ⟨by simp [width], by simp⟩)
  free {c c' bytes bytes'} hc hc' hfront := by
    rw [spells_iff] at hc hc'
    subst hc hc'
    rcases encodeChar_cases order c with ⟨a, b, hbytes, hnot, -, hc⟩ | ⟨h, l, a, b, hbytes, -, -, hc⟩ <;>
      rcases encodeChar_cases order c' with ⟨a', b', hbytes', -, -, hc'⟩ | ⟨h', l', a', b', hbytes', hhigh, -, hc'⟩ <;>
      rw [hbytes, hbytes'] at hfront ⊢
    · obtain ⟨rfl, rfl⟩ : a = a' ∧ b = b' := by simpa using hfront
      exact ⟨hc.trans hc'.symm, rfl⟩
    · obtain ⟨rfl, rfl⟩ : a = h' ∧ b = l' := by simpa using hfront
      exact absurd hhigh hnot
    · simp at hfront
    · obtain ⟨rfl, rfl, rfl, rfl⟩ : h = h' ∧ l = l' ∧ a = a' ∧ b = b' := by simpa using hfront
      exact ⟨hc.trans hc'.symm, rfl⟩
  withheld _ h := (not_withheld (by simp) h).elim

/-- What becomes of a unit that counts afresh. -/
theorem start_taken (order : ByteOrder) (a b : UInt8) : (utf16Fixed order).Taken [a, b] (start order a b) := by
  simp only [start]
  split
  · next hhigh =>
    exact .kept ⟨[a, b], [], rfl, (begun_iff (by simp)).2 (.inr ⟨a, b, rfl, hhigh⟩), by simp [width], by simp [width]⟩
  · next hhigh =>
    split
    · next hlow => exact .bad ⟨.inl rfl, Nat.dvd_zero _, rfl, not_begins_low hlow⟩
    · next hlow => exact .char (spells_iff.2 (encodeChar_ofNat hhigh hlow))

theorem legible (order : ByteOrder) : (utf16Fixed order).Legible := by
  have hnil : (utf16Fixed order).Begun [] := (begun_iff (by simp)).2 (.inl rfl)
  refine ⟨prefixed, ⟨[], [], rfl, hnil, Nat.dvd_zero _, by simp [width]⟩, ?_⟩
  rintro pending b ⟨begun, part, rfl, hbegun, hunits, hpart⟩
  simp only [width] at hunits hpart
  rcases (begun_iff hunits).1 hbegun with rfl | ⟨h, l, rfl, hhigh⟩
  · rcases part with _ | ⟨a, _ | ⟨_, _⟩⟩
    · exact .taken (.kept ⟨[], [b], rfl, hnil, Nat.dvd_zero _, by simp [width]⟩)
    · exact .taken (start_taken order a b)
    · simp only [List.length_cons] at hpart
      omega
  · rcases part with _ | ⟨a, _ | ⟨_, _⟩⟩
    · exact .taken (.kept ⟨[h, l], [b], rfl, hbegun, hunits, by simp [width]⟩)
    · show Stepped _ [h, l, a] b (step order [h, l, a] b)
      simp only [step]
      split
      · next hlow => exact .taken (.char (spells_iff.2 (encodeChar_join hhigh hlow)))
      · next hlow =>
        exact .broken (show [h, l, a] = [h, l] ++ [a] from rfl) ⟨.inr hbegun, hunits, rfl, not_begins_pair hlow⟩
          (by simp) (start_taken order a b)
    · simp only [List.length_cons] at hpart
      omega

end Utf16

/-! ## UTF-8 -/

namespace Utf8

variable {lead b : UInt8} {tails more : List UInt8}

theorem lengthFrom_cases (lead : UInt8) :
    lengthFrom lead = 1 ∧ lead.toNat < 0x80 ∨
    lengthFrom lead = 2 ∧ 0xC2 ≤ lead.toNat ∧ lead.toNat < 0xE0 ∨
    lengthFrom lead = 3 ∧ 0xE0 ≤ lead.toNat ∧ lead.toNat < 0xF0 ∨
    lengthFrom lead = 4 ∧ 0xF0 ≤ lead.toNat ∧ lead.toNat < 0xF5 ∨
    lengthFrom lead = 0 ∧ (0x80 ≤ lead.toNat ∧ lead.toNat < 0xC2 ∨ 0xF5 ≤ lead.toNat) := by
  simp only [lengthFrom, UInt8.lt_iff_toNat_lt, UInt8.reduceToNat]
  repeat' split
  all_goals omega

theorem beq_toNat (b n : UInt8) : (b == n) = decide (b.toNat = n.toNat) := by
  rw [Bool.eq_iff_iff, beq_iff_eq, decide_eq_true_iff, UInt8.toNat_inj]

theorem maySecond_iff (lead b : UInt8) : maySecond lead b = true ↔ 0x80 ≤ b.toNat ∧ b.toNat ≤ 0xBF ∧
    (lead.toNat = 0xE0 → 0xA0 ≤ b.toNat) ∧ (lead.toNat = 0xF0 → 0x90 ≤ b.toNat) ∧
    (lead.toNat = 0xF4 → b.toNat ≤ 0x8F) := by
  simp only [maySecond, beq_toNat, Bool.and_eq_true, decide_eq_true_eq, UInt8.le_iff_toNat_le, apply_ite UInt8.toNat,
    UInt8.reduceToNat]
  repeat' split
  all_goals omega

theorem isSurrogate_iff (lead b : UInt8) : isSurrogate lead b = true ↔ lead.toNat = 0xED ∧ 0xA0 ≤ b.toNat := by
  simp only [isSurrogate, beq_toNat, Bool.and_eq_true, decide_eq_true_eq, UInt8.le_iff_toNat_le,
    UInt8.reduceToNat]

theorem not_isSurrogate_iff (lead b : UInt8) :
    isSurrogate lead b = false ↔ (lead.toNat = 0xED → b.toNat ≤ 0x9F) := by
  rw [← Bool.not_eq_true, isSurrogate_iff]
  omega

/-- Bytes that may follow a first one, as far as they go: the second byte of a surrogate is the last. -/
def Follows (lead : UInt8) : List UInt8 → Prop
  | [] => True
  | b :: bs => maySecond lead b ∧ ∀ x ∈ bs, isSurrogate lead b = false ∧ 0x80 ≤ x.toNat ∧ x.toNat ≤ 0xBF

/-- All bytes of a character. -/
structure Whole (lead : UInt8) (tails : List UInt8) : Prop where
  length : tails.length + 1 = lengthFrom lead
  follows : Follows lead tails

theorem Follows.of_prefix (h : Follows lead tails) (hfront : more <+: tails) : Follows lead more := by
  rcases more with _ | ⟨x, xs⟩
  · trivial
  · obtain ⟨rest, rfl⟩ := hfront
    exact ⟨h.1, fun y hy => h.2 y (List.mem_append_left _ hy)⟩

theorem mayFollow_iff (h : Follows lead tails) : mayFollow lead tails b = true ↔ Follows lead (tails ++ [b]) := by
  rcases tails with _ | ⟨x, xs⟩
  · simp [mayFollow, Follows]
  · obtain ⟨hx, hxs⟩ := h
    simp only [mayFollow, Bool.and_eq_true, Bool.not_eq_true', decide_eq_true_eq, and_assoc,
      UInt8.le_iff_toNat_le, UInt8.reduceToNat, List.cons_append, Follows, hx, true_and, List.mem_append,
      List.mem_singleton]
    exact ⟨fun hb y hy => hy.elim (hxs y) fun hy => hy ▸ hb, fun hall => hall b (.inr rfl)⟩

/-- What is withheld is a first byte and a second one that may follow it, but with which a surrogate would begin. -/
theorem withheld_iff :
    utf8.Withheld (lead :: tails) ↔ ∃ b, tails = [b] ∧ maySecond lead b = true ∧ isSurrogate lead b = true := by
  simp only [maySecond_iff, isSurrogate_iff]
  constructor
  · rintro ⟨-, b, hlow, hhigh, hbytes⟩
    obtain ⟨rfl, rfl⟩ := List.cons.inj hbytes
    have hlow' : 0xA0 ≤ b.toNat := UInt8.le_iff_toNat_le.1 hlow
    have hhigh' : b.toNat ≤ 0xBF := UInt8.le_iff_toNat_le.1 hhigh
    have hlead : (0xED : UInt8).toNat = 0xED := rfl
    exact ⟨b, rfl, by omega, hlead, hlow'⟩
  · rintro ⟨b, rfl, ⟨-, hhigh, -⟩, hlead, hlow⟩
    obtain rfl : lead = 0xED := UInt8.toNat_inj.1 hlead
    refine ⟨rfl, b, ?_, ?_, rfl⟩
    · rwa [UInt8.le_iff_toNat_le]
    · rwa [UInt8.le_iff_toNat_le]

/-- Some byte may come second after any first one, and others after it. -/
theorem exists_second (lead : UInt8) : ∃ b, maySecond lead b = true ∧ isSurrogate lead b = false := by
  simp only [maySecond_iff, not_isSurrogate_iff]
  by_cases hthree : lead.toNat = 0xE0
  · exact ⟨0xA0, by simp [hthree]⟩
  by_cases hfour : lead.toNat = 0xF0
  · exact ⟨0x90, by simp [hfour]⟩
  · exact ⟨0x80, by simp [hthree, hfour]⟩

/-- What may follow can be completed, if it is not withheld. -/
theorem Follows.complete (h : Follows lead tails) (hlength : tails.length + 1 ≤ lengthFrom lead)
    (hwithheld : ¬ utf8.Withheld (lead :: tails)) : ∃ more, Whole lead (tails ++ more) := by
  have hfill {x : UInt8} {n : Nat} (hx : x ∈ List.replicate n 0x80) : 0x80 ≤ x.toNat ∧ x.toNat ≤ 0xBF := by
    rw [(List.mem_replicate.1 hx).2]
    decide
  rcases tails with _ | ⟨b, bs⟩
  · by_cases hone : lengthFrom lead = 1
    · exact ⟨[], by simp [hone], trivial⟩
    · obtain ⟨b, hb, hb'⟩ := exists_second lead
      refine ⟨b :: List.replicate (lengthFrom lead - 2) 0x80, ?_, hb, fun x hx => ⟨hb', hfill hx⟩⟩
      simp only [List.length_nil] at hlength
      simp only [List.nil_append, List.length_cons, List.length_replicate]
      omega
  · have hb : isSurrogate lead b = false := by
      rcases bs with _ | ⟨b', bs⟩
      · rw [← Bool.not_eq_true]
        exact fun hb => hwithheld (withheld_iff.2 ⟨b, rfl, h.1, hb⟩)
      · exact (h.2 b' List.mem_cons_self).1
    refine ⟨List.replicate (lengthFrom lead - (b :: bs).length - 1) 0x80, ?_, h.1, fun x hx => ?_⟩
    · simp only [List.length_append, List.length_replicate]
      omega
    · exact (List.mem_append.1 hx).elim (h.2 x) fun hx => ⟨hb, hfill hx⟩

theorem follows_of_withheld (h : utf8.Withheld (lead :: tails)) :
    Follows lead tails ∧ tails.length + 1 < lengthFrom lead := by
  obtain ⟨b, rfl, hmay, hsurrogate⟩ := withheld_iff.1 h
  have hlead := ((isSurrogate_iff lead b).1 hsurrogate).1
  refine ⟨⟨hmay, by simp⟩, ?_⟩
  have hcases := lengthFrom_cases lead
  simp only [List.length_cons, List.length_nil]
  omega

/-! ### Numbers -/

theorem toNat_byte {n : Nat} (h : n < 256) : (UInt8.ofNat n).toNat = n := UInt8.toNat_ofNat_of_lt' h

theorem byte_eq {n : Nat} (h : n = b.toNat) : UInt8.ofNat n = b := by rw [h, UInt8.ofNat_toNat]

/-- The bytes of a character are told by its number. -/
theorem encodeChar_assemble (h : Whole lead tails) : encodeChar (assemble lead tails) = lead :: tails := by
  obtain ⟨hlength, hfollows⟩ := h
  -- The ranges of the lead and of the second byte bound the number from both sides: a shorter form cannot
  -- hold it, and it is the number of a character.
  have hcases := lengthFrom_cases lead
  rcases tails with _ | ⟨b, _ | ⟨b₂, _ | ⟨b₃, _ | ⟨b₄, rest⟩⟩⟩⟩ <;>
    simp only [List.length_nil, List.length_cons] at hlength
  · have hlead : lead.toNat < 0x80 := by omega
    clear hcases
    have hn : (assemble lead []).toNat = lead.toNat := by
      refine toNat_ofNat (.inl ?_)
      show lead.toNat < 0xD800
      omega
    simp only [encodeChar, hn, if_pos hlead, UInt8.ofNat_toNat]
  · have hlead : 0xC2 ≤ lead.toNat ∧ lead.toNat < 0xE0 := by omega
    clear hcases
    obtain ⟨hb, hb', -⟩ := (maySecond_iff lead b).1 hfollows.1
    have hn : (assemble lead [b]).toNat = lead.toNat % 32 * 64 + b.toNat % 64 := by
      refine toNat_ofNat (.inl ?_)
      show lead.toNat % 32 * 64 + b.toNat % 64 < 0xD800
      omega
    simp only [encodeChar, hn]
    rw [if_neg (by omega), if_pos (by omega), byte_eq (b := lead) (by omega), byte_eq (b := b) (by omega)]
  · have hlead : 0xE0 ≤ lead.toNat ∧ lead.toNat < 0xF0 := by omega
    clear hcases
    obtain ⟨hb, hb', hlow, -, -⟩ := (maySecond_iff lead b).1 hfollows.1
    obtain ⟨hsurrogate, hthird, hthird'⟩ := hfollows.2 b₂ (by simp)
    have hhigh := (not_isSurrogate_iff lead b).1 hsurrogate
    have hlow : 0x800 ≤ (lead.toNat % 16 * 64 + b.toNat % 64) * 64 := by omega
    have hn : (assemble lead [b, b₂]).toNat = (lead.toNat % 16 * 64 + b.toNat % 64) * 64 + b₂.toNat % 64 := by
      refine toNat_ofNat ?_
      show (lead.toNat % 16 * 64 + b.toNat % 64) * 64 + b₂.toNat % 64 < 0xD800 ∨
        0xDFFF < (lead.toNat % 16 * 64 + b.toNat % 64) * 64 + b₂.toNat % 64 ∧
          (lead.toNat % 16 * 64 + b.toNat % 64) * 64 + b₂.toNat % 64 < 0x110000
      omega
    clear hhigh hfollows hlength
    simp only [encodeChar, hn]
    rw [if_neg (by omega), if_neg (by omega), if_pos (by omega), byte_eq (b := lead) (by omega),
      byte_eq (b := b) (by omega), byte_eq (b := b₂) (by omega)]
  · have hlead : 0xF0 ≤ lead.toNat ∧ lead.toNat < 0xF5 := by omega
    clear hcases
    obtain ⟨hb, hb', -, hlow, hhigh⟩ := (maySecond_iff lead b).1 hfollows.1
    obtain ⟨-, hthird, hthird'⟩ := hfollows.2 b₂ (by simp)
    obtain ⟨-, hfourth, hfourth'⟩ := hfollows.2 b₃ (by simp)
    have hbounds : 0x10000 ≤ ((lead.toNat % 8 * 64 + b.toNat % 64) * 64 + b₂.toNat % 64) * 64 ∧
        ((lead.toNat % 8 * 64 + b.toNat % 64) * 64 + b₂.toNat % 64) * 64 + b₃.toNat % 64 < 0x110000 := by
      omega
    clear hlow hhigh hfollows hlength
    have hn : (assemble lead [b, b₂, b₃]).toNat =
        ((lead.toNat % 8 * 64 + b.toNat % 64) * 64 + b₂.toNat % 64) * 64 + b₃.toNat % 64 := by
      refine toNat_ofNat (.inr ⟨?_, hbounds.2⟩)
      show 0xDFFF < ((lead.toNat % 8 * 64 + b.toNat % 64) * 64 + b₂.toNat % 64) * 64 + b₃.toNat % 64
      omega
    simp only [encodeChar, hn]
    rw [if_neg (by omega), if_neg (by omega), if_neg (by omega), byte_eq (b := lead) (by omega),
      byte_eq (b := b) (by omega), byte_eq (b := b₂) (by omega), byte_eq (b := b₃) (by omega)]
  · omega

/-- A character has all its bytes, and they are its number. -/
theorem encodeChar_cases (c : Char) :
    ∃ lead tails, encodeChar c = lead :: tails ∧ Whole lead tails ∧ assemble lead tails = c := by
  have hvalid : c.toNat < 0xD800 ∨ 0xDFFF < c.toNat ∧ c.toNat < 0x110000 := c.valid
  have hc : c = Char.ofNat c.toNat := (Char.ofNat_toNat c).symm
  generalize hn : c.toNat = n at hvalid hc
  have htail (k : Nat) : (UInt8.ofNat (0x80 + k % 64)).toNat = 0x80 + k % 64 := toNat_byte (by omega)
  have htails (k : Nat) : 0x80 ≤ (UInt8.ofNat (0x80 + k % 64)).toNat ∧ (UInt8.ofNat (0x80 + k % 64)).toNat ≤ 0xBF := by
    rw [htail]
    omega
  -- In every branch the bounds of the number are those of a lead byte of that length.
  simp only [encodeChar, hn]
  split
  · have hlead : (UInt8.ofNat n).toNat = n := toNat_byte (by omega)
    have hcases := lengthFrom_cases (UInt8.ofNat n)
    refine ⟨_, [], rfl, ⟨?_, trivial⟩, ?_⟩
    · simp only [List.length_nil]
      omega
    · simp only [assemble, List.length_nil, List.foldl_nil, hlead, hc]
  split
  · have hlead : (UInt8.ofNat (0xC0 + n / 64)).toNat = 0xC0 + n / 64 := toNat_byte (by omega)
    have hcases := lengthFrom_cases (UInt8.ofNat (0xC0 + n / 64))
    refine ⟨_, [_], rfl, ⟨?_, (maySecond_iff _ _).2 ?_, by simp⟩, ?_⟩
    · simp only [List.length_nil, List.length_cons]
      omega
    · rw [htail, hlead]
      omega
    · rw [hc]
      simp only [assemble, List.length_nil, List.length_cons, List.foldl_cons, List.foldl_nil, hlead, htail]
      congr 1
      omega
  split
  · have hlead : (UInt8.ofNat (0xE0 + n / 4096)).toNat = 0xE0 + n / 4096 := toNat_byte (by omega)
    have hcases := lengthFrom_cases (UInt8.ofNat (0xE0 + n / 4096))
    refine ⟨_, [_, _], rfl, ⟨?_, (maySecond_iff _ _).2 ?_, ?_⟩, ?_⟩
    · simp only [List.length_nil, List.length_cons]
      omega
    · rw [htail, hlead]
      omega
    · simp only [List.mem_singleton, forall_eq]
      refine ⟨(not_isSurrogate_iff _ _).2 ?_, htails (n / 1)⟩
      rw [htail, hlead]
      omega
    · rw [hc]
      simp only [assemble, List.length_nil, List.length_cons, List.foldl_cons, List.foldl_nil, hlead, htail]
      congr 1
      omega
  · have hlead : (UInt8.ofNat (0xF0 + n / 262144)).toNat = 0xF0 + n / 262144 := toNat_byte (by omega)
    have hcases := lengthFrom_cases (UInt8.ofNat (0xF0 + n / 262144))
    refine ⟨_, [_, _, _], rfl, ⟨?_, (maySecond_iff _ _).2 ?_, ?_⟩, ?_⟩
    · simp only [List.length_nil, List.length_cons]
      omega
    · rw [htail, hlead]
      omega
    · intro x hx
      refine ⟨(not_isSurrogate_iff _ _).2 (by omega), ?_⟩
      simp only [List.mem_cons, List.not_mem_nil, or_false] at hx
      rcases hx with rfl | rfl
      · exact htails (n / 64)
      · exact htails (n / 1)
    · rw [hc]
      simp only [assemble, List.length_nil, List.length_cons, List.foldl_cons, List.foldl_nil, hlead, htail]
      congr 1
      omega

/-! ### One byte after the other -/

theorem spells_iff {c : Char} {bytes : List UInt8} : utf8.Spells c bytes ↔ encodeChar c = bytes := by
  simp [Spells, encode]

theorem spells_assemble (h : Whole lead tails) : utf8.Spells (assemble lead tails) (lead :: tails) :=
  spells_iff.2 (encodeChar_assemble h)

theorem begins_iff : utf8.Begins (lead :: tails) ↔ Follows lead tails ∧ tails.length + 1 ≤ lengthFrom lead := by
  constructor
  · rintro (⟨c, whole, hc, hfront⟩ | hwithheld)
    · obtain ⟨lead', tails', hbytes, hwhole, -⟩ := encodeChar_cases c
      rw [← spells_iff.1 hc, hbytes] at hfront
      obtain ⟨rfl, htails⟩ := List.cons_prefix_cons.1 hfront
      refine ⟨hwhole.follows.of_prefix htails, ?_⟩
      rw [← hwhole.length]
      exact Nat.succ_le_succ htails.length_le
    · exact (follows_of_withheld hwithheld).imp_right Nat.le_of_lt
  · rintro ⟨hfollows, hlength⟩
    by_cases hwithheld : utf8.Withheld (lead :: tails)
    · exact .inr hwithheld
    · obtain ⟨more, hwhole⟩ := hfollows.complete hlength hwithheld
      exact .inl ⟨_, _, spells_assemble hwhole, more, rfl⟩

theorem begun_iff : utf8.Begun (lead :: tails) ↔ Follows lead tails ∧ tails.length + 1 < lengthFrom lead := by
  constructor
  · rintro (⟨c, whole, hc, hfront, hne⟩ | hwithheld)
    · obtain ⟨lead', tails', hbytes, hwhole, -⟩ := encodeChar_cases c
      rw [← spells_iff.1 hc, hbytes] at hfront hne
      obtain ⟨rfl, htails⟩ := List.cons_prefix_cons.1 hfront
      refine ⟨hwhole.follows.of_prefix htails, ?_⟩
      rw [← hwhole.length]
      refine Nat.succ_lt_succ (Nat.lt_of_le_of_ne htails.length_le fun heq => hne ?_)
      rw [htails.eq_of_length heq]
    · exact follows_of_withheld hwithheld
  · rintro ⟨hfollows, hlength⟩
    by_cases hwithheld : utf8.Withheld (lead :: tails)
    · exact .inr hwithheld
    · obtain ⟨more, hwhole⟩ := hfollows.complete (Nat.le_of_lt hlength) hwithheld
      refine .inl ⟨_, _, spells_assemble hwhole, ⟨more, rfl⟩, fun heq => ?_⟩
      rw [← hwhole.length, ← (List.cons.inj heq).2] at hlength
      exact Nat.lt_irrefl _ hlength

theorem prefixed : utf8.Prefixed where
  units {c bytes} hc := by
    obtain ⟨lead, tails, hbytes, -, -⟩ := encodeChar_cases c
    rw [← spells_iff.1 hc, hbytes]
    exact ⟨Nat.one_dvd _, by simp⟩
  free {c c' bytes bytes'} hc hc' hfront := by
    obtain ⟨lead, tails, hbytes, hwhole, hassemble⟩ := encodeChar_cases c
    obtain ⟨lead', tails', hbytes', hwhole', hassemble'⟩ := encodeChar_cases c'
    rw [← spells_iff.1 hc, ← spells_iff.1 hc', hbytes, hbytes'] at hfront ⊢
    obtain ⟨rfl, htails⟩ := List.cons_prefix_cons.1 hfront
    have hlength := hwhole.length.trans hwhole'.length.symm
    obtain rfl := htails.eq_of_length (Nat.succ.inj hlength)
    exact ⟨hassemble.symm.trans hassemble', rfl⟩
  withheld {c bytes begun} hc hwithheld hfront := by
    obtain ⟨lead, tails, hbytes, hwhole, -⟩ := encodeChar_cases c
    rw [← spells_iff.1 hc, hbytes] at hfront
    rcases begun with _ | ⟨lead', tails'⟩
    · exact List.cons_ne_nil _ _ (List.prefix_nil.1 hfront)
    · obtain ⟨rfl, htails⟩ := List.cons_prefix_cons.1 hfront
      have hpart := (follows_of_withheld hwithheld).2
      have hlength := htails.length_le
      rw [← hwhole.length] at hpart
      omega

theorem keeps_iff {pending : List UInt8} : utf8.Keeps pending ↔ utf8.Begun pending := by
  constructor
  · rintro ⟨begun, part, rfl, hbegun, -, hpart⟩
    obtain rfl : part = [] := List.eq_nil_of_length_eq_zero (Nat.lt_one_iff.1 hpart)
    rwa [List.append_nil]
  · exact fun h => ⟨pending, [], (List.append_nil _).symm, h, Nat.one_dvd _, Nat.zero_lt_one⟩

theorem begun_nil : utf8.Begun [] := .inl ⟨'a', _, spells_iff.2 rfl, List.nil_prefix, by decide⟩

/-- What becomes of a first byte. -/
theorem start_taken (b : UInt8) : utf8.Taken [b] (start b) := by
  simp only [start]
  split
  · next hnone =>
    refine .bad ⟨.inl rfl, Nat.one_dvd _, rfl, fun h => ?_⟩
    have hlength := (begins_iff.1 h).2
    rw [hnone] at hlength
    exact Nat.not_succ_le_zero _ hlength
  · next hone => exact .char (spells_assemble ⟨hone.symm, trivial⟩)
  · next hnone hone =>
    exact .kept (keeps_iff.2 (begun_iff.2 ⟨trivial, Nat.lt_of_le_of_ne (Nat.pos_of_ne_zero hnone) (Ne.symm hone)⟩))

theorem legible : utf8.Legible := by
  refine ⟨prefixed, keeps_iff.2 begun_nil, fun pending b hpending => ?_⟩
  rcases pending with _ | ⟨lead, tails⟩
  · exact .taken (start_taken b)
  · have hbegun := keeps_iff.1 hpending
    obtain ⟨hfollows, hlength⟩ := begun_iff.1 hbegun
    show Stepped _ (lead :: tails) b (step (lead :: tails) b)
    simp only [step]
    split
    · next hmay =>
      have hmore := (mayFollow_iff hfollows).1 hmay
      split
      · next hwhole => exact .taken (.char (spells_assemble ⟨beq_iff_eq.1 hwhole, hmore⟩))
      · next hpart =>
        have hlt : (tails ++ [b]).length + 1 < lengthFrom lead := by
          rw [beq_iff_eq] at hpart
          simp only [List.length_append, List.length_singleton] at hpart ⊢
          omega
        exact .taken (.kept (keeps_iff.2 (begun_iff.2 ⟨hmore, hlt⟩)))
    · next hmay =>
      refine .broken (show lead :: tails = (lead :: tails) ++ [] from (List.append_nil _).symm)
        ⟨.inr hbegun, Nat.one_dvd _, rfl, fun h => hmay ?_⟩ (by simp) (start_taken b)
      exact (mayFollow_iff hfollows).2 (begins_iff.1 h).1

/-- The beginning of a surrogate is kept until one more byte shows that it is no character. -/
example : utf8.run [] [0xED, 0xA0] = ([], [0xED, 0xA0]) ∧
    utf8.run [] [0xED, 0xA0, 0x80] = (escapes [0xED, 0xA0, 0x80], []) := by
  decide +kernel

end Utf8

/-- Every encoding can be read that tells its byte order beforehand. -/
theorem legible {e : Encoding} (h : e ≠ utf16) : e.Legible :=
  match e with
  | utf8 => Utf8.legible
  | ascii => ascii_legible
  | latin1 => latin1_legible
  | western => western_legible
  | utf16 => absurd rfl h
  | utf16Fixed order => Utf16.legible order

end Dialogue.Encoding
