import Dialogue.Proofs.Decoding
/-!
# What text some bytes are

`Encoding.Decodes` says what text some bytes are, from the characters that an encoding can hold: a character
where one stands, escapes for what can be none, and what could still become one is kept. Two bytes that can
become none are kept as well, those with which UTF-8 would begin a surrogate (`Encoding.Withheld`). There is
one such text at most, and a decoder reads it (`Encoding.run_decodes`) if each of its steps is one of those
that `Encoding.Stepped` lists.
-/

namespace Dialogue.Encoding

/-! ## Characters and their beginnings -/

/-- How many bytes a unit has. -/
def width : Encoding → Nat
  | utf16 | utf16Fixed _ => 2
  | _ => 1

/-- The bytes are the character. -/
def Spells (e : Encoding) (c : Char) (bytes : List UInt8) : Prop := e.encode [c] = .ok bytes

/-- The first two of the three bytes that a surrogate would have. They are no beginning of a character, but it
takes a third byte to show it. -/
def Withheld (e : Encoding) (bytes : List UInt8) : Prop :=
  e = utf8 ∧ ∃ b : UInt8, 0xA0 ≤ b ∧ b ≤ 0xBF ∧ bytes = [0xED, b]

/-- Some character begins with the bytes, or a surrogate would. -/
def Begins (e : Encoding) (bytes : List UInt8) : Prop :=
  (∃ c whole, e.Spells c whole ∧ bytes <+: whole) ∨ e.Withheld bytes

/-- Some character begins with the bytes and has more, or a surrogate would. -/
def Begun (e : Encoding) (bytes : List UInt8) : Prop :=
  (∃ c whole, e.Spells c whole ∧ bytes <+: whole ∧ bytes ≠ whole) ∨ e.Withheld bytes

/-- What is begun, if anything, does not go on with the unit. -/
structure Ends (e : Encoding) (begun unit : List UInt8) : Prop where
  open_begun : begun = [] ∨ e.Begun begun
  open_units : e.width ∣ begun.length
  one_unit : unit.length = e.width
  ends : ¬ e.Begins (begun ++ unit)

/-- What some bytes are: a text, and what is kept because it is begun. -/
inductive Decodes (e : Encoding) : List UInt8 → List Char → List UInt8 → Prop
  /-- Whole units that are begun, and part of a unit. -/
  | kept {begun part : List UInt8} (hbegun : e.Begun begun) (hunits : e.width ∣ begun.length)
      (hpart : part.length < e.width) : Decodes e (begun ++ part) [] (begun ++ part)
  | char {c : Char} {bytes more rest : List UInt8} {text : List Char} (hc : e.Spells c bytes)
      (hmore : Decodes e more text rest) : Decodes e (bytes ++ more) (c :: text) rest
  /-- What is begun is no character, and the unit after it counts afresh. -/
  | broken {begun unit more rest : List UInt8} {text : List Char} (hends : e.Ends begun unit) (hne : begun ≠ [])
      (hmore : Decodes e (unit ++ more) text rest) : Decodes e (begun ++ (unit ++ more)) (escapes begun ++ text) rest
  /-- No character begins with the unit. -/
  | bad {unit more rest : List UInt8} {text : List Char} (hends : e.Ends [] unit) (hmore : Decodes e more text rest) :
      Decodes e (unit ++ more) (escapes unit ++ text) rest

/-! ## There is only one text -/

/-- No character begins with another, and none is the beginning of a surrogate. -/
structure Prefixed (e : Encoding) : Prop where
  units : ∀ {c bytes}, e.Spells c bytes → e.width ∣ bytes.length ∧ bytes ≠ []
  free : ∀ {c c' bytes bytes'}, e.Spells c bytes → e.Spells c' bytes' → bytes <+: bytes' → c = c' ∧ bytes = bytes'
  withheld : ∀ {c bytes begun}, e.Spells c bytes → e.Withheld begun → ¬ bytes <+: begun

section

variable {e : Encoding} {c c' : Char} {bytes bytes' begun begun' part unit unit' more more' : List UInt8}

/-- Only UTF-8 withholds anything. -/
theorem not_withheld (he : e ≠ utf8) : ¬ e.Withheld bytes := fun h => he h.1

/-- A beginning of what is withheld is that of a character, or all of it. -/
theorem Withheld.begins (h : e.Withheld begun) (hfront : bytes <+: begun) : e.Begins bytes := by
  obtain ⟨rfl, b, hlow, hhigh, rfl⟩ := h
  have hspells : utf8.Spells (Char.ofNat 0xD000) [0xED, 0x80, 0x80] := rfl
  rcases bytes with _ | ⟨x, _ | ⟨y, ys⟩⟩
  · exact .inl ⟨_, _, hspells, List.nil_prefix⟩
  · obtain ⟨rfl, -⟩ := List.cons_prefix_cons.1 hfront
    exact .inl ⟨_, _, hspells, [0x80, 0x80], rfl⟩
  · refine .inr ⟨rfl, b, hlow, hhigh, hfront.eq_of_length_le ?_⟩
    simp

theorem Begun.begins (h : e.Begun begun) (hfront : bytes <+: begun) : e.Begins bytes := by
  rcases h with ⟨c, whole, hc, hwhole, -⟩ | hwithheld
  · exact .inl ⟨c, whole, hc, hfront.trans hwhole⟩
  · exact hwithheld.begins hfront

/-- Of two stretches of whole units the longer is longer by a unit. -/
theorem add_width_le (h : e.width ∣ begun.length) (h' : e.width ∣ bytes.length) (hlt : begun.length < bytes.length) :
    begun.length + e.width ≤ bytes.length := by
  obtain ⟨m, hm⟩ := h
  obtain ⟨n, hn⟩ := h'
  rw [hm, hn] at hlt ⊢
  exact Nat.mul_le_mul_left e.width (Nat.lt_of_mul_lt_mul_left hlt)

theorem Ends.length (h : e.Ends begun unit) : (begun ++ unit).length = begun.length + e.width := by
  rw [List.length_append, h.one_unit]

/-- Of two beginnings of the same bytes the shorter is one of the longer. -/
theorem front_of_le (heq : bytes ++ more = bytes' ++ more') (hle : bytes.length ≤ bytes'.length) : bytes <+: bytes' :=
  List.prefix_of_prefix_length_le (heq ▸ List.prefix_append bytes more) (List.prefix_append bytes' more') hle

/-- What goes on longer than what is ended goes on with the unit that ends it. -/
theorem Ends.prefix_of_lt (h : e.Ends begun unit) (hbytes : e.width ∣ bytes.length)
    (heq : bytes ++ more = begun ++ (unit ++ more')) (hlt : begun.length < bytes.length) :
    begun ++ unit <+: bytes := by
  rw [← List.append_assoc] at heq
  refine front_of_le heq.symm ?_
  rw [h.length]
  exact add_width_le h.open_units hbytes hlt

theorem Ends.ne_kept (h : e.Ends begun unit) (hbegun : e.Begun begun') (hunits : e.width ∣ begun'.length)
    (hpart : part.length < e.width) : begun' ++ part ≠ begun ++ (unit ++ more) := by
  intro heq
  have hlength := congrArg List.length heq
  simp only [List.length_append, h.one_unit] at hlength
  exact h.ends (hbegun.begins (h.prefix_of_lt hunits heq (by omega)))

theorem Ends.eq_of_eq (h : e.Ends begun unit) (h' : e.Ends begun' unit')
    (heq : begun ++ (unit ++ more) = begun' ++ (unit' ++ more')) : begun = begun' ∧ unit = unit' ∧ more = more' := by
  have hle {b b' u u' m m'} (h : e.Ends b u) (h' : e.Ends b' u') (heq : b ++ (u ++ m) = b' ++ (u' ++ m')) :
      b.length ≤ b'.length := by
    rcases h.open_begun with rfl | hbegun
    · exact Nat.zero_le _
    · refine Nat.not_lt.1 fun hlt => ?_
      exact h'.ends (hbegun.begins (h'.prefix_of_lt h.open_units heq hlt))
  obtain ⟨rfl, hrest⟩ := List.append_inj heq (Nat.le_antisymm (hle h h' heq) (hle h' h heq.symm))
  obtain ⟨rfl, rfl⟩ := List.append_inj hrest (h.one_unit.trans h'.one_unit.symm)
  exact ⟨rfl, rfl, rfl⟩

namespace Prefixed

theorem not_begun (he : e.Prefixed) (hc : e.Spells c bytes) (hb : e.Begun begun) : ¬ bytes <+: begun := by
  intro hfront
  rcases hb with ⟨c', whole, hc', hwhole, hne⟩ | hwithheld
  · obtain ⟨-, rfl⟩ := he.free hc hc' (hfront.trans hwhole)
    exact hne (hwhole.eq_of_length_le hfront.length_le)
  · exact he.withheld hc hwithheld hfront

theorem ne_kept (he : e.Prefixed) (hc : e.Spells c bytes) (hbegun : e.Begun begun) (hunits : e.width ∣ begun.length)
    (hpart : part.length < e.width) : begun ++ part ≠ bytes ++ more := by
  intro heq
  have hlength := congrArg List.length heq
  simp only [List.length_append] at hlength
  by_cases hlt : begun.length < bytes.length
  · have hle := add_width_le hunits (he.units hc).1 hlt
    omega
  · exact he.not_begun hc hbegun (front_of_le heq.symm (Nat.not_lt.1 hlt))

theorem ne_ends (he : e.Prefixed) (hc : e.Spells c bytes) (h : e.Ends begun unit) :
    bytes ++ more ≠ begun ++ (unit ++ more') := by
  intro heq
  by_cases hlt : begun.length < bytes.length
  · exact h.ends (.inl ⟨c, bytes, hc, h.prefix_of_lt (he.units hc).1 heq hlt⟩)
  · have hfront := front_of_le heq (Nat.not_lt.1 hlt)
    rcases h.open_begun with rfl | hbegun
    · exact (he.units hc).2 (List.prefix_nil.1 hfront)
    · exact he.not_begun hc hbegun hfront

theorem eq_of_eq (he : e.Prefixed) (hc : e.Spells c bytes) (hc' : e.Spells c' bytes')
    (heq : bytes ++ more = bytes' ++ more') : c = c' ∧ bytes = bytes' ∧ more = more' := by
  have hboth : c = c' ∧ bytes = bytes' := by
    rcases Nat.le_total bytes.length bytes'.length with h | h
    · exact he.free hc hc' (front_of_le heq h)
    · exact (he.free hc' hc (front_of_le heq.symm h)).imp Eq.symm Eq.symm
  obtain ⟨rfl, rfl⟩ := hboth
  exact ⟨rfl, rfl, List.append_cancel_left heq⟩

end Prefixed

/-- The bytes tell the text, and what is kept. -/
theorem Decodes.unique (he : e.Prefixed) {stream stream' rest rest' : List UInt8} {text text' : List Char}
    (h : e.Decodes stream text rest) (h' : e.Decodes stream' text' rest') (hs : stream = stream') :
    text = text' ∧ rest = rest' := by
  -- Two readings that begin in different ways would make the front of one a front of the other.
  induction h generalizing text' stream' with
  | kept hbegun hunits hpart =>
    cases h' with
    | kept => exact ⟨rfl, hs⟩
    | char hc _ => exact absurd hs (he.ne_kept hc hbegun hunits hpart)
    | broken hends _ _ => exact absurd hs (hends.ne_kept hbegun hunits hpart)
    | bad hends _ => exact (hends.ne_kept hbegun hunits hpart hs).elim
  | char hc hmore ih =>
    cases h' with
    | kept hbegun hunits hpart => exact absurd hs.symm (he.ne_kept hc hbegun hunits hpart)
    | char hc' hmore' =>
      obtain ⟨rfl, rfl, rfl⟩ := he.eq_of_eq hc hc' hs
      exact (ih hmore' rfl).imp_left (congrArg _)
    | broken hends _ _ => exact absurd hs (he.ne_ends hc hends)
    | bad hends _ => exact (he.ne_ends hc hends hs).elim
  | broken hends hne hmore ih =>
    cases h' with
    | kept hbegun hunits hpart => exact absurd hs.symm (hends.ne_kept hbegun hunits hpart)
    | char hc' hmore' => exact absurd hs.symm (he.ne_ends hc' hends)
    | broken hends' _ hmore' =>
      obtain ⟨rfl, rfl, rfl⟩ := hends.eq_of_eq hends' hs
      exact (ih hmore' rfl).imp_left (congrArg _)
    | bad hends' _ => exact absurd (hends.eq_of_eq hends' hs).1 hne
  | bad hends hmore ih =>
    cases h' with
    | kept hbegun hunits hpart => exact (hends.ne_kept hbegun hunits hpart hs.symm).elim
    | char hc' hmore' => exact (he.ne_ends hc' hends hs.symm).elim
    | broken hends' hne' _ => exact absurd (hends.eq_of_eq hends' hs).1.symm hne'
    | bad hends' hmore' =>
      obtain ⟨-, rfl, rfl⟩ := hends.eq_of_eq hends' hs
      exact (ih hmore' rfl).imp_left (congrArg _)

end

/-! ## A machine that reads it -/

/-- What a decoder may keep: what is begun, and part of a unit. -/
def Keeps (e : Encoding) (pending : List UInt8) : Prop :=
  ∃ begun part, pending = begun ++ part ∧ e.Begun begun ∧ e.width ∣ begun.length ∧ part.length < e.width

/-- What becomes of some bytes at the front of a stream: they are kept, a character, or escaped. -/
inductive Taken (e : Encoding) (bytes : List UInt8) : List Char × List UInt8 → Prop
  | kept (h : e.Keeps bytes) : Taken e bytes ([], bytes)
  | char {c : Char} (h : e.Spells c bytes) : Taken e bytes ([c], [])
  | bad (h : e.Ends [] bytes) : Taken e bytes (escapes bytes, [])

/-- What becomes of one more byte. -/
inductive Stepped (e : Encoding) (pending : List UInt8) (b : UInt8) : List Char × List UInt8 → Prop
  | taken {r : List Char × List UInt8} (h : e.Taken (pending ++ [b]) r) : Stepped e pending b r
  /-- What is begun is no character, and the unit that the byte completes counts afresh. -/
  | broken {begun part : List UInt8} {r : List Char × List UInt8} (hpending : pending = begun ++ part)
      (hends : e.Ends begun (part ++ [b])) (hne : begun ≠ []) (h : e.Taken (part ++ [b]) r) :
      Stepped e pending b (escapes begun ++ r.1, r.2)

variable {e : Encoding}

theorem Taken.decodes {bytes more : List UInt8} {r : List Char × List UInt8} (h : e.Taken bytes r)
    (hmore : ∀ pending, e.Keeps pending → e.Decodes (pending ++ more) (e.run pending more).1 (e.run pending more).2)
    (hnil : e.Keeps []) : e.Decodes (bytes ++ more) (r.1 ++ (e.run r.2 more).1) (e.run r.2 more).2 := by
  cases h with
  | kept h => exact hmore bytes h
  | char h => exact .char h (hmore [] hnil)
  | bad h => exact .bad h (hmore [] hnil)

/-- A decoder whose every step is one of those listed reads what the bytes are. -/
theorem run_decodes (hsteps : ∀ pending b, e.Keeps pending → e.Stepped pending b (e.step pending b))
    (hnil : e.Keeps []) {pending : List UInt8} (h : e.Keeps pending) (bytes : List UInt8) :
    e.Decodes (pending ++ bytes) (e.run pending bytes).1 (e.run pending bytes).2 := by
  induction bytes generalizing pending with
  | nil =>
    obtain ⟨begun, part, rfl, hbegun, hunits, hpart⟩ := h
    simpa [run_nil] using Decodes.kept hbegun hunits hpart
  | cons b bytes ih =>
    have hstep := hsteps pending b h
    rw [run_cons]
    generalize e.step pending b = r at hstep ⊢
    cases hstep with
    | taken ht =>
      have hdecodes := ht.decodes (fun _ h => ih h) hnil
      simpa using hdecodes
    | @broken begun part r hpending hends hne ht =>
      subst hpending
      have hdecodes := ht.decodes (fun _ h => ih h) hnil
      have hbroken := Decodes.broken hends hne (by simpa using hdecodes)
      simpa using hbroken

/-- The text of some bytes is what the decoder reads. -/
structure Legible (e : Encoding) : Prop where
  prefixed : e.Prefixed
  keeps_nil : e.Keeps []
  steps : ∀ pending b, e.Keeps pending → e.Stepped pending b (e.step pending b)

theorem Legible.decodes_iff (he : e.Legible) {bytes rest : List UInt8} {text : List Char} :
    e.Decodes bytes text rest ↔ e.run [] bytes = (text, rest) := by
  have hrun := run_decodes he.steps he.keeps_nil he.keeps_nil bytes
  refine ⟨fun h => ?_, fun h => by rwa [h] at hrun⟩
  obtain ⟨htext, hrest⟩ := hrun.unique he.prefixed h rfl
  exact Prod.ext htext hrest

end Dialogue.Encoding
