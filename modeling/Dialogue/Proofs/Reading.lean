import Dialogue.Proofs.Decoding
import Dialogue.Proofs.Rehearsing
/-!
# Reading all there is

A reader takes what a feed has pending piece by piece, decodes each piece and trims after it. What comes of it
is what comes of taking it in one piece (`Stage.readOn_feed`), so it does not tell how large the pieces are.
-/

namespace Dialogue

variable {T σ : Type}

/-! ## Taking in a text -/

/-- What trimming leaves of a text. -/
def Conduct.kept (c : Conduct T) (text : List Char) : List Char := text.drop (c.surplus text.length)

theorem Conduct.kept_append (c : Conduct T) (text more : List Char) :
    c.kept (c.kept text ++ more) = c.kept (text ++ more) := by
  unfold kept surplus
  rcases c.bufferLimit with _ | limit
  · rfl
  · simp only [Option.elim_some]
    by_cases hle : text.length ≤ limit
    · rw [Nat.sub_eq_zero_of_le hle, List.drop_zero]
    · have hdrop : text.drop (text.length - limit) ++ more = (text ++ more).drop (text.length - limit) :=
        (List.drop_append_of_le_length (Nat.sub_le ..)).symm
      rw [hdrop, List.drop_drop]
      congr 1
      simp only [List.length_drop, List.length_append]
      omega

/-- A session after a text has come in. -/
def Session.taken (now : T) (text : List Char) (decoder : Decoder) (s : Session T σ) : Session T σ :=
  { s with buffer := (s.conduct.kept (s.buffer.toList ++ text)).toArray, decoder, lastRead := now, stirred := true }

theorem Session.taken_taken (now : T) (text more : List Char) (d d' : Decoder) (s : Session T σ) :
    (s.taken now text d).taken now more d' = s.taken now (text ++ more) d' := by
  simp only [taken, Conduct.kept_append, List.append_assoc]

namespace Stage

theorem takeIn_session (now : T) (text : List Char) (decoder : Decoder) (st : Stage T σ) :
    (st.takeIn now text decoder).session = st.session.taken now text decoder := by
  rw [takeIn_eq]
  rfl

/-- Trimming after every piece leaves what trimming once leaves. -/
theorem foldl_takeIn (now : T) (decoder : Decoder) {texts : List (List Char)} (hne : texts ≠ []) (st : Stage T σ) :
    (texts.foldl (fun st text => st.takeIn now text decoder) st).session =
      (st.takeIn now texts.flatten decoder).session := by
  induction texts generalizing st with
  | nil => exact absurd rfl hne
  | cons text texts ih =>
    rw [List.foldl_cons, List.flatten_cons]
    by_cases hlast : texts = []
    · simp [hlast]
    · rw [ih hlast, takeIn_session, takeIn_session, takeIn_session, Session.taken_taken]

end Stage

/-! ## Reading a feed -/

namespace Feed

/-- The feed with nothing pending. -/
def drained (f : Feed) : Feed := { f with pending := [] }

/-- The answer to a read when nothing is pending. -/
def last (f : Feed) : Chunk := if f.ended then .bytes [] else .blocked

variable {f : Feed}

theorem not_readable_iff : ¬ f.readable ↔ f.pending = [] ∧ ¬ f.ended := by
  simp [readable]

theorem read_of_readable (h : f.readable) (most : Option Nat) :
    (Output.feed f).read most = (.bytes (f.take most).1, .feed (f.take most).2) := by
  rw [Output.read, if_pos h]

theorem read_of_not_readable (h : ¬ f.readable) (most : Option Nat) :
    (Output.feed f).read most = (.blocked, .feed f) := by
  rw [Output.read, if_neg h]

theorem take_ended (f : Feed) (most : Option Nat) : (f.take most).2.ended = f.ended := by
  cases most <;> rfl

theorem read_of_nil (h : f.pending = []) (n : Nat) : (Output.feed f).read (some n) = (f.last, .feed f) := by
  by_cases hended : f.ended
  · have hreadable : f.readable := by simp [readable, hended]
    have hnone : f.take (some n) = ([], f) := by
      obtain ⟨pending, ended, closed⟩ := f
      subst h
      simp [take]
    rw [read_of_readable hreadable, hnone, last, if_pos hended]
  · rw [read_of_not_readable (not_readable_iff.2 ⟨h, hended⟩), last, if_neg hended]

theorem read_of_ne_nil (h : f.pending ≠ []) (n : Nat) :
    (Output.feed f).read (some n) = (.bytes (f.pending.take n), .feed { f with pending := f.pending.drop n }) := by
  have hreadable : f.readable := Classical.byContradiction fun hn => h (not_readable_iff.1 hn).1
  rw [read_of_readable hreadable]
  rfl

end Feed

/-- The company with another feed as the output of its stand-in. -/
def Company.withFeed (c : Company) (f : Feed) : Company := { c with lead := { c.lead with output := .feed f } }

/-- To read through the link is to read from the stand-in of the company that is seen of the world. -/
def Link.Shows (l : Link σ) (view : σ → Company) : Prop :=
  ∀ n w, ((l.read n w).1, view (l.read n w).2) = Company.leadPart.on (StandIn.read (some n)) (view w)

namespace Stage

variable {view : σ → Company} {st : Stage T σ} {f : Feed}

theorem readChunk_shown (hl : st.session.link.Shows view) (hf : (view st.process).lead.output = .feed f) :
    st.readChunk.1 = ((Output.feed f).read (some st.session.conduct.bufferSize)).1 ∧
      view st.readChunk.2.process = { view st.process with
        lead := { (view st.process).lead with
          output := ((Output.feed f).read (some st.session.conduct.bufferSize)).2 } } := by
  have hread := hl st.session.conduct.bufferSize st.process
  simp only [Company.leadPart, Part.on, StandIn.read, hf] at hread
  exact Prod.ext_iff.1 hread

/-- One read takes in a first piece of what is pending. -/
theorem readOnce_feed (now : T) {text : List Char} {d : Decoder} (hl : st.session.link.Shows view)
    (hf : (view st.process).lead.output = .feed f) (hd : st.session.decoder.feed f.pending = some (text, d))
    (hne : f.pending ≠ []) : ∃ f' first more d₁, st.readChunk.1.goesOn st.session.decoder ∧
      view (st.readOnce now).process = (view st.process).withFeed f' ∧
      (st.readOnce now).session = st.session.taken now first d₁ ∧
      f'.pending.length < f.pending.length ∧ f'.drained = f.drained ∧ f'.last = f.last ∧
      d₁.feed f'.pending = some (more, d) ∧ text = first ++ more ∧ (f'.pending = [] → more = [] ∧ d₁ = d) := by
  obtain ⟨hchunk, hview⟩ := readChunk_shown hl hf
  rw [Feed.read_of_ne_nil hne] at hchunk hview
  generalize hsize : st.session.conduct.bufferSize = size at hchunk hview
  have hpos : 0 < size := hsize ▸ st.session.conduct.bufferSize_pos
  have hlength := List.length_pos_iff.2 hne
  obtain ⟨b, bs, hpiece⟩ : ∃ b bs, f.pending.take size = b :: bs :=
    List.exists_cons_of_ne_nil (List.ne_nil_of_length_pos (by rw [List.length_take]; omega))
  -- The decoder accepts all that is pending, hence the first piece, and the rest behind it.
  have hboth := hd
  rw [← List.take_append_drop size f.pending, Decoder.feed_append] at hboth
  obtain ⟨⟨first, d₁⟩, hfirst, hmap⟩ := Option.bind_eq_some_iff.1 hboth
  obtain ⟨⟨more, d₂⟩, hmore, heq⟩ := Option.map_eq_some_iff.1 hmap
  obtain ⟨rfl, rfl⟩ := Prod.mk.inj heq
  have honce : st.readOnce now = st.readChunk.2.takeIn now first d₁ := by
    rw [readOnce, hchunk, hpiece]
    simp only [takeChunk, readChunk_session, ← hpiece, hfirst]
  refine ⟨{ f with pending := f.pending.drop size }, first, more, d₁, ?_, ?_, ?_, ?_, rfl, rfl, hmore, rfl, ?_⟩
  · rw [hchunk, hpiece, Chunk.goesOn, ← hpiece, hfirst]
    rfl
  · rw [honce, takeIn_eq]
    exact hview
  · rw [honce, takeIn_session, readChunk_session]
  · simp only [List.length_drop]
    omega
  · intro hall
    have hall : f.pending.drop size = [] := hall
    rw [← List.take_append_drop size f.pending, hall, List.append_nil, hfirst] at hd
    obtain ⟨htext, hd⟩ := Prod.mk.inj (Option.some.inj hd)
    exact ⟨List.append_right_eq_self.1 htext.symm, hd⟩

/-- Reading on takes in what is pending, and ends with what follows it. -/
theorem readOn_feed (now : T) {text : List Char} {d : Decoder} (fuel : Nat) (hl : st.session.link.Shows view)
    (hf : (view st.process).lead.output = .feed f) (hd : st.session.decoder.feed f.pending = some (text, d))
    (hfuel : f.pending.length < fuel) :
    ∃ st₁ : Stage T σ, st.readOn now fuel = st₁.takeChunk now f.last ∧
      view st₁.process = (view st.process).withFeed f.drained ∧
      st₁.session = if f.pending = [] then st.session else st.session.taken now text d := by
  induction fuel generalizing st f text with
  | zero => exact absurd hfuel (Nat.not_lt_zero _)
  | succ fuel ih =>
    by_cases hnil : f.pending = []
    · obtain ⟨hchunk, hview⟩ := readChunk_shown hl hf
      rw [Feed.read_of_nil hnil] at hchunk hview
      have hgo : ¬ f.last.goesOn st.session.decoder := by
        unfold Feed.last
        split <;> simp [Chunk.goesOn]
      rw [readOn_succ, hchunk, if_neg hgo, readOnce, hchunk]
      refine ⟨st.readChunk.2, rfl, hview.trans ?_, (if_pos hnil).symm⟩
      rw [Company.withFeed, Feed.drained, ← hnil]
    · obtain ⟨f', first, more, d₁, hgo, hview, hsession, hlt, hdrained, hlast, hmore, rfl, hall⟩ :=
        readOnce_feed now hl hf hd hnil
      have hl' : (st.readOnce now).session.link.Shows view := hsession ▸ hl
      have hf' : (view (st.readOnce now).process).lead.output = .feed f' := by
        rw [hview]
        rfl
      have hd' : (st.readOnce now).session.decoder.feed f'.pending = some (more, d) := by
        rw [hsession]
        exact hmore
      obtain ⟨st₁, hon, hview₁, hsession₁⟩ := ih hl' hf' hd' (Nat.lt_of_lt_of_le hlt (Nat.lt_succ_iff.1 hfuel))
      rw [readOn_succ, if_pos hgo]
      refine ⟨st₁, by rw [hon, hlast], ?_, ?_⟩
      · rw [hview₁, hview, hdrained]
        rfl
      · rw [hsession₁, hsession, if_neg hnil]
        split
        · next hrest =>
          obtain ⟨rfl, rfl⟩ := hall hrest
          rw [List.append_nil]
        · rw [Session.taken_taken]

end Stage

end Dialogue
