import Dialogue.Proofs.EndOfOutput
import Dialogue.Proofs.Reached
/-!
# The limit of the buffer

Text that comes in is trimmed to the limit, and matches only shorten it. Only the last text of an output, the
escapes of what the decoder still kept, is not trimmed: a stream that ends inside a character can leave more
than the limit (`Rehearsal.limit_exceeded`).
-/

namespace Dialogue

variable {T σ M : Type}

/-- The last text of an output that has ended: escapes of what its decoder still keeps. -/
def Stage.tail (st : Stage T σ) : List Char :=
  if st.session.eof then Encoding.escapes st.session.decoder.pending else []

/-- There is no more in the buffer than the limit and the last text. -/
structure Bounded (limit : Nat) (st : Stage T σ) : Prop where
  limited : st.session.conduct.bufferLimit = some limit
  /-- The output has not ended as long as the reader lives. -/
  open_alive : st.session.reader.isAlive → st.session.eof = false
  bound : st.before.length ≤ limit + st.tail.length

namespace Bounded

variable {S : Setting σ M} {limit : Nat} {st st' : Stage T σ}

theorem tail_eq (h : Bounded limit st) (halive : st.session.reader.isAlive) : st.tail = [] := by
  rw [Stage.tail, h.open_alive halive]
  rfl

theorem before_le (h : Bounded limit st) (halive : st.session.reader.isAlive) : st.before.length ≤ limit := by
  have hbound := h.bound
  rwa [h.tail_eq halive] at hbound

theorem readChunk (h : Bounded limit st) : Bounded limit st.readChunk.2 := ⟨h.limited, h.open_alive, h.bound⟩

theorem aside (h : Bounded limit st) (ha : Aside S st st') : Bounded limit st' := by
  obtain ⟨closed, channel, waiter, hs⟩ := ha.session
  constructor
  · rw [hs]
    exact h.limited
  · rw [hs]
    exact h.open_alive
  · rw [Stage.before, Stage.tail, hs]
    exact h.bound

/-- Trimming makes room for what comes in. -/
theorem take (h : Bounded limit st) (halive : st.session.reader.isAlive) (now : T) (text : List Char)
    (decoder : Decoder) : Bounded limit (st.takeIn now text decoder) := by
  have hopen := h.open_alive halive
  rw [Stage.takeIn_eq]
  refine ⟨h.limited, fun _ => hopen, ?_⟩
  have hsurplus : st.session.conduct.surplus (st.before ++ text).length = (st.before ++ text).length - limit := by
    rw [Conduct.surplus, h.limited]
    rfl
  simp only [Stage.before, Stage.tail, hopen] at hsurplus ⊢
  simp only [hsurplus, List.length_drop]
  omega

theorem stop (h : Bounded limit st) (halive : st.session.reader.isAlive) {tail : List Char}
    (hf : st.session.decoder.finish = some tail) : Bounded limit (st.ended tail) := by
  refine ⟨h.limited, (nomatch ·), ?_⟩
  have htail : (st.ended tail).tail = tail := by
    have hescapes := Decoder.finish_of_isSome (Option.isSome_of_eq_some hf)
    exact (Option.some.inj (hf.symm.trans hescapes)).symm
  have hbefore : (st.ended tail).before = st.before ++ tail := by simp [Stage.before, Stage.ended]
  rw [htail, hbefore, List.length_append]
  exact Nat.add_le_add_right (h.before_le halive) _

theorem ongoing (now : T) : Ongoing S now (Bounded limit) where
  aside h ha := h.aside ha
  pause _ h halive _ := ⟨h.limited, fun _ => h.open_alive halive, h.bound⟩
  take _ h halive _ _ _ := take h.readChunk halive now _ _
  stop _ h halive _ hf := stop h.readChunk halive hf
  fail _ h _ _ _ := ⟨h.limited, (nomatch ·), h.bound⟩

theorem steady [Moment T] : Steady S fun (_ : T) _ => Bounded limit where
  ongoing now _ := ongoing now
  pass _ h := h
  calm h := ⟨h.limited, h.open_alive, h.bound⟩
  consume {_ _ st} f elapsed h := by
    refine ⟨h.limited, h.open_alive, ?_⟩
    have hshorter := congrArg List.length (st.before_consume f elapsed)
    rw [List.length_append] at hshorter
    have hbound := h.bound
    have htail : (st.consume f elapsed).2.tail = st.tail := rfl
    rw [htail]
    omega

theorem opened (c : Conduct T) (hlimit : c.bufferLimit = some limit) (timeout : Span T) (now : T)
    (agenda : List (Appointment T M)) (d : Desk σ) : Bounded limit (S.opened c timeout now agenda d).world := by
  obtain ⟨starts, reader, waiter, heq, -⟩ := S.opened_world c timeout now agenda d
  rw [heq]
  exact ⟨hlimit, fun _ => rfl, Nat.zero_le _⟩

end Bounded

/-- The last text is what the decoder has returned at the end. -/
theorem Accounted.tail_eq {log₀ : List Record} {ms : List (Match T)} {st : Stage T (Taped σ M)}
    (h : Accounted log₀ ms st) : st.intake.tail = st.tail := by
  have htail := Intake.tail_eq st.session.conduct.encoding st.process.chunks
  rw [← Stage.intake, h.decoder] at htail
  have heof := h.eof
  rw [htail, Stage.tail, heof]
  by_cases hended : st.intake.ended
  · rw [if_pos hended, hended, Bool.true_and]
    cases hf : st.session.decoder.finish with
    | none => rfl
    | some tail =>
      rw [← hf, Decoder.finish_of_isSome (Option.isSome_of_eq_some hf)]
      rfl
  · rw [if_neg hended, Bool.eq_false_iff.2 hended]
    rfl

variable [Moment T]

/-- **The buffer is bounded.** Of a session with a limit, every stage that can be reached has in its buffer the end
of the text that has come in, and no more of it than the limit and the last text of an output that has ended;
so never more than the limit of an output that has not ended, or not inside a character. What has come in is
read off a tape. What runs come to can be reached. -/
theorem buffer_bounded (S : Setting σ M) (c : Conduct T) (limit : Nat) (hlimit : c.bufferLimit = some limit)
    (timeout : Span T) (now : T) (agenda : List (Appointment T M)) (d : Desk σ) :
    let start := S.opened c timeout now agenda d
    let taped := S.taped.opened c timeout now agenda d.onTape
    (∀ t l st, Reached S now start.world t l st →
      st.before.length ≤ limit + st.tail.length ∧
        ∃ st', Reached S.taped now taped.world t l st' ∧ OffTape S Eq c c.bufferSize c.bufferSize_pos st' st ∧
          st'.intake.tail = st.tail ∧ st.before <:+ st'.intake.received) ∧
      ∀ deeds, Reached S now start.world (Deed.run S.life deeds start).2.now (Deed.allTaken S.life deeds start)
        (Deed.run S.life deeds start).2.world := by
  intro start taped
  refine ⟨fun t l st hst => ?_, fun deeds => Reached.run deeds start⟩
  have hbegun : Linked S (Bounded limit) start.world :=
    ⟨S.opened_link c timeout now agenda d, Bounded.opened c hlimit timeout now agenda d⟩
  have hbounded := (Bounded.steady.reached hbegun hst).2
  have hpaired : Paired (OffTape S Eq c c.bufferSize c.bufferSize_pos) taped start :=
    OffTape.opened timeout now agenda d rfl
  obtain ⟨st', hst', hoff⟩ := hpaired.world.reached hst
  have hopened : Linked S.taped (Accounted d.log []) taped.world :=
    ⟨S.taped.opened_link c timeout now agenda d.onTape, Accounted.opened c timeout now agenda d⟩
  have hbooks := (Accounted.steady.reached hopened hst').2
  have hbefore : st.before = st'.before := by rw [Stage.before, Stage.before, hoff.session]
  have htail : st.tail = st'.tail := by rw [Stage.tail, Stage.tail, hoff.session]
  obtain ⟨segments, hreceived, -⟩ := hbooks.conserved
  refine ⟨hbounded.bound, st', hst', hoff, ?_, ?_⟩
  · rw [hbooks.tail_eq, htail]
  · rw [hbefore, hreceived]
    exact List.suffix_append _ _

namespace Rehearsal

/-- A session that keeps two characters. -/
def short : Scene Int (Stage Int Company) Cue :=
  (Company.setting false none).opened { reading .utf8 with bufferLimit := some 2 } ⟨5, .none⟩ 0 [] { process := {} }

theorem short_kept :
    let last := (Deed.run (Company.setting false none).life (fed [0x61, 0x62, 0x63]) short).2
    short.world.session.conduct.bufferLimit = some 2 ∧ last.world.before.length ≤ 2 := by
  intro last
  obtain ⟨hbounded, hrun⟩ := buffer_bounded (Company.setting false none)
    ({ reading .utf8 with bufferLimit := some 2 } : Conduct Int) 2 rfl ⟨5, .none⟩ 0 [] { process := {} }
  have hlast := (hbounded _ _ _ (hrun (fed [0x61, 0x62, 0x63]))).1
  have htail : last.world.tail = [] := by decide +kernel
  refine ⟨rfl, ?_⟩
  calc last.world.before.length ≤ 2 + last.world.tail.length := hlast
    _ = 2 := by rw [htail, List.length_nil]

/-- A stream that ends inside a character leaves more than the limit. -/
theorem limit_exceeded :
    let last := (Deed.run (Company.setting false none).life (fed [0x61, 0x62, 0x63, 0xC3]) short).2
    Reached (Company.setting false none) short.now short.world last.now [] last.world ∧
      short.world.session.conduct.bufferLimit = some 2 ∧ last.world.session.eof = true ∧
      last.world.before = ['b', 'c', '\\', 'x', 'c', '3'] ∧ ¬ last.world.before.length ≤ 2 := by
  refine ⟨Reached.run (fed [0x61, 0x62, 0x63, 0xC3]) short, rfl, ?_⟩
  decide +kernel

end Rehearsal

end Dialogue
