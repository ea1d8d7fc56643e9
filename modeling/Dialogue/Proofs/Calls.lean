import Dialogue.Proofs.Resting
import Dialogue.Proofs.Timeline
/-!
# Calls in rehearsals

What a call for patterns gives back in a rehearsal, on an exact clock and with partial matches, told by
what comes in while it lasts. Two things that come in exactly at the deadline are told apart: the first
still counts, the second does not.
-/

namespace Dialogue.Rehearsal

open Moment (Exact)

variable {T : Type} [Moment T] [Exact T] {s : Scene T (Stage T Company) Cue} {awaited : Bool}
  {hookError : Option (Option Failure)} {targets : List Target} {patterns : List Pattern}

/-- A call looks at its start, at every arrival before its deadline and at the first one at it. The first
look at which the text matches or has ended gives the answer, at that time; without one the time is up
exactly at the deadline, or at once if that has passed. What is due later does not matter. -/
theorem expectAny_answer (hlink : s.world.session.link = Company.link awaited hookError)
    (hprompt : s.world.process.lead.output.Prompt) (hpartial : s.world.session.conduct.partialMatch)
    (htargets : Target.compileAll s.world.session.conduct.engine targets = .ok patterns) (limit : Option (Span T)) :
    let span := limit.getD s.world.session.timeout
    let deadline := s.now + span.length
    let arrivals := Instant.arrivals (Instant.course life (⟨s.now, []⟩ :: s.agenda) ⟨s.now, s.world⟩)
    let call (s : Scene T (Stage T Company) Cue) :=
      ((Stage.expectAny life targets limit s).1, (Stage.expectAny life targets limit s).2.now)
    let looks := if s.now < deadline then Instant.upTo deadline arrivals else []
    call s = Instant.answer patterns span s.now (⟨s.now, s.world⟩ :: looks) ∧
      ((arrivals.Pairwise fun i j => i.now = deadline → j.now ≠ deadline) →
        Instant.upTo deadline arrivals = arrivals.filter (·.now ≤ deadline)) ∧
      ∀ agenda later later', s.agenda = agenda ++ later → (∀ a ∈ later ++ later', (call s).2 < a.due) →
        call { s with agenda := agenda ++ later' } = call s := by
  have hr := Company.restful awaited hookError s.world.session.conduct
  have hconduct (st : Stage T Company) (h : Company.Prompt s.world.session.conduct st) :
      st.session.conduct.partialMatch := h.2 ▸ hpartial
  rw [life_eq awaited hookError]
  refine ⟨hr.expectAny_eq hconduct htargets limit ⟨hlink, hprompt, rfl⟩, ?_, ?_⟩
  · intro hone
    exact Instant.upTo_eq_filter (Instant.course_sorted.filter _) hone
  · rintro agenda later later' hagenda hlater
    obtain ⟨now, _, faults, world⟩ := s
    subst hagenda
    exact hr.expectAny_ignores (s := ⟨now, agenda ++ later, faults, world⟩) hconduct htargets limit
      ⟨hlink, hprompt, rfl⟩ agenda rfl hlater

/-- Two letters come in at time 1, one after the other. -/
def crowded : Scene Int (Stage Int Company) Cue :=
  (Company.setting false none).opened
    { verbose := false, encoding := .utf8, bufferSize := 1, bufferSize_pos := Nat.zero_lt_one, partialMatch := true,
      checkInterval := 0, bufferLimit := none, engine }
    ⟨1, .none⟩ 0 [⟨1, [.feed [0x78]]⟩, ⟨1, [.feed [0x79]]⟩] { process := {} }

/-- What waiting for one source compiles to. -/
def compiled (source : String) : List Pattern := (Target.compileAll engine [.source source]).toOption.getD []

theorem crowded_finds_first :
    crowded.world.session.link = Company.link false none ∧ crowded.world.process.lead.output.Prompt ∧
      crowded.world.session.conduct.partialMatch ∧ Target.compileAll engine [.source "x"] = .ok (compiled "x") ∧
      ((Stage.expectAny life [.source "x"] none crowded).1.isOk,
        (Stage.expectAny life [.source "x"] none crowded).2.now) = (true, 1) := by
  have hlink : crowded.world.session.link = Company.link false none := rfl
  have htargets : Target.compileAll engine [.source "x"] = .ok (compiled "x") := rfl
  have h := expectAny_answer hlink trivial rfl htargets none
  have hcall := congrArg (fun r => (r.1.isOk, r.2)) h.1
  exact ⟨rfl, trivial, rfl, rfl, hcall.trans (by decide +kernel)⟩

/-- The second of two arrivals exactly at the deadline does not count. -/
theorem second_at_deadline_missed : ¬ ∀ (s : Scene Int (Stage Int Company) Cue) (targets : List Target)
    (patterns : List Pattern) (limit : Option (Span Int)), s.world.session.link = Company.link false none →
    s.world.process.lead.output.Prompt → s.world.session.conduct.partialMatch →
    Target.compileAll s.world.session.conduct.engine targets = .ok patterns →
    let span := limit.getD s.world.session.timeout
    let deadline := s.now + span.length
    let arrivals := Instant.arrivals (Instant.course life (⟨s.now, []⟩ :: s.agenda) ⟨s.now, s.world⟩)
    ((Stage.expectAny life targets limit s).1, (Stage.expectAny life targets limit s).2.now) =
      Instant.answer patterns span s.now (⟨s.now, s.world⟩ ::
        if s.now < deadline then arrivals.filter (·.now ≤ deadline) else []) := by
  intro h
  have heq := congrArg (·.1.isOk) (h crowded [.source "y"] (compiled "y") none rfl trivial rfl rfl)
  revert heq
  decide +kernel

end Dialogue.Rehearsal
