import Dialogue.Proofs.Calls
import Dialogue.Proofs.EndOfOutput
import Dialogue.Proofs.Heard
import Dialogue.Proofs.Quiet
/-!
# Patience

A call without partial matches waits again and again, for an interval of quiet or for whatever time is left. No wait
reaches beyond the deadline, so the call has ended by then (`Restful.expectUntil_lasts`), and the last look tells why
(`Restful.expectAny_answers`). A match that is there when the call begins takes one wait, if nothing comes in
(`Restful.expectAny_undisturbed`).
-/

namespace Dialogue

open Moment (Exact)

variable {T σ M : Type} [Moment T]

namespace Stage

variable {patterns : List Pattern} {limit : Span T} {started deadline now : T}

theorem LastLook.now_eq {last : Scene T (Stage T σ) M} {r : Except Failure (Match T) × Scene T (Stage T σ) M}
    (h : LastLook patterns limit started last r) : r.2.now = last.now := by
  cases h with
  | found => rfl
  | atEnd => rfl
  | late => rfl
  | blocked => rfl

theorem settled_iff {st : Stage T σ} (hpartial : st.session.conduct.partialMatch = false) :
    st.settled now ↔ st.session.eof ∨ st.session.conduct.checkInterval ≤ now - st.session.lastRead := by
  simp [settled, hpartial]

variable [Exact T]

/-- What was found and may not be taken yet is waited for until an interval is over, or until the deadline. -/
theorem judge_of_young {st : Stage T σ} {f : Finding} (hfound : Finding.search patterns st.session.buffer = some f)
    (hunsettled : st.settled now = false) (hlate : ¬ deadline ≤ now) :
    ∃ length, st.judge patterns deadline now = .wait length ∧
      Moment.shorter deadline (now + st.session.conduct.checkInterval) = now + length := by
  have hremaining : ¬ deadline - now ≤ 0 := fun hle => hlate (Exact.sub_nonpos.1 hle)
  refine ⟨Moment.shorter (deadline - now) st.session.conduct.checkInterval, ?_, ?_⟩
  · simp [judge, hfound, hunsettled, hremaining]
  · rw [Exact.add_shorter, Exact.add_sub]

/-- No wait reaches beyond the deadline. -/
theorem judge_wait_le {st : Stage T σ} {length : T} (h : st.judge patterns deadline now = .wait length) :
    now + length ≤ deadline := by
  have hremaining : now + (deadline - now) ≤ deadline := by
    rw [Exact.add_sub]
    exact Exact.le_refl deadline
  simp only [judge] at h
  split at h
  · split at h
    · cases h
    · split at h
      · cases h
      · obtain rfl := Verdict.wait.inj h
        exact Exact.le_trans (Exact.add_le_add now (Exact.shorter_le _ _)) hremaining
  · split at h
    · cases h
    · split at h
      · cases h
      · obtain rfl := Verdict.wait.inj h
        exact hremaining

end Stage

/-- What comes in next is one of the arrivals. -/
theorem Instant.next_mem_arrivals {life : Life T (Stage T σ) M} {deadline : T} {agenda rest : List (Appointment T M)}
    {i j : Instant T σ} (h : next life deadline agenda i = some (rest, j)) : j ∈ arrivals (course life agenda i) := by
  induction agenda generalizing i with
  | nil => simp [next] at h
  | cons a agenda ih =>
    rw [course, arrivals_cons]
    simp only [next] at h
    split at h
    · split at h
      · next hstirred =>
        obtain ⟨-, rfl⟩ := Prod.mk.inj (Option.some.inj h)
        rw [if_pos hstirred]
        exact List.mem_cons_self
      · next hstirred =>
        rw [if_neg hstirred]
        exact ih h
    · cases h

namespace Restful

variable [Exact T] {S : Setting σ M} {G : Stage T σ → Prop} {c : Conduct T} {patterns : List Pattern}
  {s : Scene T (Stage T σ) M}

/-- A wait lasts as long as it may and brings nothing in, or it ends when something comes in. -/
theorem lull_cases (hr : Restful S G) (length : T) (h : Linked S G s.world) (hlength : s.now ≤ s.now + length) :
    let r := Stage.lull S.life length s
    (r.now = s.now + length ∧ s.world.SameText r.world) ∨
      ∃ i ∈ Instant.arrivals (Instant.course S.life (⟨s.now, []⟩ :: s.agenda) ⟨s.now, s.world⟩),
        r.now = i.now ∧ i.now ≤ s.now + length := by
  intro r
  have hends : Instant.Ends _ s r _ := hr.lull_ends length h hlength
  cases hnext : Instant.next S.life (s.now + length) (⟨s.now, []⟩ :: s.agenda) ⟨s.now, s.world⟩ with
  | none =>
    rw [hnext] at hends
    exact .inl hends
  | some found =>
    obtain ⟨rest, j⟩ := found
    rw [hnext] at hends
    obtain ⟨-, hj, -⟩ := Instant.next_bounds (i := ⟨s.now, s.world⟩) hlength hnext
    exact .inr ⟨j, Instant.next_mem_arrivals hnext, hends.1, hj⟩

theorem lull_bounds (hr : Restful S G) (length : T) (h : Linked S G s.world) (hlength : s.now ≤ s.now + length) :
    s.now ≤ (Stage.lull S.life length s).now ∧ (Stage.lull S.life length s).now ≤ s.now + length := by
  rcases hr.lull_cases length h hlength with ⟨hnow, -⟩ | ⟨i, hi, hnow, hle⟩
  · rw [hnow]
    exact ⟨hlength, Exact.le_refl _⟩
  · rw [hnow]
    exact ⟨Instant.le_of_mem_course (List.mem_filter.1 hi).1, hle⟩

theorem lull_keeps (hs : Steady S fun (_ : T) _ => G) (length : T) (h : Linked S G s.world)
    (htimely : s.world.Timely s.now) :
    Linked S G (Stage.lull S.life length s).world ∧
      (Stage.lull S.life length s).world.Timely (Stage.lull S.life length s).now := by
  have hlinked : Linked S (Stage.Timely s.now) s.world := ⟨h.1, htimely⟩
  exact ⟨hs.kept.lull (l := []) length s h, (Stage.Timely.steady.kept.lull (l := []) length s hlinked).2⟩

/-- A call has ended by its deadline, or at once if that has passed. -/
theorem expectUntil_lasts (hr : Restful S G) (hs : Steady S fun (_ : T) _ => G) (patterns : List Pattern)
    (limit : Span T) (started : T) (fuel : Nat) (h : Linked S G s.world) (htimely : s.world.Timely s.now) :
    ∃ last, (Linked S G last.world ∧ last.world.Timely last.now ∧ s.now ≤ last.now ∧
        last.now ≤ Moment.later s.now (started + limit.length)) ∧
      Stage.LastLook patterns limit started last (Stage.expectUntil S.life patterns limit started fuel s) := by
  refine Stage.expectUntil_lastLook S.life patterns limit started ?_ fuel
    ⟨h, htimely, Exact.le_refl _, Exact.le_later _ _⟩
  rintro last length ⟨hlast, hread, hafter, -⟩ hwait
  obtain ⟨hlength, -⟩ := Stage.judge_of_wait hread hwait
  obtain ⟨hbegun, hover⟩ := hr.lull_bounds length hlast hlength
  obtain ⟨hlinked, htimely⟩ := lull_keeps hs length hlast hread
  refine ⟨hlinked, htimely, ?_, ?_⟩
  · exact Exact.le_trans hafter hbegun
  · exact Exact.le_trans hover (Exact.le_trans (Stage.judge_wait_le hwait) (Exact.le_later_right _ _))

/-- How a call without partial matches ends. -/
theorem expectAny_answers (hr : Restful S G) (hs : Steady S fun (_ : T) _ => G)
    (hconduct : ∀ st, G st → st.session.conduct = c) (hpartial : c.partialMatch = false) {targets : List Target}
    (htargets : Target.compileAll s.world.session.conduct.engine targets = .ok patterns) (limit : Option (Span T))
    (h : Linked S G s.world)
    (htimely : s.world.Timely s.now) :
    let span := limit.getD s.world.session.timeout
    let call := Stage.expectAny S.life targets limit s
    let quiet := c.checkInterval ≤ call.2.now - call.2.world.session.lastRead
    let sources := patterns.map fun p => Value.text p.source
    s.now ≤ call.2.now ∧ call.2.now ≤ Moment.later s.now (s.now + span.length) ∧
      (call.1.isOk → call.2.world.session.eof ∨ quiet) ∧
      ∀ e, call.1 = .error e →
        e = .expectEnd (some sources) ∧ call.2.world.session.eof ∧
            Finding.search patterns call.2.world.session.buffer = none ∨
          e = .expectTimeout (some (sources, span.written)) ∧
            call.2.now = Moment.later s.now (s.now + span.length) ∧
            (Finding.search patterns call.2.world.session.buffer = none ∨ ¬ quiet) := by
  intro span call
  have hanswers : call.1 ≠ .error .blocked := hr.expectAny_ne_blocked htargets limit h htimely
  obtain ⟨last, ⟨hlast, -, hafter, hover⟩, hlook⟩ :=
    hr.expectUntil_lasts hs patterns span s.now (Stage.patience s) h htimely
  have hcall : call = Stage.expectUntil S.life patterns span s.now (Stage.patience s) s := by
    simp only [call, Stage.expectAny, htargets]
    rfl
  rw [← hcall] at hlook
  obtain rfl : last.world.session.conduct = c := hconduct _ hlast.2
  have hsettled : last.world.settled last.now ↔
      last.world.session.eof ∨ last.world.session.conduct.checkInterval ≤ last.now - last.world.session.lastRead :=
    Stage.settled_iff hpartial
  generalize call = r at hlook hanswers ⊢
  cases hlook with
  | found _ htaken =>
    refine ⟨hafter, hover, fun _ => hsettled.1 htaken, ?_⟩
    rintro e ⟨⟩
  | atEnd hnone heof =>
    refine ⟨hafter, hover, ?_, ?_⟩
    · rintro ⟨⟩
    · rintro e ⟨⟩
      exact .inl ⟨rfl, heof, hnone⟩
  | late hopen heof hremaining =>
    refine ⟨hafter, hover, ?_, ?_⟩
    · rintro ⟨⟩
    · rintro e ⟨⟩
      have hdeadline := Moment.later_le hafter (Exact.sub_nonpos.1 hremaining)
      refine .inr ⟨rfl, Exact.le_antisymm hover hdeadline, hopen.imp_right ?_⟩
      intro hunsettled hquiet
      rw [hsettled.2 (.inr hquiet)] at hunsettled
      cases hunsettled
  | blocked => exact absurd rfl hanswers

/-- If something is found when a call begins, and then nothing comes in, the call takes it by the time it has waited for
an interval, or until its deadline, provided that the output has been quiet for an interval then. -/
theorem expectUntil_undisturbed (hr : Restful S G) (hs : Steady S fun (_ : T) _ => G)
    (hpartial : s.world.session.conduct.partialMatch = false) (limit : Span T) (fuel : Nat) (h : Linked S G s.world)
    (htimely : s.world.Timely s.now) {f : Finding} (hfound : Finding.search patterns s.world.session.buffer = some f) :
    let interval := s.world.session.conduct.checkInterval
    let call := Stage.expectUntil S.life patterns limit s.now (fuel + 2) s
    let u := Moment.later s.now (Moment.shorter (s.now + limit.length) (s.now + interval))
    (∀ i ∈ Instant.arrivals (Instant.course S.life (⟨s.now, []⟩ :: s.agenda) ⟨s.now, s.world⟩), call.2.now < i.now) →
      interval ≤ u - s.world.session.lastRead →
        call.1 = .ok (s.world.consume f (call.2.now - s.now)).1 ∧ call.2.now ≤ u := by
  intro interval call u hundisturbed hquiet
  by_cases hsettled : s.world.settled s.now
  · have hcall : call = _ := Stage.expectUntil_of_settled hfound hsettled (fuel + 1)
    rw [hcall]
    exact ⟨rfl, Exact.le_later _ _⟩
  -- It may not be taken yet, so there is time to wait, since at `u` it may.
  have hlate : ¬ s.now + limit.length ≤ s.now := by
    intro hle
    have hu : u = s.now := Exact.later_eq_left (Exact.le_trans (Exact.shorter_le _ _) hle)
    rw [hu] at hquiet
    exact hsettled ((Stage.settled_iff hpartial).2 (.inr hquiet))
  obtain ⟨length, hjudge, hlength⟩ := Stage.judge_of_young hfound (eq_false_of_ne_true hsettled) hlate
  obtain ⟨hwait, -⟩ := Stage.judge_of_wait htimely hjudge
  have hu : u = s.now + length := by
    simp only [u, interval, hlength]
    exact Exact.later_eq_right hwait
  have hcall : call = Stage.expectUntil S.life patterns limit s.now (fuel + 1) (Stage.lull S.life length s) := by
    simp only [call]
    rw [Stage.expectUntil_succ, hjudge]
  rcases hr.lull_cases length h hwait with ⟨hnow, hsame⟩ | ⟨i, hi, hnow, -⟩
  · have hfound' : Finding.search patterns (Stage.lull S.life length s).world.session.buffer = some f := by
      rw [hsame.buffer]
      exact hfound
    have hsettled' : (Stage.lull S.life length s).world.settled (Stage.lull S.life length s).now := by
      refine (Stage.settled_iff ?_).2 (.inr ?_)
      · rw [hsame.conduct]
        exact hpartial
      · rw [hsame.conduct, hsame.lastRead, hnow, ← hu]
        exact hquiet
    rw [Stage.expectUntil_of_settled hfound' hsettled'] at hcall
    rw [hcall]
    refine ⟨?_, ?_⟩
    · exact congrArg Except.ok (Stage.consume_congr hsame.buffer f _).1
    · rw [hu, ← hnow]
      exact Exact.le_refl _
  · -- What has come in has come in during the call.
    obtain ⟨hlinked, hread⟩ := lull_keeps hs length h htimely
    obtain ⟨last, ⟨-, -, hafter, -⟩, hlook⟩ := hr.expectUntil_lasts hs patterns limit s.now (fuel + 1) hlinked hread
    rw [← hcall] at hlook
    rw [← hlook.now_eq, hnow] at hafter
    exact absurd (hundisturbed i hi) (Exact.not_lt hafter)

theorem expectAny_undisturbed (hr : Restful S G) (hs : Steady S fun (_ : T) _ => G)
    (hpartial : s.world.session.conduct.partialMatch = false) {targets : List Target}
    (htargets : Target.compileAll s.world.session.conduct.engine targets = .ok patterns) (limit : Option (Span T))
    (h : Linked S G s.world)
    (htimely : s.world.Timely s.now) {f : Finding} (hfound : Finding.search patterns s.world.session.buffer = some f) :
    let interval := s.world.session.conduct.checkInterval
    let call := Stage.expectAny S.life targets limit s
    let u := Moment.later s.now
      (Moment.shorter (s.now + (limit.getD s.world.session.timeout).length) (s.now + interval))
    (∀ i ∈ Instant.arrivals (Instant.course S.life (⟨s.now, []⟩ :: s.agenda) ⟨s.now, s.world⟩), call.2.now < i.now) →
      interval ≤ u - s.world.session.lastRead →
        call.1 = .ok (s.world.consume f (call.2.now - s.now)).1 ∧ call.2.now ≤ u := by
  simp only [Stage.expectAny, htargets]
  exact hr.expectUntil_undisturbed hs hpartial _ (4 * s.agenda.length + 6) h htimely hfound

end Restful

namespace Rehearsal

variable [Exact T]

/-- **Waiting for quiet ends.** Without partial matches and on an exact clock, whatever the interval of quiet, the limit
and the targets, and whatever is still to come in: a call ends, at its deadline at the latest, or at once if that has
passed. It makes a match only if the output has ended, or if the last chunk, or the beginning of the session if there
was none, is an interval old. It runs out of time only exactly then, and only if nothing matches or the last chunk is
younger than an interval; else it fails because the output has ended without a match. If there is a match when the call
begins and nothing comes in while it lasts, that is the match it makes, by the time `u` when it has waited for an
interval, or until its deadline, provided that the output has been quiet for an interval at `u`. What runs come to is
heard. -/
theorem quiet_call_ends (awaited : Bool) (hookError : Option (Option Failure)) (c : Conduct T)
    (hpartial : c.partialMatch = false) (timeout : Span T) (now : T) (agenda : List (Appointment T Cue))
    (d : Desk Company) (hprompt : d.process.lead.output.Prompt) :
    let S := Company.setting awaited hookError
    let start := S.opened c timeout now agenda d
    (∀ times t l st, Heard S now start.world times t l st →
      ∀ targets patterns limit agenda faults, Target.compileAll c.engine targets = .ok patterns →
        let span := limit.getD st.session.timeout
        let deadline := t + span.length
        let call := Stage.expectAny S.life targets limit ⟨t, agenda, faults, st⟩
        let arrivals := Instant.arrivals (Instant.course S.life (⟨t, []⟩ :: agenda) ⟨t, st⟩)
        let u := Moment.later t (Moment.shorter deadline (t + c.checkInterval))
        (∃ more, Heard S now start.world (times ++ more) call.2.now (l ++ Match.ofOutcome call.1) call.2.world ∧
          let quiet := c.checkInterval ≤ call.2.now - (times ++ more).getLastD now
          t ≤ call.2.now ∧ call.2.now ≤ Moment.later t deadline ∧
            (call.1.isOk → call.2.world.session.eof ∨ quiet) ∧
            ∀ e, call.1 = .error e →
              e = .expectEnd (some (patterns.map fun p => Value.text p.source)) ∧ call.2.world.session.eof ∧
                  Finding.search patterns call.2.world.session.buffer = none ∨
                e = .expectTimeout (some (patterns.map fun p => Value.text p.source, span.written)) ∧
                  call.2.now = Moment.later t deadline ∧
                  (Finding.search patterns call.2.world.session.buffer = none ∨ ¬ quiet)) ∧
        ∀ f, Finding.search patterns st.session.buffer = some f → (∀ i ∈ arrivals, call.2.now < i.now) →
          c.checkInterval ≤ u - times.getLastD now →
            call.1 = .ok (st.consume f (call.2.now - t)).1 ∧ call.2.now ≤ u) ∧
    ∀ deeds, ∃ times, Heard S now start.world times (Deed.run S.life deeds start).2.now
      (Deed.allTaken S.life deeds start) (Deed.run S.life deeds start).2.world := by
  intro S start
  have hr := Company.restful awaited hookError c
  have hs : Steady S fun (_ : T) _ => Company.Prompt c := Company.prompt_steady c
  have hlink : start.world.session.link = S.link := S.opened_link c timeout now agenda d
  have hread : start.world.session.lastRead = now := by
    obtain ⟨starts, reader, waiter, heq, -⟩ := S.opened_world c timeout now agenda d
    rw [show start.world = _ from heq]
    rfl
  refine ⟨?_, ?_⟩
  · intro times t l st hheard targets patterns limit agenda' faults htargets span deadline call arrivals u
    have hready : Linked S (Company.Prompt c) st :=
      hs.reached ⟨hlink, Company.prompt_opened c timeout now agenda hprompt⟩ hheard.reached
    have htimely : Linked S (Stage.Timely t) st :=
      Stage.Timely.steady.reached ⟨hlink, Stage.Timely.opened c timeout now agenda d⟩ hheard.reached
    have hlast : st.session.lastRead = times.getLastD now := by rw [hheard.lastRead_eq, hread]
    have hconduct : st.session.conduct = c := hready.2.2
    rw [← hconduct] at htargets
    refine ⟨?_, ?_⟩
    · have hcalled : Reached S t st call.2.now (Match.ofOutcome call.1) call.2.world :=
        Reached.kept.expectAny targets limit ⟨t, agenda', faults, st⟩ .start
      obtain ⟨more, hmore⟩ := hheard.onward hcalled
      have hlast' : call.2.world.session.lastRead = (times ++ more).getLastD now := by rw [hmore.lastRead_eq, hread]
      have hanswers := hr.expectAny_answers (s := ⟨t, agenda', faults, st⟩) hs (fun st hst => hst.2) hpartial htargets limit
        hready htimely.2
      refine ⟨more, hmore, ?_⟩
      rw [← hlast']
      exact hanswers
    · intro f hfound hundisturbed hquiet
      have htaken := hr.expectAny_undisturbed (s := ⟨t, agenda', faults, st⟩) hs (by rw [hconduct]; exact hpartial) htargets
        limit hready htimely.2 hfound
      rw [hconduct, hlast] at htaken
      exact htaken hundisturbed hquiet
  · intro deeds
    obtain ⟨times, htimes⟩ := Heard.start.onward (Reached.run deeds start)
    exact ⟨times, htimes⟩

/-- A match is taken after three ticks of quiet. -/
def unhurried : Conduct Int := { reading .utf8 with partialMatch := false, checkInterval := 3 }

/-- A session that has read a letter at its beginning. -/
def lettered : Scene Int (Stage Int Company) Cue :=
  (Deed.run (Company.setting false none).life [.move (.feed [0x61]), .settle]
    ((Company.setting false none).opened unhurried ⟨5, .none⟩ 0 [] { process := {} })).2

/-- The letter is taken exactly at the deadline if it is old enough then, and else time is up. -/
theorem letter_taken_at_deadline :
    let call (ticks : Int) := Stage.expectAny (Company.setting false none).life [.source "a"] (some ⟨ticks, .none⟩)
      ⟨0, [], [], lettered.world⟩
    ((call 3).1.isOk ∧ (call 3).2.now = 3) ∧
      (call 2).1 = .error (.expectTimeout (some ([.text "a"], .none))) ∧ (call 2).2.now = 2 := by
  intro call
  obtain ⟨hcalls, hruns⟩ := quiet_call_ends false none unhurried rfl ⟨5, .none⟩ 0 [] { process := {} } trivial
  obtain ⟨times, htimes⟩ := hruns [.move (.feed [0x61]), .settle]
  have hnow : lettered.now = 0 := by decide +kernel
  have hread : times.getLastD 0 = 0 := by
    have hlast : lettered.world.session.lastRead = 0 := by decide +kernel
    exact htimes.lastRead_eq.symm.trans hlast
  have hheard := hcalls times lettered.now _ lettered.world htimes [.source "a"] (compiled "a")
  rw [hnow, hread] at hheard
  refine ⟨⟨?_, by decide +kernel⟩, ?_⟩
  · obtain ⟨-, hfound⟩ := hheard (some ⟨3, .none⟩) [] [] rfl
    have hmatch : (Finding.search (compiled "a") lettered.world.session.buffer).isSome := by decide +kernel
    obtain ⟨f, hf⟩ := Option.isSome_iff_exists.1 hmatch
    have halone : (Instant.arrivals (Instant.course (Company.setting false none).life [⟨0, []⟩]
        ⟨0, lettered.world⟩)).isEmpty := by decide +kernel
    rw [List.isEmpty_iff.1 halone] at hfound
    obtain ⟨htaken, -⟩ := hfound f hf (fun i hi => absurd hi List.not_mem_nil) (by decide +kernel)
    rw [show (call 3).1 = _ from htaken]
    rfl
  · obtain ⟨⟨more, -, -, -, -, herror⟩, -⟩ := hheard (some ⟨2, .none⟩) [] [] rfl
    have hopen : (call 2).1.isOk = false ∧ (call 2).2.world.session.eof = false := by decide +kernel
    cases hcall : (call 2).1 with
    | ok taken =>
      rw [hcall] at hopen
      cases hopen.1
    | error e =>
      rcases herror e hcall with ⟨-, heof, -⟩ | ⟨rfl, hdeadline, -⟩
      · exact absurd (hopen.2.symm.trans heof) nofun
      · exact ⟨rfl, hdeadline⟩

end Rehearsal

end Dialogue
