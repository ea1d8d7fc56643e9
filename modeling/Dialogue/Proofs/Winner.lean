import Dialogue.Proofs.Calls
import Dialogue.Proofs.Ending
/-!
# Which pattern wins

Of several patterns the one wins whose match starts earliest, and of those that start there the one that is listed
first (`Finding.Wins`). The search finds the winner and nothing else (`Finding.search_eq_some_iff`), so neither the
order of the patterns nor further patterns can make the match start later. A call takes the output up to the end of
the winning match, and looks at nothing before all its targets are compiled (`Stage.winner_taken`).
-/

namespace Dialogue

namespace Finding

variable {text : Array Char} {patterns : List Pattern} {p : Pattern} {f : Finding} {n : Nat}

/-- A finding that wins: it is what the pattern in its place finds; no other pattern finds anything that starts
earlier, and none that is listed before it anything that starts there too. -/
structure Wins (patterns : List Pattern) (text : Array Char) (f : Finding) : Prop where
  listed : patterns[f.index]? = some f.pattern
  found : f.pattern.search text = some f.found
  first : ∀ j q m, patterns[j]? = some q → q.search text = some m →
    f.found.start ≤ m.start ∧ (j < f.index → f.found.start < m.start)

/-- The first of the patterns wins if no other match starts earlier. -/
theorem Wins.head {m : Pattern.Found} (hp : p.search text = some m)
    (hrest : ∀ q ∈ patterns, ∀ m', q.search text = some m' → m.start ≤ m'.start) :
    Wins (p :: patterns) text ⟨p, 0, m⟩ where
  listed := rfl
  found := hp
  first := by
    intro j q m' hq hm'
    refine ⟨?_, nofun⟩
    rcases List.mem_cons.1 (List.mem_of_getElem? hq) with rfl | hmem
    · rw [hp] at hm'
      obtain rfl := Option.some.inj hm'
      exact Nat.le_refl _
    · exact hrest q hmem m' hm'

/-- A winner wins against one more pattern in front if what that one finds starts later. -/
theorem Wins.tail (h : f.Wins patterns text) (hp : ∀ m, p.search text = some m → f.found.start < m.start) :
    Wins (p :: patterns) text { f with index := f.index + 1 } where
  listed := h.listed
  found := h.found
  first := by
    intro j q m hq hm
    cases j with
    | zero =>
      obtain rfl := Option.some.inj hq
      have hlater := hp m hm
      exact ⟨Nat.le_of_lt hlater, fun _ => hlater⟩
    | succ j =>
      obtain ⟨hle, hlt⟩ := h.first j q m hq hm
      exact ⟨hle, fun hj => hlt (Nat.lt_of_succ_lt_succ hj)⟩

/-- There is one winner only. -/
theorem Wins.unique {g : Finding} (hf : f.Wins patterns text) (hg : g.Wins patterns text) : f = g := by
  have hle := hf.first g.index g.pattern g.found hg.listed hg.found
  have hge := hg.first f.index f.pattern f.found hf.listed hf.found
  have hindex : f.index = g.index := by
    rcases Nat.lt_trichotomy f.index g.index with hlt | heq | hlt
    · have := hge.2 hlt
      omega
    · exact heq
    · have := hle.2 hlt
      omega
  have hpattern : f.pattern = g.pattern := by
    have hlisted := hf.listed
    rw [hindex, hg.listed] at hlisted
    exact (Option.some.inj hlisted).symm
  have hfound : f.found = g.found := by
    have hsearch := hf.found
    rw [hpattern, hg.found] at hsearch
    exact (Option.some.inj hsearch).symm
  obtain ⟨_, _, _⟩ := f
  obtain ⟨_, _, _⟩ := g
  cases hindex
  cases hpattern
  cases hfound
  rfl

theorem searchFrom_eq_none_iff :
    searchFrom text n patterns = none ↔ ∀ p ∈ patterns, p.search text = none := by
  induction patterns generalizing n with
  | nil => exact ⟨fun _ => nofun, fun _ => rfl⟩
  | cons p ps ih =>
    rw [List.forall_mem_cons, ← ih (n := n + 1)]
    cases hp : p.search text <;> cases hps : searchFrom text (n + 1) ps <;> simp [searchFrom, hp, hps]

/-- What the search from a place on finds wins among the patterns from there on. -/
theorem searchFrom_wins (h : searchFrom text n patterns = some f) :
    ∃ i, f.index = n + i ∧ Wins patterns text { f with index := i } := by
  induction patterns generalizing n f with
  | nil => cases h
  | cons p ps ih =>
    unfold searchFrom at h
    cases hp : p.search text with
    | none =>
      rw [hp] at h
      obtain ⟨i, hindex, hwins⟩ := ih h
      refine ⟨i + 1, by omega, hwins.tail ?_⟩
      intro m hm
      rw [hp] at hm
      cases hm
    | some m =>
      cases hps : searchFrom text (n + 1) ps with
      | none =>
        rw [hp, hps] at h
        obtain rfl := Option.some.inj h
        refine ⟨0, rfl, Wins.head hp ?_⟩
        intro q hq m' hm'
        rw [searchFrom_eq_none_iff.1 hps q hq] at hm'
        cases hm'
      | some other =>
        rw [hp, hps] at h
        obtain rfl := Option.some.inj h
        obtain ⟨i, hindex, hwins⟩ := ih hps
        unfold earlier
        split
        · next hearlier =>
          refine ⟨i + 1, by omega, hwins.tail ?_⟩
          intro m' hm'
          rw [hp] at hm'
          obtain rfl := Option.some.inj hm'
          exact hearlier
        · next hearlier =>
          refine ⟨0, rfl, Wins.head hp ?_⟩
          intro q hq m' hm'
          obtain ⟨j, hj⟩ := List.getElem?_of_mem hq
          exact Nat.le_trans (Nat.le_of_not_lt hearlier) (hwins.first j q m' hj hm').1

theorem search_eq_none_iff : search patterns text = none ↔ ∀ p ∈ patterns, p.search text = none :=
  searchFrom_eq_none_iff

/-- The search finds the winner. -/
theorem search_eq_some_iff : search patterns text = some f ↔ f.Wins patterns text := by
  have hwinner {g : Finding} (h : search patterns text = some g) : g.Wins patterns text := by
    obtain ⟨i, hindex, hwins⟩ := searchFrom_wins h
    rw [Nat.zero_add] at hindex
    rw [← hindex] at hwins
    exact hwins
  constructor
  · exact hwinner
  · intro hf
    cases hsearch : search patterns text with
    | none =>
      have hnone := search_eq_none_iff.1 hsearch f.pattern (List.mem_of_getElem? hf.listed)
      rw [hf.found] at hnone
      cases hnone
    | some g => exact congrArg some ((hwinner hsearch).unique hf)

/-- With more patterns something is still found, and it starts no later. -/
theorem search_subset {others : List Pattern} (hsubset : patterns ⊆ others) (h : search patterns text = some f) :
    ∃ g, search others text = some g ∧ g.found.start ≤ f.found.start := by
  have hf := search_eq_some_iff.1 h
  have hmem := hsubset (List.mem_of_getElem? hf.listed)
  cases hothers : search others text with
  | none =>
    have hnone := search_eq_none_iff.1 hothers f.pattern hmem
    rw [hf.found] at hnone
    cases hnone
  | some g =>
    obtain ⟨j, hj⟩ := List.getElem?_of_mem hmem
    exact ⟨g, rfl, ((search_eq_some_iff.1 hothers).first j _ _ hj hf.found).1⟩

/-- The order of the patterns does not matter for where the match starts, nor for whether there is one. -/
theorem search_perm {others : List Pattern} (hperm : patterns.Perm others) :
    (search others text).map (·.found.start) = (search patterns text).map (·.found.start) := by
  cases hpatterns : search patterns text with
  | none =>
    cases hothers : search others text with
    | none => rfl
    | some g =>
      obtain ⟨f, hf, -⟩ := search_subset hperm.symm.subset hothers
      rw [hpatterns] at hf
      cases hf
  | some f =>
    obtain ⟨g, hg, hle⟩ := search_subset hperm.subset hpatterns
    obtain ⟨f', hf', hge⟩ := search_subset hperm.symm.subset hg
    rw [hpatterns] at hf'
    obtain rfl := Option.some.inj hf'
    rw [hg]
    exact congrArg some (Nat.le_antisymm hle hge)

/-- What wins lies within the text. -/
theorem Wins.within (h : f.Wins patterns text) : f.found.start ≤ f.found.stop ∧ f.found.stop ≤ text.size :=
  f.pattern.within h.found

end Finding

/-! ## Targets -/

namespace Target

variable {engine : Pattern.Engine}

/-- All targets are compiled, each to its own pattern. -/
theorem compileAll_eq_ok_iff {targets : List Target} {patterns : List Pattern} :
    compileAll engine targets = .ok patterns ↔ targets.map (compile engine) = patterns.map .ok := by
  unfold compileAll
  induction targets generalizing patterns with
  | nil => cases patterns <;> simp [pure, Except.pure]
  | cons t ts ih =>
    rw [List.mapM_cons, List.map_cons]
    cases patterns with
    | nil => cases compile engine t <;> cases ts.mapM (compile engine) <;> simp [pure, Except.pure, bind, Except.bind]
    | cons p ps =>
      rw [List.map_cons, List.cons.injEq, ← ih]
      cases compile engine t <;> cases ts.mapM (compile engine) <;> simp [pure, Except.pure, bind, Except.bind]

/-- The first target that cannot be compiled says why not. -/
theorem compileAll_of_faulty {targets : List Target} (h : ∃ t ∈ targets, (t.compile engine).isOk = false) :
    ∃ before t after e, targets = before ++ t :: after ∧ (∀ t ∈ before, (t.compile engine).isOk) ∧
      t.compile engine = .error e ∧ compileAll engine targets = .error e := by
  unfold compileAll
  induction targets with
  | nil =>
    obtain ⟨t, ht, -⟩ := h
    cases ht
  | cons t ts ih =>
    rw [List.mapM_cons]
    cases hcompile : t.compile engine with
    | error e => exact ⟨[], t, ts, e, rfl, nofun, hcompile, rfl⟩
    | ok p =>
      obtain ⟨t', ht', hfaulty⟩ := h
      rcases List.mem_cons.1 ht' with rfl | ht'
      · rw [hcompile] at hfaulty
        cases hfaulty
      · obtain ⟨before, first, after, e, rfl, hbefore, hfirst, hrest⟩ := ih ⟨t', ht', hfaulty⟩
        refine ⟨t :: before, first, after, e, rfl, List.forall_mem_cons.2 ⟨?_, hbefore⟩, hfirst, ?_⟩
        · rw [hcompile]
          rfl
        · rw [hrest]
          rfl

end Target

/-! ## Calls -/

namespace Stage

variable {T σ M : Type} [Moment T] {st : Stage T σ} {f : Finding}

/-- The output ends with the matched text, and is as long as the match reaches. -/
theorem consume_extent (hstart : f.found.start ≤ f.found.stop) (hstop : f.found.stop ≤ st.session.buffer.size)
    (elapsed : T) :
    (st.consume f elapsed).1.output.length = f.found.stop ∧
      (st.consume f elapsed).1.output.drop f.found.start = (st.consume f elapsed).1.text := by
  simp only [consume]
  constructor
  · rw [Array.length_toList, Array.size_extract]
    omega
  · rw [Array.toList_extract, Array.toList_extract, List.extract_eq_take_drop, List.extract_eq_take_drop]
    rw [List.drop_zero, Nat.sub_zero, List.drop_take]

/-- What a successful call gives back, by its winner. -/
structure Took (patterns : List Pattern) (st : Stage T σ) (taken : Match T) (rest : Stage T σ) (f : Finding) : Prop where
  wins : f.Wins patterns st.session.buffer
  index : taken.index = f.index
  groups : taken.groups = f.found.groups
  start_le : f.found.start ≤ f.found.stop
  length : taken.output.length = f.found.stop
  text : taken.output.drop f.found.start = taken.text
  rest : taken.output ++ rest.before = st.before

theorem took_of_wins {patterns : List Pattern} (hwins : f.Wins patterns st.session.buffer) (elapsed : T) :
    Took patterns st (st.consume f elapsed).1 (st.consume f elapsed).2 f := by
  obtain ⟨hstart, hstop⟩ := hwins.within
  obtain ⟨hlength, htext⟩ := consume_extent hstart hstop elapsed
  exact ⟨hwins, rfl, rfl, hstart, hlength, htext, (st.before_consume f elapsed).symm⟩

/-- What the last look of a call says of its answer. -/
theorem LastLook.answer {patterns : List Pattern} {limit : Span T} {started : T} {last : Scene T (Stage T σ) M}
    {r : Except Failure (Match T) × Scene T (Stage T σ) M} (h : LastLook patterns limit started last r) :
    (∃ taken world f, r = (.ok taken, { last with world }) ∧ Took patterns last.world taken world f) ∨
      ∃ e, r = (.error e, last) ∧ (e = .blocked ∨ (∀ p ∈ patterns, p.search last.world.session.buffer = none) ∨
        last.world.settled last.now = false) := by
  cases h with
  | @found f hsearch =>
    exact .inl ⟨_, _, f, rfl, took_of_wins (Finding.search_eq_some_iff.1 hsearch) _⟩
  | atEnd hsearch => exact .inr ⟨_, rfl, .inr (.inl (Finding.search_eq_none_iff.1 hsearch))⟩
  | late hopen => exact .inr ⟨_, rfl, .inr (hopen.imp_left Finding.search_eq_none_iff.1)⟩
  | blocked => exact .inr ⟨_, rfl, .inl rfl⟩

/-- What may be taken at once is taken at once. -/
theorem expectAny_of_settled {life : Life T (Stage T σ) M} {targets : List Target} {patterns : List Pattern}
    {s : Scene T (Stage T σ) M} (htargets : Target.compileAll s.world.session.conduct.engine targets = .ok patterns)
    (limit : Option (Span T)) (hsettled : s.world.settled s.now) (hmatch : ∃ p ∈ patterns, p.search s.world.session.buffer ≠ none) :
    ∃ taken world f, expectAny life targets limit s = (.ok taken, { s with world }) ∧
      Took patterns s.world taken world f := by
  obtain ⟨p, hp, hmatch⟩ := hmatch
  cases hsearch : Finding.search patterns s.world.session.buffer with
  | none => exact absurd (Finding.search_eq_none_iff.1 hsearch p hp) hmatch
  | some f =>
    refine ⟨_, _, f, ?_, took_of_wins (Finding.search_eq_some_iff.1 hsearch) (s.now - s.now)⟩
    simp only [expectAny, htargets]
    exact expectUntil_of_settled hsearch hsettled (4 * s.agenda.length + 7)

/-- **Which pattern wins.** Patterns may come from any engine, so that nothing is known of a match but that it lies
within its text. The search of a text for several patterns finds the winner: the match that starts earliest, and of
those that start there the one of the pattern listed first. It finds nothing if and only if no pattern matches; the
order of the patterns does not matter for where the winner starts, and with more patterns it starts no later. A call
has its engine compile the targets first, and raises the error of the first that is no pattern before it looks at
anything. If all are patterns, it gives back the winner in the output of its last look: the output up to the end of
the match, with the matched text at its end, and what is left makes up the output that was there; or it fails, and
then, unless it waits for ever, no pattern matches at its last look, or nothing may be taken yet. Where something may
be taken at once, it is. -/
theorem winner_taken (life : Life T (Stage T σ) M) (targets : List Target) (limit : Option (Span T))
    (s : Scene T (Stage T σ) M) :
    let compile := Target.compile s.world.session.conduct.engine
    (∀ (patterns : List Pattern) (text : Array Char),
      (∀ f, Finding.search patterns text = some f ↔ f.Wins patterns text) ∧
      (Finding.search patterns text = none ↔ ∀ p ∈ patterns, p.search text = none) ∧
      (∀ others, patterns.Perm others →
        (Finding.search others text).map (·.found.start) = (Finding.search patterns text).map (·.found.start)) ∧
      ∀ others f, patterns ⊆ others → Finding.search patterns text = some f →
        ∃ g, Finding.search others text = some g ∧ g.found.start ≤ f.found.start) ∧
    ((∃ t ∈ targets, (compile t).isOk = false) → ∃ before t after e, targets = before ++ t :: after ∧
      (∀ t ∈ before, (compile t).isOk) ∧ compile t = .error e ∧ expectAny life targets limit s = (.error e, s)) ∧
    ∀ patterns, targets.map compile = patterns.map .ok →
      (∃ last : Scene T (Stage T σ) M,
        (∃ taken world f, expectAny life targets limit s = (.ok taken, { last with world }) ∧
          Took patterns last.world taken world f) ∨
        ∃ e, expectAny life targets limit s = (.error e, last) ∧
          (e = .blocked ∨ (∀ p ∈ patterns, p.search last.world.session.buffer = none) ∨
            last.world.settled last.now = false)) ∧
      (s.world.settled s.now → (∃ p ∈ patterns, p.search s.world.session.buffer ≠ none) →
        ∃ taken world f, expectAny life targets limit s = (.ok taken, { s with world }) ∧
          Took patterns s.world taken world f) := by
  intro compile
  refine ⟨?_, ?_, ?_⟩
  · intro patterns text
    refine ⟨fun f => Finding.search_eq_some_iff, Finding.search_eq_none_iff, ?_, ?_⟩
    · intro others hperm
      exact Finding.search_perm hperm
    · intro others f hsubset hsearch
      exact Finding.search_subset hsubset hsearch
  · intro hfaulty
    obtain ⟨before, t, after, e, htargets, hbefore, ht, hcompile⟩ := Target.compileAll_of_faulty hfaulty
    refine ⟨before, t, after, e, htargets, hbefore, ht, ?_⟩
    simp only [expectAny, hcompile]
  · intro patterns htargets
    have hcompile := Target.compileAll_eq_ok_iff.2 htargets
    constructor
    · obtain ⟨last, -, hlook⟩ := expectUntil_lastLook life patterns (limit.getD s.world.session.timeout) s.now
        (P := fun _ => True) (fun _ _ _ _ => trivial) (patience s) (s := s) trivial
      simp only [expectAny, hcompile]
      exact ⟨last, hlook.answer⟩
    · intro hsettled hmatch
      exact expectAny_of_settled hcompile limit hsettled hmatch

end Stage

/-- Some output that is looked at before more comes in. -/
def Rehearsal.offered : Scene Int (Stage Int Company) Cue :=
  let session := { crowded.world.session with buffer := #['x', 'a', 'a', 'b'] }
  { crowded with world := { crowded.world with session } }

/-- The second pattern and the third both match from the second character on: the second wins. A malformed pattern and
a target that is none are refused, although there is a match for the one before them. -/
theorem Rehearsal.second_wins :
    let targets : List Target := [.source "b", .source "a", .source "a+"]
    let patterns := compiled "b" ++ compiled "a" ++ compiled "a+"
    targets.map (Target.compile engine) = patterns.map .ok ∧
      (∃ taken world f, Stage.expectAny life targets none offered = (.ok taken, { offered with world }) ∧
        Stage.Took patterns offered.world taken world f ∧ taken.index = 1) ∧
      Stage.expectAny life [.source "a", .source "a*?+b"] none offered =
        (.error (.badPattern "a*?+b" (.malformed .multipleRepeat (some 3))), offered) ∧
      Stage.expectAny life [.source "a", .other .none] none offered = (.error .notAPattern, offered) := by
  intro targets patterns
  have htargets : targets.map (Target.compile engine) = patterns.map .ok := rfl
  have hindex : (Finding.search patterns offered.world.session.buffer).map (·.index) = some 1 := by decide +kernel
  have hrefused (t : Target) (e : Failure) (ht : t.compile engine = .error e) :
      Stage.expectAny life [.source "a", t] none offered = (.error e, offered) := by
    obtain ⟨-, hfaulty, -⟩ := Stage.winner_taken life [.source "a", t] none offered
    obtain ⟨before, t', after, e', heq, -, ht', hcall⟩ := hfaulty ⟨t, by simp, congrArg Except.isOk ht⟩
    rcases before with _ | ⟨_, _ | ⟨_, before⟩⟩
    · cases heq
      cases ht'
    · cases heq
      obtain rfl := Except.error.inj (ht.symm.trans ht')
      exact hcall
    · simp at heq
  obtain ⟨hsearch, -, hcall⟩ := Stage.winner_taken life targets none offered
  refine ⟨htargets, ?_, hrefused _ _ rfl, hrefused _ _ rfl⟩
  · cases hfound : Finding.search patterns offered.world.session.buffer with
    | none =>
      rw [hfound] at hindex
      cases hindex
    | some g =>
      have hg := (hsearch patterns _).1 g |>.1 hfound
      have hmatch : g.pattern.search offered.world.session.buffer ≠ none := by
        rw [hg.found]
        nofun
      obtain ⟨taken, world, f, heq, htook⟩ :=
        (hcall patterns htargets).2 rfl ⟨g.pattern, List.mem_of_getElem? hg.listed, hmatch⟩
      refine ⟨taken, world, f, heq, htook, ?_⟩
      rw [htook.index, htook.wins.unique hg]
      rw [hfound] at hindex
      exact Option.some.inj hindex

end Dialogue
