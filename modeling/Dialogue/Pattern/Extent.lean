import Dialogue.Pattern.Matcher
/-!
# The extent of a match

A match lies within its text, and it does not end before it starts (`searchFrom_within`). What could lead out of the text
is a look-around, which moves the machine to the left and back; so the invariant of the machine says of everything
that is still to be matched, and of everything that could be tried instead, where it lands.
-/

namespace Dialogue.Pattern

variable {text : Array Char} {low high : Nat}

/-- From that position the frames do not end the match before `low`. What is behind the end of a look-around starts
where the look-around did, and what must not match does not end the match at all. -/
def Lands (low : Nat) : List Frame → Nat → Prop
  | [], position => low ≤ position
  | .goBack position _ :: stack, _ => Lands low stack position
  | .refuse _ :: _, _ => True
  | .step _ :: stack, position => Lands low stack position
  | .close _ :: stack, position => Lands low stack position
  | .again .. :: stack, position => Lands low stack position
  | .commit _ :: stack, position => Lands low stack position

/-- What does not end before `low` does not from further on either. -/
theorem Lands.mono {stack : List Frame} {position position' : Nat} (h : Lands low stack position)
    (hle : position ≤ position') : Lands low stack position' := by
  induction stack with
  | nil => exact Nat.le_trans h hle
  | cons frame stack ih =>
    cases frame with
    | goBack | refuse => exact h
    | step | close | again | commit => exact ih h

mutual

/-- A frame that leads nowhere else than between `low` and `high`. -/
inductive Frame.Within (low high : Nat) : Frame → Prop
  | step (s : Step) : Frame.Within low high (.step s)
  | close (group : Nat) : Frame.Within low high (.close group)
  | again {greed min max body count last kept} : (∀ c ∈ kept, Choice.Within low high c) →
      Frame.Within low high (.again greed min max body count last kept)
  | commit {kept} : (∀ c ∈ kept, Choice.Within low high c) → Frame.Within low high (.commit kept)
  | goBack {position kept} : position ≤ high → (∀ c ∈ kept, Choice.Within low high c) →
      Frame.Within low high (.goBack position kept)
  | refuse {kept} : (∀ c ∈ kept, Choice.Within low high c) → Frame.Within low high (.refuse kept)

/-- A choice that leads nowhere else. -/
inductive Choice.Within (low high : Nat) : Choice → Prop
  | resume {stack position marks} : (∀ f ∈ stack, Frame.Within low high f) → Lands low stack position →
      position ≤ high → Choice.Within low high (.resume stack position marks)
  | shrink {stack first position marks} : (∀ f ∈ stack, Frame.Within low high f) → Lands low stack first →
      first ≤ position → position ≤ high → Choice.Within low high (.shrink stack first position marks)
  | grow {stack m o position left marks} : (∀ f ∈ stack, Frame.Within low high f) → Lands low stack position →
      position ≤ high → Choice.Within low high (.grow stack m o position left marks)

end

/-- A machine that goes nowhere else. -/
structure Machine.Within (low high : Nat) (m : Machine) : Prop where
  stack : ∀ f ∈ m.stack, f.Within low high
  lands : Lands low m.stack m.position
  position : m.position ≤ high
  choices : ∀ c ∈ m.choices, c.Within low high

/-- What a step leads to goes nowhere else; where the match ends is there. -/
def Turn.Within (low high : Nat) : Turn → Prop
  | .next m => m.Within low high
  | .matched m => low ≤ m.position ∧ m.position ≤ high
  | .failed => True

/-! ## Characters -/

theorem lt_size_of_charAt {position c : Nat} (h : charAt? text position = some c) : position < text.size := by
  unfold charAt? at h
  obtain ⟨_, hc, -⟩ := Option.map_eq_some_iff.1 h
  exact (Array.getElem?_eq_some_iff.1 hc).1

theorem lt_size_of_passesAt {m : Mode} {o : One} {position : Nat} (h : passesAt text m o position) :
    position < text.size := by
  unfold passesAt at h
  cases hc : charAt? text position with
  | none => rw [hc] at h; cases h
  | some c => exact lt_size_of_charAt hc

theorem runEnd_bounds (text : Array Char) (m : Mode) (o : One) (position : Nat) (left : Option Nat) (fuel : Nat) :
    position ≤ runEnd text m o position left fuel ∧ runEnd text m o position left fuel ≤ position + fuel := by
  induction fuel generalizing position left with
  | zero => exact ⟨Nat.le_refl _, Nat.le_refl _⟩
  | succ fuel ih =>
    unfold runEnd
    split
    · exact ⟨Nat.le_refl _, Nat.le_add_right _ _⟩
    · obtain ⟨hfrom, hto⟩ := ih (position + 1) (left.map (· - 1))
      omega

/-- A stretch that occurs again ends within the text. -/
theorem repeatsAt_bound {f : Folding} {first last position : Nat} (h : repeatsAt text f first last position)
    (hposition : position ≤ text.size) : position + (last - first) ≤ text.size := by
  rcases Nat.eq_zero_or_pos (last - first) with hnone | hsome
  · omega
  · have hlast := (List.all_eq_true.1 h) (last - first - 1) (List.mem_range.2 (by omega))
    split at hlast
    · next hc =>
      have hlt := lt_size_of_charAt hc
      omega
    · cases hlast

/-! ## One step of the machine -/

namespace Machine

variable {m : Machine}

theorem retreat_within {choices : List Choice} (h : ∀ c ∈ choices, c.Within low text.size) :
    (retreat text choices).Within low text.size := by
  induction choices with
  | nil => exact trivial
  | cons choice choices ih =>
    obtain ⟨hchoice, hrest⟩ := List.forall_mem_cons.1 h
    cases hchoice with
    | resume hstack hlands hposition => exact ⟨hstack, hlands, hposition, hrest⟩
    | @shrink stack first position marks hstack hlands hle hposition =>
      refine ⟨hstack, hlands.mono hle, hposition, ?_⟩
      split
      · next hlt =>
        refine List.forall_mem_cons.2 ⟨?_, hrest⟩
        exact .shrink hstack hlands (by omega) (by omega)
      · exact hrest
    | @grow stack mode o position left marks hstack hlands hposition =>
      unfold retreat
      split
      · exact ih hrest
      · next hpasses =>
        have hpass : passesAt text mode o position := by
          rw [Bool.or_eq_true, not_or] at hpasses
          simpa using hpasses.2
        have hnext : position + 1 ≤ text.size := lt_size_of_passesAt hpass
        have hlands' := hlands.mono (Nat.le_succ position)
        exact ⟨hstack, hlands', hnext, List.forall_mem_cons.2 ⟨.grow hstack hlands' hnext, hrest⟩⟩

theorem loopOne_within (h : m.Within low text.size) (greed : Greed) (min : Nat) (max : Option Nat) (mode : Mode)
    (o : One) : (loopOne text greed min max mode o m).Within low text.size := by
  obtain ⟨hstack, hlands, hposition, hchoices⟩ := h
  simp only [loopOne]
  generalize (if greed = .lazy then some min else max) = limit
  obtain ⟨hfrom, hto⟩ := runEnd_bounds text mode o m.position limit (text.size - m.position)
  have hend : runEnd text mode o m.position limit (text.size - m.position) ≤ text.size := by omega
  generalize runEnd text mode o m.position limit (text.size - m.position) = stop at hfrom hend ⊢
  have hstop := hlands.mono hfrom
  split
  · exact retreat_within hchoices
  · next hreached =>
    cases greed with
    | possessive => exact ⟨hstack, hstop, hend, hchoices⟩
    | greedy =>
      dsimp only
      split
      · refine ⟨hstack, hstop, hend, List.forall_mem_cons.2 ⟨?_, hchoices⟩⟩
        exact .shrink hstack (hlands.mono (Nat.le_add_right _ _)) (by omega) (by omega)
      · exact ⟨hstack, hstop, hend, hchoices⟩
    | lazy => exact ⟨hstack, hstop, hend, List.forall_mem_cons.2 ⟨.grow hstack hstop hend, hchoices⟩⟩

theorem again_within (h : m.Within low high) {kept : List Choice} (hkept : ∀ c ∈ kept, c.Within low high)
    (greed : Greed) (min : Nat) (max : Option Nat) (body : Step) (count : Nat) (last : Option Nat) :
    (m.again greed min max body count last kept).Within low high := by
  -- Dropping the choices of earlier rounds leaves the rest as it is.
  have hdropped : (if greed = .possessive then { m with choices := kept } else m).Within low high := by
    split
    · exact ⟨h.stack, h.lands, h.position, hkept⟩
    · exact h
  unfold again
  generalize (if greed = .possessive then { m with choices := kept } else m) = m' at hdropped ⊢
  obtain ⟨hstack, hlands, hposition, hchoices⟩ := hdropped
  have hround (last : Option Nat) :
      ∀ f ∈ Frame.step body :: .again greed min max body (count + 1) last kept :: m'.stack, f.Within low high :=
    List.forall_mem_cons.2 ⟨.step body, List.forall_mem_cons.2 ⟨.again hkept, hstack⟩⟩
  dsimp only
  split
  · exact ⟨hround last, hlands, hposition, hchoices⟩
  · split
    · cases greed with
      | lazy =>
        refine ⟨hstack, hlands, hposition, List.forall_mem_cons.2 ⟨?_, hchoices⟩⟩
        exact .resume (hround _) hlands hposition
      | greedy | possessive =>
        refine ⟨hround _, hlands, hposition, List.forall_mem_cons.2 ⟨?_, hchoices⟩⟩
        exact .resume hstack hlands hposition
    · exact ⟨hstack, hlands, hposition, hchoices⟩

/-- Before what must not match the way to go on is kept as a choice. -/
theorem refused_within (h : m.Within low high) (body : Step) {position : Nat} (hposition : position ≤ high) :
    Within low high { m with
      stack := [.step body, .refuse m.choices]
      position
      choices := .resume m.stack m.position m.marks :: m.choices } := by
  refine ⟨?_, trivial, hposition, List.forall_mem_cons.2 ⟨.resume h.stack h.lands h.position, h.choices⟩⟩
  exact List.forall_mem_cons.2 ⟨.step body, List.forall_mem_singleton.2 (.refuse h.choices)⟩

theorem take_within (h : m.Within low text.size) (s : Step) : (m.take text s).Within low text.size := by
  obtain ⟨hstack, hlands, hposition, hchoices⟩ := h
  have hretreat := retreat_within hchoices
  have hbody (body : Step) : ∀ f ∈ Frame.step body :: m.stack, f.Within low text.size :=
    List.forall_mem_cons.2 ⟨.step body, hstack⟩
  cases s with
  | empty => exact ⟨hstack, hlands, hposition, hchoices⟩
  | one mode o =>
    unfold take
    dsimp only
    split
    · next hpass => exact ⟨hstack, hlands.mono (Nat.le_succ _), lt_size_of_passesAt hpass, hchoices⟩
    · exact hretreat
  | place mode p =>
    unfold take
    dsimp only
    split
    · exact ⟨hstack, hlands, hposition, hchoices⟩
    · exact hretreat
  | cat a b => exact ⟨List.forall_mem_cons.2 ⟨.step a, hbody b⟩, hlands, hposition, hchoices⟩
  | either a b =>
    refine ⟨hbody a, hlands, hposition, List.forall_mem_cons.2 ⟨?_, hchoices⟩⟩
    exact .resume (hbody b) hlands hposition
  | group g body =>
    exact ⟨List.forall_mem_cons.2 ⟨.step body, List.forall_mem_cons.2 ⟨.close g, hstack⟩⟩, hlands, hposition, hchoices⟩
  | atomic body =>
    refine ⟨List.forall_mem_cons.2 ⟨.step body, List.forall_mem_cons.2 ⟨?_, hstack⟩⟩, hlands, hposition, hchoices⟩
    exact .commit hchoices
  | loop greed min max body =>
    have hwithin : m.Within low text.size := ⟨hstack, hlands, hposition, hchoices⟩
    cases body with
    | one mode o => exact loopOne_within hwithin greed min max mode o
    | _ => exact again_within hwithin hchoices greed min max _ 0 none
  | reference mode g =>
    unfold take
    dsimp only
    split
    · split
      · next hrepeats =>
        have hend := repeatsAt_bound hrepeats hposition
        exact ⟨hstack, hlands.mono (Nat.le_add_right _ _), hend, hchoices⟩
      · exact hretreat
    · exact hretreat
  | condition g yes no => exact ⟨hbody _, hlands, hposition, hchoices⟩
  | ahead negated body =>
    cases negated with
    | false =>
      refine ⟨List.forall_mem_cons.2 ⟨.step body, List.forall_mem_cons.2 ⟨?_, hstack⟩⟩, hlands, hposition, hchoices⟩
      exact .goBack hposition hchoices
    | true => exact refused_within ⟨hstack, hlands, hposition, hchoices⟩ body hposition
  | behind width negated body =>
    cases negated with
    | false =>
      unfold take
      dsimp only
      split
      · exact hretreat
      · refine ⟨List.forall_mem_cons.2 ⟨.step body, List.forall_mem_cons.2 ⟨?_, hstack⟩⟩, hlands, ?_, hchoices⟩
        · exact .goBack hposition hchoices
        · exact Nat.le_trans (Nat.sub_le _ _) hposition
    | true =>
      unfold take
      dsimp only
      split
      · exact ⟨hstack, hlands, hposition, hchoices⟩
      · exact refused_within ⟨hstack, hlands, hposition, hchoices⟩ body (Nat.le_trans (Nat.sub_le _ _) hposition)

theorem turn_within (h : m.Within low text.size) : (m.turn text).Within low text.size := by
  obtain ⟨hstack, hlands, hposition, hchoices⟩ := h
  rcases m with ⟨_ | ⟨frame, stack⟩, position, marks, choices⟩
  · exact ⟨hlands, hposition⟩
  obtain ⟨hframe, hrest⟩ := List.forall_mem_cons.1 hstack
  cases hframe with
  | step s => exact take_within (m := ⟨stack, position, marks, choices⟩) ⟨hrest, hlands, hposition, hchoices⟩ s
  | close group => exact ⟨hrest, hlands, hposition, hchoices⟩
  | again hkept =>
    exact again_within (m := ⟨stack, position, marks, choices⟩) ⟨hrest, hlands, hposition, hchoices⟩ hkept ..
  | commit hkept => exact ⟨hrest, hlands, hposition, hkept⟩
  | goBack hback hkept => exact ⟨hrest, hlands, hback, hkept⟩
  | refuse hkept => exact retreat_within hkept

/-- Where a run ends is between the bounds. -/
theorem run_within {m' : Machine} {fuel : Nat} (h : m.Within low text.size) (hrun : m.run text fuel = some m') :
    low ≤ m'.position ∧ m'.position ≤ text.size := by
  induction fuel generalizing m with
  | zero => cases hrun
  | succ fuel ih =>
    unfold run at hrun
    have hturn := turn_within h
    cases hm : m.turn text with
    | next next =>
      rw [hm] at hrun hturn
      exact ih hturn hrun
    | matched last =>
      rw [hm] at hrun hturn
      obtain rfl := Option.some.inj hrun
      exact hturn
    | failed =>
      rw [hm] at hrun
      cases hrun

end Machine

/-! ## Searching -/

variable {program : Step} {groups start : Nat} {hit : Hit}

theorem matchAt_within (hstart : start ≤ text.size) (h : matchAt program groups text start = some hit) :
    hit.start = start ∧ start ≤ hit.stop ∧ hit.stop ≤ text.size := by
  obtain ⟨m, hrun, rfl⟩ := Option.map_eq_some_iff.1 h
  have hstack : ∀ f ∈ [Frame.step program], f.Within start text.size := List.forall_mem_singleton.2 (.step program)
  have hchoices : ∀ c ∈ ([] : List Choice), c.Within start text.size := nofun
  exact ⟨rfl, Machine.run_within ⟨hstack, Nat.le_refl _, hstart, hchoices⟩ hrun⟩

/-- **A match lies within its text.** -/
theorem searchFrom_within {fuel : Nat} (hfuel : start + fuel ≤ text.size)
    (h : searchFrom program groups text start fuel = some hit) :
    start ≤ hit.start ∧ hit.start ≤ hit.stop ∧ hit.stop ≤ text.size := by
  induction fuel generalizing start with
  | zero =>
    have hmatch : matchAt program groups text start = some hit := h
    obtain ⟨heq, hle, hsize⟩ := matchAt_within (Nat.le_of_add_right_le hfuel) hmatch
    omega
  | succ fuel ih =>
    unfold searchFrom at h
    cases hmatch : matchAt program groups text start with
    | some first =>
      rw [hmatch] at h
      obtain rfl := Option.some.inj h
      obtain ⟨heq, hle, hsize⟩ := matchAt_within (by omega) hmatch
      omega
    | none =>
      rw [hmatch] at h
      obtain ⟨hfirst, hle, hsize⟩ := ih (by omega) h
      omega

end Dialogue.Pattern
