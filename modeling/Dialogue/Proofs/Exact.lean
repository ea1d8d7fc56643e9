import Dialogue.Moment
/-!
# Exact times

The laws that make a clock exact: its readings are linearly ordered, and a length of time that is added
is the length that was taken off. Whole ticks and fractions of a second obey them, floating-point seconds do not.
On an exact clock steps can be counted (`Counted`): however short they are, enough of them cover any length.
-/

namespace Dialogue.Moment

class Exact (T : Type) [Moment T] : Prop where
  le_total : ∀ a b : T, a ≤ b ∨ b ≤ a
  le_trans : ∀ {a b c : T}, a ≤ b → b ≤ c → a ≤ c
  le_antisymm : ∀ {a b : T}, a ≤ b → b ≤ a → a = b
  lt_iff_not_le : ∀ {a b : T}, a < b ↔ ¬ b ≤ a
  add_assoc : ∀ a b c : T, a + b + c = a + (b + c)
  add_comm : ∀ a b : T, a + b = b + a
  add_zero : ∀ a : T, a + 0 = a
  /-- What is left until `b`, from `a` on. -/
  add_sub : ∀ a b : T, a + (b - a) = b
  add_le_add : ∀ {a b : T} (c : T), a ≤ b → c + a ≤ c + b

instance : Exact Int where
  le_total := Int.le_total
  le_trans := Int.le_trans
  le_antisymm := Int.le_antisymm
  lt_iff_not_le := Int.not_le.symm
  add_assoc := Int.add_assoc
  add_comm := Int.add_comm
  add_zero := Int.add_zero
  add_sub a b := (by omega : a + (b - a) = b)
  add_le_add c h := Int.add_le_add_left h c

/-- Fractions of a second. -/
instance : Moment Rat where
  zero := 0
  decideLE := inferInstance
  decideLT := inferInstance
  rounds length step := (length / step).ceil.toNat
  brief := toString

instance : Exact Rat where
  le_total _ _ := Rat.le_total
  le_trans := Rat.le_trans
  le_antisymm := Rat.le_antisymm
  lt_iff_not_le := Rat.not_le.symm
  add_assoc := Rat.add_assoc
  add_comm := Rat.add_comm
  add_zero := Rat.add_zero
  add_sub a b := (by grind : a + (b - a) = b)
  add_le_add c h := (Rat.add_le_add_left).2 h

variable {T : Type} [Moment T] {a b c : T}

theorem later_le (h : a ≤ c) (h' : b ≤ c) : later a b ≤ c := by
  unfold later
  split
  · exact h'
  · exact h

namespace Exact

variable [Exact T]

theorem le_refl (a : T) : a ≤ a := (le_total a a).elim id id

theorem le_of_lt (h : a < b) : a ≤ b := (le_total a b).resolve_right (lt_iff_not_le.1 h)

theorem not_lt (h : b ≤ a) : ¬ a < b := fun hlt => lt_iff_not_le.1 hlt h

theorem lt_of_not_le (h : ¬ b ≤ a) : a < b := lt_iff_not_le.2 h

theorem le_of_not_lt (h : ¬ a < b) : b ≤ a := Classical.byContradiction fun hn => h (lt_iff_not_le.2 hn)

theorem lt_of_lt_of_le (h : a < b) (h' : b ≤ c) : a < c :=
  lt_iff_not_le.2 fun hca => lt_iff_not_le.1 h (le_trans h' hca)

/-! ## The later of two moments -/

theorem le_later (a b : T) : a ≤ later a b := by
  unfold later
  split
  · next h => exact le_of_lt h
  · exact le_refl a

theorem le_later_right (a b : T) : b ≤ later a b := by
  unfold later
  split
  · exact le_refl b
  · next h => exact le_of_not_lt h

theorem later_eq_right (h : a ≤ b) : later a b = b := le_antisymm (later_le h (le_refl b)) (le_later_right a b)

theorem later_eq_left (h : b ≤ a) : later a b = a := le_antisymm (later_le (le_refl a) h) (le_later a b)

/-! ## Lengths of time -/

theorem add_le_add_iff (c : T) : c + a ≤ c + b ↔ a ≤ b := by
  refine ⟨fun h => ?_, add_le_add c⟩
  have hcancel (x : T) : (0 - c) + (c + x) = x := by
    rw [← add_assoc, add_comm _ c, add_sub, add_comm, add_zero]
  have hle := add_le_add (0 - c) h
  rwa [hcancel, hcancel] at hle

theorem le_add (h : 0 ≤ b) (a : T) : a ≤ a + b := by
  have hle := add_le_add a h
  rwa [add_zero] at hle

theorem not_add_le (h : 0 < b) (a : T) : ¬ a + b ≤ a := by
  intro hle
  rw [← add_zero a, add_assoc, add_le_add_iff, add_comm, add_zero] at hle
  exact not_lt hle h

theorem sub_nonpos : a - b ≤ 0 ↔ a ≤ b := by
  rw [← add_le_add_iff b, add_sub, add_zero]

theorem le_sub_iff : c ≤ b - a ↔ a + c ≤ b := by
  rw [← add_le_add_iff a, add_sub]

theorem shorter_le (a b : T) : shorter a b ≤ a := by
  unfold shorter
  split
  · next h => exact le_of_lt h
  · exact le_refl a

theorem add_shorter (a b c : T) : c + shorter a b = shorter (c + a) (c + b) := by
  have hlt : c + b < c + a ↔ b < a := by rw [lt_iff_not_le, lt_iff_not_le, add_le_add_iff]
  unfold shorter
  simp only [hlt]
  split
  · rfl
  · rfl

end Exact

/-! ## Counting steps -/

/-- So many steps, one after the other. -/
def steps (step : T) : Nat → T
  | 0 => 0
  | n + 1 => steps step n + step

/-- Steps can be counted: `rounds` is the least number of them that cover a length, and zero for a length that is not
positive. -/
class Counted (T : Type) [Moment T] : Prop where
  rounds_le_iff : ∀ {length step : T} {n : Nat}, 0 < step → (rounds length step ≤ n ↔ length ≤ steps step n)

theorem steps_int (step : Int) (n : Nat) : steps step n = n * step := by
  induction n with
  | zero => exact (Int.zero_mul step).symm
  | succ n ih =>
    change steps step n + step = _
    rw [ih, Int.natCast_succ, Int.add_mul, Int.one_mul]

theorem steps_rat (step : Rat) (n : Nat) : steps step n = n * step := by
  induction n with
  | zero => exact (Rat.zero_mul step).symm
  | succ n ih =>
    change steps step n + step = _
    rw [ih, Rat.natCast_add, Rat.add_mul]
    exact congrArg (n * step + ·) (Rat.one_mul step).symm

instance : Counted Int where
  rounds_le_iff {length step n} hstep := by
    have hstep : (0 : Int) < step := hstep
    change ((length + step - 1) / step).toNat ≤ n ↔ (length : Int) ≤ steps step n
    rw [steps_int, Int.toNat_le, Int.ediv_le_iff_le_mul hstep]
    omega

instance : Counted Rat where
  rounds_le_iff {length step n} hstep := by
    have hstep : (0 : Rat) < step := hstep
    have hcancel : length / step * step = length := Rat.div_mul_cancel (Rat.ne_of_gt hstep)
    change (length / step).ceil.toNat ≤ n ↔ (length : Rat) ≤ steps step n
    rw [steps_rat, Int.toNat_le, Rat.ceil_le_iff, Rat.intCast_natCast]
    constructor
    · intro h
      have hle := Rat.mul_le_mul_of_nonneg_right h (Rat.le_of_lt hstep)
      rwa [hcancel] at hle
    · intro h
      apply Rat.le_of_mul_le_mul_right _ hstep
      rwa [hcancel]

end Dialogue.Moment
