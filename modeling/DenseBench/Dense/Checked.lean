/-!
# Checked computations

A loop nest over dense arrays can go wrong in two ways only: it touches an element outside an array,
or it takes a remainder by zero while computing an element.  `Checked` is the result of such a nest,
and `sweep` is its only loop: an ascending range of indices with a state that every step replaces.
The first step that fails ends the range.  Differences of indices are taken by a `Subtraction`,
which is free to do anything below zero.
-/

namespace DenseBench

/-- What can go wrong while elements are computed. -/
inductive Fault where
  | indexOutOfBounds
  | remainderByZero
  deriving DecidableEq, Repr

/-- A value, or the first fault met on the way to it. -/
abbrev Checked (α : Type) : Type :=
  Except Fault α

/-- The remainder of `n` by `d`, a fault when `d` is zero. -/
@[inline]
def remainder (n d : Nat) : Checked Nat :=
  if d = 0 then .error .remainderByZero else .ok (n % d)

theorem remainder_of_pos {n d : Nat} (positive : 0 < d) : remainder n d = .ok (n % d) := by
  simp [remainder, Nat.pos_iff_ne_zero.mp positive]

@[simp]
theorem remainder_zero (n : Nat) : remainder n 0 = .error .remainderByZero := rfl

/-- A way to take differences of indices.  It is settled only where the difference is an index; what
happens below zero is left open. -/
structure Subtraction where
  /-- The difference of `n` and `d`. -/
  difference (n d : Nat) : Checked Nat
  /-- A difference that is not below zero is computed. -/
  exact (n d : Nat) : d ≤ n → difference n d = .ok (n - d)

/-- The subtraction that stops at zero. -/
def Subtraction.standard : Subtraction where
  difference n d := .ok (n - d)
  exact _ _ _ := rfl

/-- Apply `body` at `start`, `start + 1`, … for `count` indices, passing the state along. -/
@[specialize]
def steps {σ : Type} (body : Nat → σ → Checked σ) : Nat → Nat → σ → Checked σ
  | 0, _, state => .ok state
  | count + 1, start, state =>
    match body start state with
    | .ok next => steps body count (start + 1) next
    | .error fault => .error fault

/-- Apply `body` at every index `i` with `first ≤ i < bound`, in ascending order. -/
@[inline]
def sweep {σ : Type} (first bound : Nat) (state : σ) (body : Nat → σ → Checked σ) : Checked σ :=
  steps body (bound - first) first state

theorem steps_succ {σ : Type} (body : Nat → σ → Checked σ) (count start : Nat) (state : σ) :
    steps body (count + 1) start state =
      (body start state).bind fun next => steps body count (start + 1) next := by
  rw [steps]
  cases body start state <;> rfl

/-- A range without indices leaves the state alone. -/
theorem sweep_of_le {σ : Type} {first bound : Nat} (empty : bound ≤ first) (state : σ)
    (body : Nat → σ → Checked σ) : sweep first bound state body = .ok state := by
  simp [sweep, Nat.sub_eq_zero_of_le empty, steps]

/-- A range with indices takes its first step and goes on from there. -/
theorem sweep_of_lt {σ : Type} {first bound : Nat} (nonempty : first < bound) (state : σ)
    (body : Nat → σ → Checked σ) :
    sweep first bound state body =
      (body first state).bind fun next => sweep (first + 1) bound next body := by
  obtain ⟨count, rfl⟩ := Nat.exists_eq_add_of_lt nonempty
  have whole : first + count + 1 - first = count + 1 := by omega
  have rest : first + count + 1 - (first + 1) = count := by omega
  simp only [sweep, whole, rest, steps_succ]

/-- The loop rule: an invariant that holds at the start and is carried over every step, each of
which succeeds, holds at the end of the range. -/
theorem sweep_invariant {σ : Type} (invariant : Nat → σ → Prop) {first bound : Nat} {state : σ}
    {body : Nat → σ → Checked σ} (ordered : first ≤ bound) (initial : invariant first state)
    (carried : ∀ i s, first ≤ i → i < bound → invariant i s →
      ∃ next, body i s = .ok next ∧ invariant (i + 1) next) :
    ∃ final, sweep first bound state body = .ok final ∧ invariant bound final := by
  obtain ⟨count, rfl⟩ := Nat.exists_eq_add_of_le ordered
  induction count generalizing first state with
  | zero => exact ⟨state, sweep_of_le (Nat.le_refl _) state body, initial⟩
  | succ count ih =>
    obtain ⟨next, step, holds⟩ := carried first state (Nat.le_refl _) (by omega) initial
    rw [sweep_of_lt (by omega), step]
    have shifted : first + (count + 1) = first + 1 + count := by omega
    rw [shifted]
    exact ih holds (by omega) fun i s lower upper => carried i s (by omega) (by omega)

end DenseBench
