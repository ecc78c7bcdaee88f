import DenseBench.Dense.Checked
import DenseBench.Proofs.Success
import Mathlib.Algebra.BigOperators.Intervals

/-!
# Values accumulated by a sweep

A loop nest forms a value by taking up one term per index.  `accumulate` is that value, with the
operations in the order in which the loop makes them, so it is exact for scalars whose operations
obey no law.  Over a commutative group it is a sum.
-/

namespace DenseBench

open Success

section Accumulate

variable {α : Type} {combine : α → α → α} {first bound : Nat} {start : α} {f g : Nat → α}

/-- The value that grows from `start` by taking up `term first`, `term (first + 1)`, … one after the
other, as far as the index before `bound`. -/
def accumulate (combine : α → α → α) (first bound : Nat) (start : α) (term : Nat → α) : α :=
  (List.range' first (bound - first)).foldl (fun value k => combine value (term k)) start

theorem accumulate_of_le (empty : bound ≤ first) :
    accumulate combine first bound start f = start := by
  simp [accumulate, Nat.sub_eq_zero_of_le empty]

/-- The last term is taken up last. -/
theorem accumulate_succ (ordered : first ≤ bound) :
    accumulate combine first (bound + 1) start f =
      combine (accumulate combine first bound start f) (f bound) := by
  have longer : bound + 1 - first = bound - first + 1 := Nat.succ_sub ordered
  have last : first + (bound - first) = bound := Nat.add_sub_of_le ordered
  simp [accumulate, longer, List.range'_1_concat, last]

theorem accumulate_congr (agree : ∀ k, first ≤ k → k < bound → f k = g k) :
    accumulate combine first bound start f = accumulate combine first bound start g := by
  refine List.foldl_ext _ _ _ fun value k member => ?_
  obtain ⟨lower, upper⟩ := List.mem_range'_1.mp member
  rw [agree k lower (by omega)]

/-- From index zero on the terms are folded from the left. -/
theorem accumulate_eq_foldl :
    accumulate combine 0 bound start f =
      Fin.foldl bound (fun value k => combine value (f k)) start := by
  induction bound with
  | zero => rfl
  | succ bound ih =>
      rw [accumulate_succ (Nat.zero_le bound), ih, Fin.foldl_succ_last]
      rfl

theorem accumulate_add [AddCommMonoid α] :
    accumulate (· + ·) first bound start f = start + ∑ k ∈ Finset.Ico first bound, f k := by
  rcases Nat.le_total bound first with empty | ordered
  · simp [accumulate_of_le empty, Finset.Ico_eq_empty_of_le empty]
  · induction bound, ordered using Nat.le_induction with
    | base => simp [accumulate_of_le]
    | succ bound ordered ih =>
        rw [accumulate_succ ordered, ih, Finset.sum_Ico_succ_top ordered, add_assoc]

theorem accumulate_sub [AddCommGroup α] :
    accumulate (· - ·) first bound start f = start - ∑ k ∈ Finset.Ico first bound, f k := by
  rcases Nat.le_total bound first with empty | ordered
  · simp [accumulate_of_le empty, Finset.Ico_eq_empty_of_le empty]
  · induction bound, ordered using Nat.le_induction with
    | base => simp [accumulate_of_le]
    | succ bound ordered ih =>
        rw [accumulate_succ ordered, ih, Finset.sum_Ico_succ_top ordered, sub_sub]

end Accumulate

section Sweeps

variable {σ α : Type} {first bound : Nat} {state : σ} {body : Nat → σ → Checked σ}

theorem steps_succ_last (count start : Nat) :
    steps body (count + 1) start state = steps body count start state >>= body (start + count) := by
  induction count generalizing start state with
  | zero =>
      rw [steps_succ]
      exact bind_pure (body start state)
  | succ count ih =>
      rw [steps_succ body (count + 1), steps_succ body count]
      cases body start state with
      | error fault => rfl
      | ok next => exact (ih (start + 1)).trans (by rw [Nat.add_right_comm, Nat.add_assoc]; rfl)

/-- The last step is taken last. -/
theorem sweep_succ (ordered : first ≤ bound) :
    sweep first (bound + 1) state body = sweep first bound state body >>= body bound := by
  have longer : bound + 1 - first = bound - first + 1 := Nat.succ_sub ordered
  rw [sweep, longer, steps_succ_last, Nat.add_sub_of_le ordered]
  rfl

/-- A sweep whose steps lead from one stage to the next leads from the first stage to the last. -/
theorem sweep_stages (stage : Nat → σ) (ordered : first ≤ bound) (begun : stage first = state)
    (step : ∀ i, first ≤ i → i < bound → body i (stage i) = .ok (stage (i + 1))) :
    sweep first bound state body = .ok (stage bound) := by
  obtain ⟨final, ended, rfl⟩ := sweep_invariant (fun i state => state = stage i) ordered begun.symm
    fun i state lower upper at_stage => ⟨_, at_stage ▸ step i lower upper, rfl⟩
  exact ended

/-- A sweep that takes up one term per step in a hole of the state accumulates the terms there. -/
theorem sweep_accumulate (hole : α → σ) {combine : α → α → α} (start : α) {term : Nat → α}
    (ordered : first ≤ bound)
    (step : ∀ k value, first ≤ k → k < bound →
      body k (hole value) = .ok (hole (combine value (term k)))) :
    sweep first bound (hole start) body =
      .ok (hole (accumulate combine first bound start term)) := by
  refine sweep_stages (fun k => hole (accumulate combine first k start term)) ordered ?_ ?_
  · rw [accumulate_of_le (Nat.le_refl first)]
  · intro k lower upper
    rw [accumulate_succ lower]
    exact step k _ lower upper

/-- Two sweeps that do not look at each other may be made together, each step of both at once. -/
theorem sweep_pair {τ : Type} {t t' : τ} {state' : σ} {other : Nat → τ → Checked τ}
    {both : Nat → σ × τ → Checked (σ × τ)} (ordered : first ≤ bound)
    (step : ∀ i s t s' t', first ≤ i → i < bound → body i s = .ok s' → other i t = .ok t' →
      both i (s, t) = .ok (s', t'))
    (left : sweep first bound state body = .ok state')
    (right : sweep first bound t other = .ok t') :
    sweep first bound (state, t) both = .ok (state', t') := by
  induction bound, ordered using Nat.le_induction generalizing state' t' with
  | base =>
      rw [sweep_of_le (Nat.le_refl first)] at left right ⊢
      rw [Except.ok.inj left, Except.ok.inj right]
  | succ bound ordered ih =>
      rw [sweep_succ ordered, bind_eq_ok_iff] at left right
      obtain ⟨s, s_left, s_last⟩ := left
      obtain ⟨t, t_left, t_last⟩ := right
      have before := ih (fun i s t s' t' lower upper => step i s t s' t' lower (by omega))
        s_left t_left
      rw [sweep_succ ordered, before]
      exact step bound s t state' t' ordered (Nat.lt_succ_self bound) s_last t_last

end Sweeps
end DenseBench
