import DenseBench.Kernel.Trisolv
import DenseBench.Proofs.Dense.Elements
import DenseBench.Proofs.Dense.Entries
import DenseBench.Proofs.Dense.Matrix
import DenseBench.Proofs.Success
import Mathlib.Algebra.Order.Field.Basic
import Mathlib.LinearAlgebra.Matrix.Notation
import Mathlib.Tactic.Positivity

/-!
# Forward substitution

An element of the solution starts from the right-hand side, loses the products with the elements
before it and is divided by the diagonal.  This is a recurrence for the solution, whatever the
operations are, and the kernel leaves the vector that satisfies it.  Over a field, with a diagonal
of elements other than zero, the recurrence says that the lower triangle times the solution is the
right-hand side, and it has one solution only.
-/

namespace DenseBench
namespace Kernel
namespace Trisolv

open Success

variable {n : Nat}

section Recurrence

variable {α : Type} [Mul α] [Sub α] {l : Nat → Nat → α} {b x : Nat → α} {i : Nat}

/-- What is left of the right-hand side in row `i` for the element on the diagonal. -/
def remaining (l : Nat → Nat → α) (b x : Nat → α) (i : Nat) : α :=
  accumulate (· - ·) 0 i (b i) fun j => l i j * x j

/-- A row looks back only. -/
theorem remaining_congr {y : Nat → α} (agree : ∀ j, j < i → x j = y j) :
    remaining l b x i = remaining l b y i :=
  accumulate_congr fun j _ earlier => by rw [agree j earlier]

variable [Div α]

/-- The first `n` elements of `x` are those of the solution. -/
def Solved (n : Nat) (l : Nat → Nat → α) (b x : Nat → α) : Prop :=
  ∀ i, i < n → x i = remaining l b x i / l i i

/-- The recurrence has a solution, whatever the diagonal is. -/
theorem exists_solved (n : Nat) (l : Nat → Nat → α) (b : Nat → α) : ∃ x, Solved n l b x := by
  induction n with
  | zero => exact ⟨b, fun i none => absurd none (Nat.not_lt_zero i)⟩
  | succ n ih =>
      obtain ⟨x, solved⟩ := ih
      let element := remaining l b x n / l n n
      refine ⟨Function.update x n element, fun i inside => ?_⟩
      have before : remaining l b (Function.update x n element) i = remaining l b x i :=
        remaining_congr fun j earlier => Function.update_of_ne (by omega) _ _
      rw [before]
      rcases Nat.lt_succ_iff_lt_or_eq.mp inside with above | rfl
      · rw [Function.update_of_ne above.ne, solved i above]
      · rw [Function.update_self]

/-- The recurrence has one solution. -/
theorem Solved.iff_agree {y : Nat → α} (solved : Solved n l b x) :
    Solved n l b y ↔ ∀ i, i < n → y i = x i := by
  constructor
  · intro other i
    induction i using Nat.strong_induction_on with
    | _ i ih =>
        intro inside
        have earlier : remaining l b y i = remaining l b x i :=
          remaining_congr fun j before => ih j before (Nat.lt_trans before inside)
        rw [other i inside, earlier, solved i inside]
  · intro agree i inside
    have earlier : remaining l b y i = remaining l b x i :=
      remaining_congr fun j before => agree j (Nat.lt_trans before inside)
    rw [agree i inside, earlier, solved i inside]

/-- The recurrence looks at the triangle on and below the diagonal only. -/
theorem Solved.congr {l' : Nat → Nat → α} (agree : ∀ i j, i < n → j ≤ i → l i j = l' i j)
    (solved : Solved n l b x) : Solved n l' b x := by
  intro i row
  have same : remaining l b x i = remaining l' b x i :=
    accumulate_congr fun j _ before => by rw [agree i j row before.le]
  rw [solved i row, same, agree i i row le_rfl]

/-- The kernel leaves the solution, whatever stood in its place; `L` may have more columns than
rows, and the vectors may be longer. -/
theorem kernel_ofFn {q p s : Nat} (f : Nat → α) (solved : Solved n l b x) (cols : n ≤ q)
    (long : n ≤ p) (given : n ≤ s) :
    kernel ⟨.ofFn n q l, .ofFn p f, .ofFn s b⟩ =
      .ok ⟨.ofFn n q l, .ofFn p (Vec.withFront f n x), .ofFn s b⟩ := by
  simp only [kernel, Mat.rows_ofFn]
  refine bind_eq_ok_iff.mpr ⟨_, Vec.sweep_withFront x fun i row => ?_, rfl⟩
  have inside : i < p := Nat.lt_of_lt_of_le row long
  rw [Vec.read_of_lt (by omega), ok_bind, Vec.write_of_lt inside, ok_bind]
  -- the elements before row `i` are solved, and the element itself is the accumulator
  refine bind_eq_ok_iff.mpr ⟨_, Vec.sweep_update i (· - ·) (fun j => l i j * x j) (Nat.zero_le i)
    fun j value _ before => ?_, ?_⟩
  · rw [Mat.read_of_lt row (by omega), Vec.read_of_lt (by omega),
      Function.update_of_ne before.ne, Vec.withFront_of_lt before]
    exact Vec.modify_update inside (· - l i j * x j)
  · rw [Mat.read_of_lt row (by omega), ok_bind, Vec.modify_update inside, ← remaining,
      ← solved i row]

end Recurrence

section Exact

variable {K : Type} [Field K] {l : Nat → Nat → K} {b x : Nat → K}

theorem remaining_eq (i : Nat) :
    remaining l b x i = b i - ∑ j ∈ Finset.range i, l i j * x j := by
  rw [remaining, accumulate_sub, Nat.Ico_zero_eq_range]

/-- Over a field the recurrence says that the triangle times the solution is the right-hand
side. -/
theorem solved_iff (regular : ∀ i, i < n → l i i ≠ 0) :
    Solved n l b x ↔ ∀ i, i < n → ∑ j ∈ Finset.range (i + 1), l i j * x j = b i := by
  refine forall₂_congr fun i inside => ?_
  rw [remaining_eq, eq_div_iff (regular i inside), eq_sub_iff_add_eq', Finset.sum_range_succ,
    mul_comm (x i)]

section Division

-- a function and not an instance, so that `/` stays the division of the field
variable {divide : K → K → K}

/-- What a division makes of zero does not matter, as long as the diagonal avoids it. -/
theorem Solved.of_divide (agrees : ∀ p q, q ≠ 0 → divide p q = p / q)
    (regular : ∀ i, i < n → l i i ≠ 0) (solved : Solved n l b x) :
    @Solved K _ _ ⟨divide⟩ n l b x :=
  fun i inside => (solved i inside).trans (agrees _ _ (regular i inside)).symm

/-- The kernel divides by the diagonal only. -/
theorem kernel_of_divide (agrees : ∀ p q, q ≠ 0 → divide p q = p / q)
    (regular : ∀ i, i < n → l i i ≠ 0) (x b : Nat → K) :
    @kernel K _ _ ⟨divide⟩ ⟨.ofFn n n l, .ofFn n x, .ofFn n b⟩ =
      kernel ⟨.ofFn n n l, .ofFn n x, .ofFn n b⟩ := by
  obtain ⟨y, solved⟩ := exists_solved n l b
  have divided : @Solved K _ _ ⟨divide⟩ n l b y := solved.of_divide agrees regular
  rw [kernel_ofFn x solved le_rfl le_rfl le_rfl]
  exact @kernel_ofFn n K _ _ l b y ⟨divide⟩ n n n x divided le_rfl le_rfl le_rfl

end Division

/-- The lower triangle of a matrix, with its diagonal. -/
def lowerTriangle (l : Matrix (Fin n) (Fin n) K) : Matrix (Fin n) (Fin n) K :=
  .of fun i j => if j ≤ i then l i j else 0

theorem lowerTriangle_mulVec (l : Matrix (Fin n) (Fin n) K) (y : Fin n → K) (i : Fin n) :
    (lowerTriangle l).mulVec y i = ∑ j ∈ Finset.Iic i, l i j * y j := by
  have before : Finset.univ.filter (· ≤ i) = Finset.Iic i := by
    ext j
    simp
  simp only [Matrix.mulVec, dotProduct, lowerTriangle, Matrix.of_apply, ite_mul, zero_mul,
    ← Finset.sum_filter, before]

/-- The triangle of a matrix with a diagonal of elements other than zero takes one vector to the
right-hand side, and the kernel leaves this vector. -/
theorem exists_solution (l : Matrix (Fin n) (Fin n) K) (x b : Fin n → K)
    (regular : ∀ i, l i i ≠ 0) :
    ∃ y : Fin n → K,
      kernel ⟨.ofMatrix l, .ofVector x, .ofVector b⟩ =
        .ok ⟨.ofMatrix l, .ofVector y, .ofVector b⟩ ∧
      ∀ z : Fin n → K, (∀ i, ∑ j ∈ Finset.Iic i, l i j * z j = b i) ↔ z = y := by
  obtain ⟨l, rfl⟩ := Mat.exists_eq_block l
  obtain ⟨x, rfl⟩ := Vec.exists_eq_front x
  obtain ⟨b, rfl⟩ := Vec.exists_eq_front b
  obtain ⟨y, solved⟩ := exists_solved n l b
  have ended := kernel_ofFn x solved le_rfl le_rfl le_rfl
  rw [Vec.ofFn_withFront] at ended
  refine ⟨Vec.front n y, ended, fun z => ?_⟩
  obtain ⟨z, rfl⟩ := Vec.exists_eq_front z
  rw [Vec.front_inj, ← solved.iff_agree, solved_iff fun i inside => regular ⟨i, inside⟩,
    Fin.forall_iff]
  refine forall₂_congr fun i inside => ?_
  rw [← Mat.sum_Iic_eq_sum_range ⟨i, inside⟩ fun j => l i j * z j]
  rfl

end Exact

section Generated

/-- The entries of the generated triangle. -/
def generated {α : Type} [Zero α] [NatCast α] [Mul α] [Div α] (n i j : Nat) : α :=
  if j ≤ i then ((i + n - j + 1 : Nat) : α) * ((2 : Nat) : α) / (n : α) else 0

theorem init_eq {α : Type} [Zero α] [NatCast α] [Neg α] [Mul α] [Div α] (n : Nat)
    (subtraction : Subtraction) :
    (init n subtraction : Checked (Arrays α)) =
      .ok ⟨.ofFn n n (generated n), .ofFn n fun _ => -((999 : Nat) : α),
        .ofFn n fun i => (i : α)⟩ := by
  rw [← Vec.replicate_eq_ofFn]
  refine bind_eq_ok_iff.mpr ⟨_, Mat.tabulate_eq_ok fun i j _ col => ?_, rfl⟩
  simp only [generated]
  split
  · exact bind_eq_ok_iff.mpr ⟨_, subtraction.exact (i + n) j (by omega), rfl⟩
  · rfl

theorem generated_diagonal_pos {K : Type} [Field K] [LinearOrder K] [IsStrictOrderedRing K]
    {i : Nat} (inside : i < n) : (0 : K) < generated n i i := by
  have order : (0 : K) < n := Nat.cast_pos.mpr (Nat.zero_lt_of_lt inside)
  rw [generated, if_pos le_rfl]
  positivity

end Generated

/-- Over a field, and with a diagonal of elements other than zero, the kernel leaves the one vector
that the lower triangle takes to the right-hand side, whatever stood in its place; so it undoes the
multiplication by the triangle.  The generated diagonal is positive, and on the generated system the
kernel does not depend on what a division by zero would be. -/
theorem kernel_solves :
    (∀ {K : Type} [Field K] {n : Nat} (l : Matrix (Fin n) (Fin n) K) (x b : Fin n → K),
      (∀ i, l i i ≠ 0) →
      ∃ y : Fin n → K,
        kernel ⟨.ofMatrix l, .ofVector x, .ofVector b⟩ =
          .ok ⟨.ofMatrix l, .ofVector y, .ofVector b⟩ ∧
        ∀ z : Fin n → K, (∀ i, ∑ j ∈ Finset.Iic i, l i j * z j = b i) ↔ z = y) ∧
    (∀ {K : Type} [Field K] {n : Nat} (l : Matrix (Fin n) (Fin n) K) (x y : Fin n → K),
      (∀ i, l i i ≠ 0) →
      kernel ⟨.ofMatrix l, .ofVector x, .ofVector ((lowerTriangle l).mulVec y)⟩ =
        .ok ⟨.ofMatrix l, .ofVector y, .ofVector ((lowerTriangle l).mulVec y)⟩) ∧
    (∀ {K : Type} [Field K] [LinearOrder K] [IsStrictOrderedRing K] (n : Nat)
        (subtraction : Subtraction),
      ∃ (l : Matrix (Fin n) (Fin n) K) (x b : Fin n → K),
        init n subtraction = .ok ⟨.ofMatrix l, .ofVector x, .ofVector b⟩ ∧ (∀ i, 0 < l i i) ∧
        ∀ divide : K → K → K, (∀ p q, q ≠ 0 → divide p q = p / q) →
          @kernel K _ _ ⟨divide⟩ ⟨.ofMatrix l, .ofVector x, .ofVector b⟩ =
            kernel ⟨.ofMatrix l, .ofVector x, .ofVector b⟩) := by
  refine ⟨fun l x b regular => exists_solution l x b regular, ?_, ?_⟩
  · intro K _ n l x y regular
    obtain ⟨z, ended, only⟩ := exists_solution l x ((lowerTriangle l).mulVec y) regular
    have same : y = z := (only y).mp fun i => (lowerTriangle_mulVec l y i).symm
    rw [ended, same]
  · intro K _ _ _ n subtraction
    have positive : ∀ i, i < n → (0 : K) < generated n i i := fun _ => generated_diagonal_pos
    refine ⟨Mat.block n n (generated n), Vec.front n fun _ => -((999 : Nat) : K),
      Vec.front n fun i => (i : K), init_eq n subtraction, fun i => positive i i.isLt, ?_⟩
    intro divide agrees
    rw [Mat.ofMatrix_block, Vec.ofVector_front, Vec.ofVector_front]
    exact kernel_of_divide agrees (fun i inside => (positive i inside).ne') _ _

/-- An entry above the diagonal, and a division that gives seven for zero. -/
theorem kernel_solves_of_order_two :
    (∀ i, (!![2, 7; 3, 5] : Matrix (Fin 2) (Fin 2) ℚ) i i ≠ 0) ∧
    kernel ⟨.ofMatrix !![2, 7; 3, 5], .ofVector ![9, 9], .ofVector ![4, (1 : ℚ)]⟩ =
      .ok ⟨.ofMatrix !![2, 7; 3, 5], .ofVector ![2, -1], .ofVector ![4, 1]⟩ ∧
    kernel ⟨.ofMatrix !![2, 7; 3, 5], .ofVector ![9, 9],
        .ofVector ((lowerTriangle !![2, 7; 3, 5]).mulVec ![2, (-1 : ℚ)])⟩ =
      .ok ⟨.ofMatrix !![2, 7; 3, 5], .ofVector ![2, -1],
        .ofVector ((lowerTriangle !![2, 7; 3, 5]).mulVec ![2, -1])⟩ ∧
    ∃ (l : Matrix (Fin 2) (Fin 2) ℚ) (x b : Fin 2 → ℚ),
      init 2 = .ok ⟨.ofMatrix l, .ofVector x, .ofVector b⟩ ∧ (∀ i, 0 < l i i) ∧
      @kernel ℚ _ _ ⟨fun p q => if q = 0 then 7 else p / q⟩
          ⟨.ofMatrix l, .ofVector x, .ofVector b⟩ =
        kernel ⟨.ofMatrix l, .ofVector x, .ofVector b⟩ := by
  obtain ⟨solves, undoes, generates⟩ := kernel_solves
  have regular : ∀ i, (!![2, 7; 3, 5] : Matrix (Fin 2) (Fin 2) ℚ) i i ≠ 0 := by
    simp [Fin.forall_fin_two]
  refine ⟨regular, ?_, undoes _ _ _ regular, ?_⟩
  · obtain ⟨y, ended, only⟩ := solves !![2, 7; 3, 5] ![9, 9] ![4, (1 : ℚ)] regular
    have first : Finset.Iic (0 : Fin 2) = {0} := by decide
    have second : Finset.Iic (1 : Fin 2) = {0, 1} := by decide
    have solution : ![2, -1] = y := by
      apply (only _).mp
      norm_num [Fin.forall_fin_two, first, second]
    rw [ended, solution]
  · obtain ⟨l, x, b, made, positive, same⟩ := generates (K := ℚ) 2 .standard
    exact ⟨l, x, b, made, positive, same _ fun p q nonzero => if_neg nonzero⟩

end Trisolv
end Kernel
end DenseBench
