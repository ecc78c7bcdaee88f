import DenseBench.Kernel.Trmm
import DenseBench.Proofs.Dense.Entries
import DenseBench.Proofs.Dense.Matrix
import DenseBench.Proofs.Success
import Mathlib.LinearAlgebra.Matrix.Notation

/-!
# The triangular product, in place

A row of the result takes up multiples of the rows below it, which are overwritten later only, and
is scaled when it is complete.  So every element is formed from the original matrix.  Over a
commutative ring the result is `alpha * U^T * B` for the unit lower-triangular `U` with the strict
lower triangle of `A`.
-/

namespace DenseBench
namespace Kernel
namespace Trmm

open Success

variable {m n : Nat}

/-- The element in row `i` and column `j` of the result. -/
def formed {α : Type} [Add α] [Mul α] (alpha : α) (m : Nat) (a b : Nat → Nat → α) (i j : Nat) : α :=
  accumulate (· + ·) (i + 1) m (b i j) (fun k => a k i * b k j) * alpha

/-- The triangle is looked at below the diagonal only. -/
theorem formed_congr {α : Type} [Add α] [Mul α] {alpha : α} {a a' b : Nat → Nat → α} {i j : Nat}
    (agree : ∀ k i, k < m → i < k → a k i = a' k i) :
    formed alpha m a b i j = formed alpha m a' b i j := by
  rw [formed, formed, accumulate_congr]
  intro k below inside
  rw [agree k i inside below]

theorem kernel_ofFn {α : Type} [Add α] [Mul α] (alpha : α) {p q : Nat} (a b : Nat → Nat → α)
    (rows : m ≤ p) (cols : m - 1 ≤ q) :
    kernel alpha ⟨.ofFn p q a, .ofFn m n b⟩ =
      .ok ⟨.ofFn p q a, .ofFn m n (formed alpha m a b)⟩ := by
  simp only [kernel, Mat.rows_ofFn, Mat.cols_ofFn]
  refine bind_eq_ok_iff.mpr ⟨_, Mat.sweep_entries (formed alpha m a b) ?_,
    by rw [Mat.ofFn_withRows]; rfl⟩
  intro i j row col partly
  -- column `j` is overwritten above row `i` only
  have untouched (k : Nat) (below : i ≤ k) : partly k j = b k j :=
    (Mat.withRow_of_ne (.inr (Nat.le_refl j))).trans (Mat.withRows_of_le (.inl below))
  refine bind_eq_ok_iff.mpr ⟨_, Mat.sweep_withEntry i j (· + ·) (fun k => a k i * b k j)
    (Nat.succ_le_of_lt row) fun k value below inside => ?_, ?_⟩
  · rw [Mat.read_of_lt (by omega) (by omega), Mat.read_of_lt inside col,
      Mat.withEntry_of_ne (.inl (by omega)), untouched k (by omega)]
    exact Mat.modify_withEntry row col (· + a k i * b k j)
  · rw [untouched i (Nat.le_refl i)]
    exact Mat.modify_withEntry row col (· * alpha)

section Ring

variable {R : Type} [CommRing R]

/-- The entries of the unit lower-triangular matrix with the strict lower triangle of `a`. -/
def unitLower (a : Nat → Nat → R) (i j : Nat) : R :=
  if j < i then a i j else if j = i then 1 else 0

/-- A column of the triangle begins on the diagonal. -/
theorem sum_unitLower (a : Nat → Nat → R) (b : Nat → R) {i : Nat} (row : i < m) :
    ∑ k ∈ Finset.range m, unitLower a k i * b k =
      b i + ∑ k ∈ Finset.Ico (i + 1) m, a k i * b k := by
  have above : ∑ k ∈ Finset.range i, unitLower a k i * b k = 0 := by
    refine Finset.sum_eq_zero fun k member => ?_
    have before : k < i := Finset.mem_range.mp member
    rw [unitLower, if_neg (by omega), if_neg (by omega), zero_mul]
  have diagonal : unitLower a i i = 1 := by simp [unitLower]
  have below : ∑ k ∈ Finset.Ico (i + 1) m, unitLower a k i * b k =
      ∑ k ∈ Finset.Ico (i + 1) m, a k i * b k := by
    refine Finset.sum_congr rfl fun k member => ?_
    have after : i < k := (Finset.mem_Ico.mp member).1
    rw [unitLower, if_pos after]
  rw [Mat.sum_range_eq_around row, above, diagonal, below, zero_add, one_mul]

theorem block_formed (alpha : R) (a b : Nat → Nat → R) :
    Mat.block m n (formed alpha m a b) =
      alpha • ((Mat.block m m (unitLower a)).transpose * Mat.block m n b) := by
  rw [Mat.transpose_block, Mat.block_mul_block, Mat.smul_block]
  refine Mat.block_congr fun i j row _ => ?_
  rw [formed, accumulate_add, sum_unitLower a (b · j) row, mul_comm]

theorem kernel_ofMatrix (alpha : R) {p q : Nat} (a : Nat → Nat → R) (b : Matrix (Fin m) (Fin n) R)
    (rows : m ≤ p) (cols : m - 1 ≤ q) :
    kernel alpha ⟨.ofFn p q a, .ofMatrix b⟩ =
      .ok ⟨.ofFn p q a,
        .ofMatrix (alpha • ((Mat.block m m (unitLower a)).transpose * b))⟩ := by
  obtain ⟨b, rfl⟩ := Mat.exists_eq_block b
  rw [← block_formed]
  exact kernel_ofFn alpha a b rows cols

end Ring

section Generated

/-- The entries of the generated triangular factor. -/
def generated {α : Type} [Zero α] [One α] [NatCast α] [Div α] (m i j : Nat) : α :=
  if j < i then (((i + j) % m : Nat) : α) / (m : α) else if j = i then 1 else 0

/-- The entries of the generated matrix to be multiplied. -/
def generatedOperand {α : Type} [NatCast α] [Div α] (n i j : Nat) : α :=
  (((n + i - j) % n : Nat) : α) / (n : α)

theorem init_eq {α : Type} [Zero α] [One α] [NatCast α] [Div α] (dims : Dims)
    (subtraction : Subtraction) :
    (init dims subtraction : Checked (Arrays α)) =
      .ok ⟨.ofFn dims.m dims.m (generated dims.m),
        .ofFn dims.m dims.n (generatedOperand dims.n)⟩ := by
  refine bind_eq_ok_iff.mpr ⟨_, Mat.tabulate_eq_ok fun i j row _ => ?_,
    bind_eq_ok_iff.mpr ⟨_, Mat.tabulate_eq_ok fun i j _ col => ?_, rfl⟩⟩
  · simp only [generated, residue_of_pos (Nat.zero_lt_of_lt row)]
    split
    next => rfl
    next => split <;> rfl
  · exact bind_eq_ok_iff.mpr ⟨_, subtraction.exact (dims.n + i) j (by omega),
      residue_of_pos (Nat.zero_lt_of_lt col)⟩

/-- The generated factor is the unit lower-triangular matrix that the kernel multiplies by. -/
theorem unitLower_generated {R : Type} [CommRing R] [Div R] (m : Nat) :
    unitLower (generated m : Nat → Nat → R) = generated m := by
  funext i j
  simp only [unitLower, generated]
  split <;> rfl

end Generated

/-- Every element is formed from the original `B`, with the operations in this order and whatever
laws they obey; `A` needs `m` rows and the columns left of the diagonal of an `m` by `m` matrix.
Over a commutative ring the result is the product with the transpose of the unit lower-triangular
matrix with the strict lower triangle of `A`, and on the generated `A` this is `A` itself. -/
theorem kernel_in_place :
    (∀ {α : Type} [Add α] [Mul α] (alpha : α) {m n p q : Nat} (a b : Nat → Nat → α),
      m ≤ p → m - 1 ≤ q →
      kernel alpha ⟨.ofFn p q a, .ofFn m n b⟩ =
        .ok ⟨.ofFn p q a, .ofFn m n fun i j =>
          accumulate (· + ·) (i + 1) m (b i j) (fun k => a k i * b k j) * alpha⟩) ∧
    (∀ {R : Type} [CommRing R] (alpha : R) {m n p q : Nat} (a : Nat → Nat → R)
        (b : Matrix (Fin m) (Fin n) R),
      m ≤ p → m - 1 ≤ q →
      kernel alpha ⟨.ofFn p q a, .ofMatrix b⟩ =
        .ok ⟨.ofFn p q a,
          .ofMatrix (alpha • ((Mat.block m m (unitLower a)).transpose * b))⟩) ∧
    (∀ {R : Type} [CommRing R] [Div R] (dims : Dims) (subtraction : Subtraction),
      ∃ (a : Matrix (Fin dims.m) (Fin dims.m) R) (b : Matrix (Fin dims.m) (Fin dims.n) R),
        init dims subtraction = .ok ⟨.ofMatrix a, .ofMatrix b⟩ ∧
        ∀ (alpha : R) {n : Nat} (c : Matrix (Fin dims.m) (Fin n) R),
          kernel alpha ⟨.ofMatrix a, .ofMatrix c⟩ =
            .ok ⟨.ofMatrix a, .ofMatrix (alpha • (a.transpose * c))⟩) := by
  refine ⟨fun alpha _ _ _ _ a b rows cols => kernel_ofFn alpha a b rows cols,
    fun alpha _ _ _ _ a b rows cols => kernel_ofMatrix alpha a b rows cols, ?_⟩
  intro R _ _ dims subtraction
  refine ⟨Mat.block _ _ (generated dims.m), Mat.block _ _ (generatedOperand dims.n),
    init_eq dims subtraction, ?_⟩
  intro alpha n c
  have multiplied := kernel_ofMatrix alpha (generated dims.m) c (Nat.le_refl _) (Nat.sub_le _ 1)
  rwa [unitLower_generated] at multiplied

/-- Three rows and a factor that has no last column. -/
theorem kernel_in_place_strict :
    3 ≤ 3 ∧ 3 - 1 ≤ 2 ∧
    kernel (7 : Int) ⟨.ofFn 3 2 fun i j => 10 * i + j, .ofFn 3 1 fun i _ => i + 1⟩ =
      .ok ⟨.ofFn 3 2 fun i j => 10 * i + j, .ofFn 3 1 fun i _ => [567, 455, 21].getD i 0⟩ ∧
    kernel (7 : Int) ⟨.ofFn 3 2 fun i j => 10 * i + j, .ofMatrix !![1; 2; 3]⟩ =
      .ok ⟨.ofFn 3 2 fun i j => 10 * i + j, .ofMatrix !![567; 455; 21]⟩ := by
  obtain ⟨exact_order, product, -⟩ := kernel_in_place
  refine ⟨by decide, by decide, (exact_order 7 _ _ (by decide) (by decide)).trans ?_,
    (product 7 _ _ (by decide) (by decide)).trans ?_⟩
  · rfl
  · rfl

end Trmm
end Kernel
end DenseBench
