import DenseBench.Kernel.Syr2k
import DenseBench.Kernel.Syrk
import DenseBench.Proofs.Dense.Entries
import DenseBench.Proofs.Dense.Matrix
import DenseBench.Proofs.Kernel.GeneralProduct
import DenseBench.Proofs.Success
import Mathlib.LinearAlgebra.Matrix.Notation
import Mathlib.Tactic.Ring

/-!
# Symmetric rank updates of the lower triangle

Row `i` of the output is changed as far as the diagonal, and there every element starts from its
scaled old value and takes up one term per inner index, in ascending order.  For the rank-k update
these are the terms of the general product with the transpose.  The terms of the rank-2k update are
sums of two products that change places with the factors.
-/

namespace DenseBench
namespace Kernel

open Success

variable {n m : Nat}

namespace Syrk

section Order

variable {α : Type} [Add α] [Mul α]

/-- `C` may be larger than the update needs. -/
theorem kernel_ofFn (alpha beta : α) {rows cols : Nat} (c a : Nat → Nat → α) (c_rows : n ≤ rows)
    (c_cols : n ≤ cols) :
    kernel alpha beta ⟨.ofFn rows cols c, .ofFn n m a⟩ =
      .ok ⟨.ofFn rows cols (Mat.withFronts c n (· + 1)
        (Gemm.formed alpha beta m c a fun k j => a j k)), .ofFn n m a⟩ := by
  simp only [kernel, Mat.rows_ofFn, Mat.cols_ofFn]
  rw [Mat.sweep_accumulate_fronts (· + 1) (· * beta) (· + ·)
    (fun i j k => alpha * a i k * a j k) c_rows]
  · rfl
  · intro i row
    exact Nat.le_trans row c_cols
  · intro i j g row front
    rfl
  · intro i k j g row within front
    -- column `j` of the transpose is row `j` of `A`, which does not lie below row `i`
    have above : j < n := by omega
    rw [Mat.read_of_lt row within, Mat.read_of_lt above within]
    rfl

theorem kernel_ofBlock (alpha beta : α) (c a : Nat → Nat → α) :
    kernel alpha beta ⟨.ofMatrix (Mat.block n n c), .ofMatrix (Mat.block n m a)⟩ =
      .ok ⟨.ofMatrix (.of fun i j =>
        if j ≤ i then Mat.block n n (Gemm.formed alpha beta m c a fun k j => a j k) i j
        else Mat.block n n c i j), .ofMatrix (Mat.block n m a)⟩ := by
  rw [← Mat.block_withFronts_succ]
  exact kernel_ofFn alpha beta c a le_rfl le_rfl

/-- On and below the diagonal the update is the general product with the transpose, both with the
operations in the same order; above the diagonal nothing changes. -/
theorem kernel_eq_lower_product (alpha beta : α) {n m : Nat} (c : Matrix (Fin n) (Fin n) α)
    (a : Matrix (Fin n) (Fin m) α) :
    ∃ updated product : Matrix (Fin n) (Fin n) α,
      kernel alpha beta ⟨.ofMatrix c, .ofMatrix a⟩ = .ok ⟨.ofMatrix updated, .ofMatrix a⟩ ∧
      Gemm.kernel alpha beta ⟨.ofMatrix c, .ofMatrix a, .ofMatrix a.transpose⟩ =
        .ok ⟨.ofMatrix product, .ofMatrix a, .ofMatrix a.transpose⟩ ∧
      (∀ i j, updated i j = if j ≤ i then product i j else c i j) ∧
      ∀ i j, product i j =
        Fin.foldl m (fun sum k => sum + alpha * a i k * a j k) (c i j * beta) := by
  have inhabited : Nonempty α := ⟨alpha⟩
  obtain ⟨c, rfl⟩ := Mat.exists_eq_block c
  obtain ⟨a, rfl⟩ := Mat.exists_eq_block a
  refine ⟨_, Mat.block n n (Gemm.formed alpha beta m c a fun k j => a j k),
    kernel_ofBlock alpha beta c a, ?_, fun i j => rfl, fun i j => accumulate_eq_foldl⟩
  rw [Mat.transpose_block]
  exact Gemm.kernel_ofBlock alpha beta c a fun k j => a j k

end Order

end Syrk

namespace Syr2k

section Order

variable {α : Type} [Add α] [Mul α]

/-- The element in row `i` and column `j` of the lower triangle of the output. -/
def formed (alpha beta : α) (m : Nat) (c a b : Nat → Nat → α) (i j : Nat) : α :=
  accumulate (· + ·) 0 m (c i j * beta) fun k => a j k * alpha * b i k + b j k * alpha * a i k

/-- The two products of a term change places with the factors. -/
theorem formed_comm {alpha beta : α} {c a b : Nat → Nat → α} {i j : Nat}
    (commutes : ∀ x y : α, x + y = y + x) :
    formed alpha beta m c a b i j = formed alpha beta m c b a i j :=
  accumulate_congr fun _ _ _ => commutes _ _

/-- `C` and `B` may be larger than the update needs. -/
theorem kernel_ofFn (alpha beta : α) {rows cols p q : Nat} (c a b : Nat → Nat → α)
    (c_rows : n ≤ rows) (c_cols : n ≤ cols) (b_rows : n ≤ p) (b_cols : m ≤ q) :
    kernel alpha beta ⟨.ofFn rows cols c, .ofFn n m a, .ofFn p q b⟩ =
      .ok ⟨.ofFn rows cols (Mat.withFronts c n (· + 1) (formed alpha beta m c a b)), .ofFn n m a,
        .ofFn p q b⟩ := by
  simp only [kernel, Mat.rows_ofFn, Mat.cols_ofFn]
  rw [Mat.sweep_accumulate_fronts (· + 1) (· * beta) (· + ·)
    (fun i j k => a j k * alpha * b i k + b j k * alpha * a i k) c_rows]
  · rfl
  · intro i row
    exact Nat.le_trans row c_cols
  · intro i j g row front
    rfl
  · intro i k j g row within front
    have above : j < n := by omega
    rw [Mat.read_of_lt above within, Mat.read_of_lt (by omega) (by omega),
      Mat.read_of_lt (by omega) (by omega), Mat.read_of_lt row within]
    rfl

theorem kernel_ofBlock (alpha beta : α) (c a b : Nat → Nat → α) :
    kernel alpha beta ⟨.ofMatrix (Mat.block n n c), .ofMatrix (Mat.block n m a),
        .ofMatrix (Mat.block n m b)⟩ =
      .ok ⟨.ofMatrix (.of fun i j =>
        if j ≤ i then Mat.block n n (formed alpha beta m c a b) i j else Mat.block n n c i j),
        .ofMatrix (Mat.block n m a), .ofMatrix (Mat.block n m b)⟩ := by
  rw [← Mat.block_withFronts_succ]
  exact kernel_ofFn alpha beta c a b le_rfl le_rfl le_rfl le_rfl

end Order

section Ring

variable {R : Type} [CommRing R] {alpha beta : R} {c a b : Nat → Nat → R} {i j : Nat}

theorem formed_eq :
    formed alpha beta m c a b i j =
      beta * c i j + alpha * ∑ k : Fin m, (a i k * b j k + b i k * a j k) := by
  rw [formed, accumulate_add, Nat.Ico_zero_eq_range, ← Fin.sum_univ_eq_sum_range, Finset.mul_sum,
    mul_comm beta]
  congr 1
  apply Finset.sum_congr rfl
  intro k _
  ring

/-- With equal factors a term is twice that of the rank-k update. -/
theorem formed_self :
    formed alpha beta m c a a i j = Gemm.formed (2 * alpha) beta m c a (fun k j => a j k) i j := by
  apply accumulate_congr
  intro k _ _
  ring

end Ring

/-- Over a commutative ring the lower triangle takes up the products of rows of the one factor with
rows of the other, in both orders, and equal factors make it a rank-k update with the doubled
multiplier.  Above the diagonal nothing changes, and the factors may be exchanged if addition
commutes, whatever other laws the operations obey. -/
theorem kernel_symmetric_update :
    (∀ {R : Type} [CommRing R] (alpha beta : R) {n m : Nat} (c : Matrix (Fin n) (Fin n) R)
        (a b : Matrix (Fin n) (Fin m) R),
      kernel alpha beta ⟨.ofMatrix c, .ofMatrix a, .ofMatrix b⟩ =
        .ok ⟨.ofMatrix (.of fun i j =>
            if j ≤ i then beta * c i j + alpha * ∑ k, (a i k * b j k + b i k * a j k) else c i j),
          .ofMatrix a, .ofMatrix b⟩) ∧
    (∀ {α : Type} [Add α] [Mul α] (alpha beta : α) {n m : Nat} (c : Matrix (Fin n) (Fin n) α)
        (a b : Matrix (Fin n) (Fin m) α),
      ∃ updated : Matrix (Fin n) (Fin n) α,
        kernel alpha beta ⟨.ofMatrix c, .ofMatrix a, .ofMatrix b⟩ =
          .ok ⟨.ofMatrix updated, .ofMatrix a, .ofMatrix b⟩ ∧
        (∀ i j, i < j → updated i j = c i j) ∧
        ((∀ x y : α, x + y = y + x) →
          kernel alpha beta ⟨.ofMatrix c, .ofMatrix b, .ofMatrix a⟩ =
            .ok ⟨.ofMatrix updated, .ofMatrix b, .ofMatrix a⟩)) ∧
    (∀ {R : Type} [CommRing R] (alpha beta : R) {n m : Nat} (c : Matrix (Fin n) (Fin n) R)
        (a : Matrix (Fin n) (Fin m) R),
      ∃ updated : Matrix (Fin n) (Fin n) R,
        kernel alpha beta ⟨.ofMatrix c, .ofMatrix a, .ofMatrix a⟩ =
          .ok ⟨.ofMatrix updated, .ofMatrix a, .ofMatrix a⟩ ∧
        Syrk.kernel (2 * alpha) beta ⟨.ofMatrix c, .ofMatrix a⟩ =
          .ok ⟨.ofMatrix updated, .ofMatrix a⟩) := by
  refine ⟨?_, ?_, ?_⟩
  · intro R _ alpha beta n m c a b
    obtain ⟨c, rfl⟩ := Mat.exists_eq_block c
    obtain ⟨a, rfl⟩ := Mat.exists_eq_block a
    obtain ⟨b, rfl⟩ := Mat.exists_eq_block b
    rw [kernel_ofBlock]
    simp only [Mat.block_apply, formed_eq]
  · intro α _ _ alpha beta n m c a b
    have inhabited : Nonempty α := ⟨alpha⟩
    obtain ⟨c, rfl⟩ := Mat.exists_eq_block c
    obtain ⟨a, rfl⟩ := Mat.exists_eq_block a
    obtain ⟨b, rfl⟩ := Mat.exists_eq_block b
    refine ⟨_, kernel_ofBlock alpha beta c a b, fun i j upper => if_neg upper.not_ge, ?_⟩
    intro commutes
    have exchanged : formed alpha beta m c a b = formed alpha beta m c b a :=
      funext₂ fun i j => formed_comm commutes
    rw [kernel_ofBlock, exchanged]
  · intro R _ alpha beta n m c a
    obtain ⟨c, rfl⟩ := Mat.exists_eq_block c
    obtain ⟨a, rfl⟩ := Mat.exists_eq_block a
    have doubled : formed alpha beta m c a a =
        Gemm.formed (2 * alpha) beta m c a fun k j => a j k := funext₂ fun i j => formed_self
    refine ⟨_, kernel_ofBlock alpha beta c a a, ?_⟩
    rw [doubled]
    exact Syrk.kernel_ofBlock (2 * alpha) beta c a

/-- Two rows and one column, with an element above the diagonal. -/
theorem kernel_symmetric_update_of_order_two :
    (∀ x y : Int, x + y = y + x) ∧
    kernel (7 : Int) 3 ⟨.ofMatrix !![1, 2; 3, 4], .ofMatrix !![5; 6], .ofMatrix !![8; 9]⟩ =
      .ok ⟨.ofMatrix !![563, 2; 660, 768], .ofMatrix !![5; 6], .ofMatrix !![8; 9]⟩ ∧
    kernel (7 : Int) 3 ⟨.ofMatrix !![1, 2; 3, 4], .ofMatrix !![8; 9], .ofMatrix !![5; 6]⟩ =
      .ok ⟨.ofMatrix !![563, 2; 660, 768], .ofMatrix !![8; 9], .ofMatrix !![5; 6]⟩ := by
  obtain ⟨sums, exchange, -⟩ := kernel_symmetric_update
  have updates : kernel (7 : Int) 3
      ⟨.ofMatrix !![1, 2; 3, 4], .ofMatrix !![5; 6], .ofMatrix !![8; 9]⟩ =
        .ok ⟨.ofMatrix !![563, 2; 660, 768], .ofMatrix !![5; 6], .ofMatrix !![8; 9]⟩ :=
    (sums 7 3 _ _ _).trans rfl
  obtain ⟨updated, ended, -, exchanged⟩ := exchange (7 : Int) 3 !![1, 2; 3, 4] !![5; 6] !![8; 9]
  have same : Mat.ofMatrix updated = .ofMatrix !![563, 2; 660, 768] :=
    congrArg Arrays.c (Except.ok.inj (ended.symm.trans updates))
  rw [same] at exchanged
  exact ⟨Int.add_comm, updates, exchanged Int.add_comm⟩

end Syr2k
end Kernel
end DenseBench
