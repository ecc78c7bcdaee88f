import DenseBench.Kernel.Gemm
import DenseBench.Proofs.Dense.Entries
import DenseBench.Proofs.Dense.Matrix
import DenseBench.Proofs.Success
import Mathlib.Algebra.Ring.GeomSum
import Mathlib.Tactic.Module

/-!
# The general matrix product, element by element

Every element of the output starts from its scaled old value and takes up one product per inner
index, in ascending order.  Over a commutative ring this is `alpha * A * B + beta * C`, and further
calls on the same arrays scale what the earlier ones have left.
-/

namespace DenseBench
namespace Kernel
namespace Gemm

open Success

variable {ni nj nk : Nat}

section Order

variable {α : Type} [Add α] [Mul α]

/-- The element in row `i` and column `j` of the output. -/
def formed (alpha beta : α) (nk : Nat) (c a b : Nat → Nat → α) (i j : Nat) : α :=
  accumulate (· + ·) 0 nk (c i j * beta) fun k => alpha * a i k * b k j

/-- `C` and `B` may be larger than the product needs. -/
theorem kernel_ofFn (alpha beta : α) {rows inner cols : Nat} (c a b : Nat → Nat → α)
    (c_rows : ni ≤ rows) (b_rows : nk ≤ inner) (b_cols : nj ≤ cols) :
    kernel alpha beta ⟨.ofFn rows nj c, .ofFn ni nk a, .ofFn inner cols b⟩ =
      .ok ⟨.ofFn rows nj (Mat.withRows c ni nj (formed alpha beta nk c a b)), .ofFn ni nk a,
        .ofFn inner cols b⟩ := by
  simp only [kernel, Mat.rows_ofFn, Mat.cols_ofFn]
  rw [Mat.sweep_accumulate_fronts (fun _ => nj) (· * beta) (· + ·)
    (fun i j k => alpha * a i k * b k j) c_rows]
  · rfl
  · intro i row
    rfl
  · intro i j g row col
    rfl
  · intro i k j g row within col
    rw [Mat.read_of_lt row within, Mat.read_of_lt (by omega) (by omega)]
    rfl

/-- Where `C` and `B` are no larger than that, all of `C` is replaced. -/
theorem kernel_ofBlock (alpha beta : α) (c a b : Nat → Nat → α) :
    kernel alpha beta ⟨.ofMatrix (Mat.block ni nj c), .ofMatrix (Mat.block ni nk a),
        .ofMatrix (Mat.block nk nj b)⟩ =
      .ok ⟨.ofMatrix (Mat.block ni nj (formed alpha beta nk c a b)),
        .ofMatrix (Mat.block ni nk a), .ofMatrix (Mat.block nk nj b)⟩ := by
  simp only [Mat.ofMatrix_block]
  rw [kernel_ofFn alpha beta c a b le_rfl le_rfl le_rfl, Mat.ofFn_withRows]

end Order

section Ring

variable {R : Type} [CommRing R]

theorem block_formed (alpha beta : R) (c a b : Nat → Nat → R) :
    Mat.block ni nj (formed alpha beta nk c a b) =
      alpha • (Mat.block ni nk a * Mat.block nk nj b) + beta • Mat.block ni nj c := by
  rw [Mat.block_mul_block, Mat.smul_block, Mat.smul_block, Mat.block_add]
  refine Mat.block_congr fun i j _ _ => ?_
  rw [formed, accumulate_add, Nat.Ico_zero_eq_range, Finset.mul_sum, add_comm, mul_comm beta]
  simp only [mul_assoc]

theorem kernel_ofMatrix (alpha beta : R) (c : Matrix (Fin ni) (Fin nj) R)
    (a : Matrix (Fin ni) (Fin nk) R) (b : Matrix (Fin nk) (Fin nj) R) :
    kernel alpha beta ⟨.ofMatrix c, .ofMatrix a, .ofMatrix b⟩ =
      .ok ⟨.ofMatrix (alpha • (a * b) + beta • c), .ofMatrix a, .ofMatrix b⟩ := by
  obtain ⟨c, rfl⟩ := Mat.exists_eq_block c
  obtain ⟨a, rfl⟩ := Mat.exists_eq_block a
  obtain ⟨b, rfl⟩ := Mat.exists_eq_block b
  rw [kernel_ofBlock, block_formed]

/-- The output of a call is determined. -/
theorem output_eq {alpha beta : R} {c p : Matrix (Fin ni) (Fin nj) R}
    {a : Matrix (Fin ni) (Fin nk) R} {b : Matrix (Fin nk) (Fin nj) R}
    (ended : kernel alpha beta ⟨.ofMatrix c, .ofMatrix a, .ofMatrix b⟩ =
      .ok ⟨.ofMatrix p, .ofMatrix a, .ofMatrix b⟩) :
    p = alpha • (a * b) + beta • c := by
  rw [kernel_ofMatrix] at ended
  exact (Mat.ofMatrix_inj.mp (congrArg Arrays.c (Except.ok.inj ended))).symm

/-- What `t` calls have made of `c` with the product `p` in each of them. -/
def repeated (alpha beta : R) (c p : Matrix (Fin ni) (Fin nj) R) (t : Nat) :
    Matrix (Fin ni) (Fin nj) R :=
  beta ^ t • c + ((∑ s ∈ Finset.range t, beta ^ s) * alpha) • p

theorem repeated_zero (alpha beta : R) (c p : Matrix (Fin ni) (Fin nj) R) :
    repeated alpha beta c p 0 = c := by
  simp [repeated]

/-- One more call scales what there is and adds the product. -/
theorem repeated_succ (alpha beta : R) (c p : Matrix (Fin ni) (Fin nj) R) (t : Nat) :
    repeated alpha beta c p (t + 1) = alpha • p + beta • repeated alpha beta c p t := by
  rw [repeated, repeated, geom_sum_succ, pow_succ']
  module

end Ring

/-- The products are added to the scaled old element one after the other, with the operations in
this order and whatever laws they obey; without inner indices only the scaling is left.  Over a
commutative ring `t` successive calls on the same arrays scale the old output `t` times, and the
product of a call as often as there are calls after it. -/
theorem kernel_repeated :
    (∀ {α : Type} [Add α] [Mul α] (alpha beta : α) {ni nj nk : Nat}
        (c : Matrix (Fin ni) (Fin nj) α) (a : Matrix (Fin ni) (Fin nk) α)
        (b : Matrix (Fin nk) (Fin nj) α),
      kernel alpha beta ⟨.ofMatrix c, .ofMatrix a, .ofMatrix b⟩ =
        .ok ⟨.ofMatrix (.of fun i j =>
            Fin.foldl nk (fun sum k => sum + alpha * a i k * b k j) (c i j * beta)),
          .ofMatrix a, .ofMatrix b⟩) ∧
    (∀ {R : Type} [CommRing R] (alpha beta : R) {ni nj nk : Nat}
        (c : Matrix (Fin ni) (Fin nj) R) (a : Matrix (Fin ni) (Fin nk) R)
        (b : Matrix (Fin nk) (Fin nj) R) (t : Nat),
      sweep 0 t ⟨.ofMatrix c, .ofMatrix a, .ofMatrix b⟩ (fun _ => kernel alpha beta) =
        .ok ⟨.ofMatrix (beta ^ t • c + ((∑ s ∈ Finset.range t, beta ^ s) * alpha) • (a * b)),
          .ofMatrix a, .ofMatrix b⟩) := by
  constructor
  · intro α _ _ alpha beta ni nj nk c a b
    have inhabited : Nonempty α := ⟨alpha⟩
    obtain ⟨c, rfl⟩ := Mat.exists_eq_block c
    obtain ⟨a, rfl⟩ := Mat.exists_eq_block a
    obtain ⟨b, rfl⟩ := Mat.exists_eq_block b
    have folded : Mat.block ni nj (formed alpha beta nk c a b) = .of fun i j =>
        Fin.foldl nk (fun sum k => sum + alpha * Mat.block ni nk a i k * Mat.block nk nj b k j)
          (Mat.block ni nj c i j * beta) := by
      ext i j
      exact accumulate_eq_foldl
    rw [kernel_ofBlock, folded]
  · intro R _ alpha beta ni nj nk c a b t
    -- the factors stay, so each call finds the output of the calls before it
    apply sweep_stages (fun s => Arrays.mk (.ofMatrix (repeated alpha beta c (a * b) s))
      (.ofMatrix a) (.ofMatrix b)) (Nat.zero_le t)
    · rw [repeated_zero]
    · intro s _ _
      rw [kernel_ofMatrix, repeated_succ]

end Gemm
end Kernel
end DenseBench
