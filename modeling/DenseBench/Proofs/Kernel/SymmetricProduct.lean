import DenseBench.Kernel.Symm
import DenseBench.Proofs.Dense.Entries
import DenseBench.Proofs.Dense.Matrix
import DenseBench.Proofs.Kernel.GeneralProduct
import DenseBench.Proofs.Success
import Mathlib.Tactic.Ring

/-!
# The symmetric product, from one triangle

Row `i` of the triangle finishes row `i` of the output with what the rows above it contribute, and
hands its own contribution to these rows.  After `i` rows of the triangle a row of the output above
`i` therefore holds the contributions of the first `i` rows of `B`, and the others are untouched.
Over a commutative ring the result is the general product with the mirrored triangle.
-/

namespace DenseBench
namespace Kernel
namespace Symm

open Success

variable {m n : Nat}

section Order

variable {α : Type} [Zero α] [Add α] [Mul α] (alpha beta : α) (c a b : Nat → Nat → α)

/-- What row `r` of the triangle itself makes of an element of row `r`. -/
def finished (r j : Nat) : α :=
  beta * c r j + alpha * b r j * a r r +
    alpha * accumulate (· + ·) 0 r 0 fun k => b k j * a r k

/-- The element in row `r` and column `j` after `i` rows of the triangle. -/
def formed (i r j : Nat) : α :=
  if r < i then
    accumulate (· + ·) (r + 1) i (finished alpha beta c a b r j) fun k => alpha * b k j * a k r
  else c r j

/-- The output while row `i` of the triangle acts on column `j` and has acted on the rows above
`k`. -/
def partly (i j k r l : Nat) : α :=
  if l < j ∨ l = j ∧ r < k then formed alpha beta c a b (i + 1) r l
  else formed alpha beta c a b i r l

variable {alpha beta c a b} {i j k : Nat}

theorem formed_of_le {r : Nat} (outside : i ≤ r) : formed alpha beta c a b i r j = c r j :=
  if_neg (by omega)

theorem formed_succ {r : Nat} (above : r < i) :
    formed alpha beta c a b (i + 1) r j =
      formed alpha beta c a b i r j + alpha * b i j * a i r := by
  rw [formed, formed, if_pos above, if_pos (by omega), accumulate_succ above]

theorem formed_succ_self :
    formed alpha beta c a b (i + 1) i j = finished alpha beta c a b i j := by
  rw [formed, if_pos (Nat.lt_succ_self i), accumulate_of_le (Nat.le_refl _)]

/-- The triangle is looked at on and below the diagonal only. -/
theorem formed_congr {a' : Nat → Nat → α} {r : Nat}
    (agree : ∀ i k, i < m → k ≤ i → a i k = a' i k) :
    formed alpha beta c a b m r j = formed alpha beta c a' b m r j := by
  by_cases row : r < m
  · have before : (accumulate (· + ·) 0 r 0 fun k => b k j * a r k) =
        accumulate (· + ·) 0 r 0 fun k => b k j * a' r k :=
      accumulate_congr fun k _ left => by rw [agree r k row left.le]
    rw [formed, formed, if_pos row, if_pos row, finished, finished, agree r r row le_rfl, before]
    exact accumulate_congr fun k below inside => by rw [agree k r inside (by omega)]
  · rw [formed_of_le (by omega), formed_of_le (by omega)]

theorem partly_zero : partly alpha beta c a b i 0 0 = formed alpha beta c a b i := by
  funext r l
  simp [partly]

theorem partly_here : partly alpha beta c a b i j k k j = formed alpha beta c a b i k j :=
  if_neg (by omega)

theorem partly_of_lt {r : Nat} (col : j < k) :
    partly alpha beta c a b i k 0 r j = formed alpha beta c a b (i + 1) r j :=
  if_pos (.inl col)

theorem withEntry_partly :
    Mat.withEntry (partly alpha beta c a b i j k) k j (formed alpha beta c a b (i + 1) k j) =
      partly alpha beta c a b i j (k + 1) := by
  funext r l
  simp only [Mat.withEntry, partly]
  grind

/-- The rows below row `i` have nothing to wait for. -/
theorem partly_succ :
    partly alpha beta c a b i j (i + 1) = partly alpha beta c a b i (j + 1) 0 := by
  funext r l
  have below (outside : i < r) :
      formed alpha beta c a b (i + 1) r l = formed alpha beta c a b i r l :=
    (formed_of_le outside).trans (formed_of_le outside.le).symm
  simp only [partly]
  grind

end Order

/-- `A` and `B` may be larger than the product needs. -/
theorem kernel_ofFn {α : Type} [Zero α] [Add α] [Mul α] (alpha beta : α) {p q rows cols : Nat}
    (c a b : Nat → Nat → α) (a_rows : m ≤ p) (a_cols : m ≤ q) (b_rows : m ≤ rows)
    (b_cols : n ≤ cols) :
    kernel alpha beta ⟨.ofFn m n c, .ofFn p q a, .ofFn rows cols b⟩ =
      .ok ⟨.ofFn m n (formed alpha beta c a b m), .ofFn p q a, .ofFn rows cols b⟩ := by
  simp only [kernel, Mat.rows_ofFn, Mat.cols_ofFn]
  refine bind_eq_ok_iff.mpr ⟨_, sweep_stages (fun i => .ofFn m n (formed alpha beta c a b i))
    (Nat.zero_le m) ?_ fun i _ row => ?_, rfl⟩
  · exact congrArg (Mat.ofFn m n) (funext₂ fun r _ => formed_of_le (Nat.zero_le r))
  have acted : Mat.ofFn m n (formed alpha beta c a b (i + 1)) =
      Mat.ofFn m n (partly alpha beta c a b i n 0) :=
    Mat.ofFn_congr fun _ _ _ col => (partly_of_lt col).symm
  rw [acted]
  refine sweep_stages (fun j => Mat.ofFn m n (partly alpha beta c a b i j 0)) (Nat.zero_le n) ?_
    fun j _ col => ?_
  · rw [partly_zero]
  have b_here : (Mat.ofFn rows cols b).read i j = .ok (b i j) :=
    Mat.read_of_lt (by omega) (by omega)
  -- the rows above take up their terms while the sum for row `i` grows
  refine bind_eq_ok_iff.mpr ⟨_, sweep_stages (fun k => (Mat.ofFn m n (partly alpha beta c a b i j k),
    accumulate (· + ·) 0 k 0 fun k => b k j * a i k)) (Nat.zero_le i) ?_ fun k _ above => ?_, ?_⟩
  · rw [accumulate_of_le (Nat.le_refl 0)]
  · have a_here : (Mat.ofFn p q a).read i k = .ok (a i k) := Mat.read_of_lt (by omega) (by omega)
    have b_above : (Mat.ofFn rows cols b).read k j = .ok (b k j) :=
      Mat.read_of_lt (by omega) (by omega)
    have handed : (Mat.ofFn m n (partly alpha beta c a b i j k)).modify k j
        (· + alpha * b i j * a i k) = .ok (Mat.ofFn m n (partly alpha beta c a b i j (k + 1))) := by
      rw [Mat.modify_of_lt (Nat.lt_trans above row) col, partly_here, ← formed_succ above,
        withEntry_partly]
    simp only [b_here, a_here, b_above, ok_bind, handed, accumulate_succ (Nat.zero_le k)]
    rfl
  · have diagonal : (Mat.ofFn p q a).read i i = .ok (a i i) :=
      Mat.read_of_lt (by omega) (by omega)
    simp only [b_here, diagonal, ok_bind]
    rw [Mat.modify_of_lt row col, partly_here, formed_of_le (Nat.le_refl i), ← partly_succ,
      ← withEntry_partly, formed_succ_self]
    rfl

/-- The symmetric matrix with the lower triangle of `a`. -/
def mirrored {α : Type} (a : Matrix (Fin m) (Fin m) α) : Matrix (Fin m) (Fin m) α :=
  .of fun i k => a (max i k) (min i k)

theorem mirrored_block {α : Type} (a : Nat → Nat → α) :
    mirrored (Mat.block m m a) = Mat.block m m fun i k => a (max i k) (min i k) := by
  ext i k
  simp [mirrored]

section Ring

variable {R : Type} [CommRing R]

/-- A row of the symmetric matrix consists of a row of the triangle and of the column below its
end. -/
theorem sum_mirrored (a : Nat → Nat → R) (b : Nat → R) {r : Nat} (row : r < m) :
    ∑ k ∈ Finset.range m, a (max r k) (min r k) * b k =
      ∑ k ∈ Finset.range r, a r k * b k +
        (a r r * b r + ∑ k ∈ Finset.Ico (r + 1) m, a k r * b k) := by
  have before : ∑ k ∈ Finset.range r, a (max r k) (min r k) * b k =
      ∑ k ∈ Finset.range r, a r k * b k := by
    refine Finset.sum_congr rfl fun k member => ?_
    have earlier : k ≤ r := (Finset.mem_range.mp member).le
    rw [max_eq_left earlier, min_eq_right earlier]
  have after : ∑ k ∈ Finset.Ico (r + 1) m, a (max r k) (min r k) * b k =
      ∑ k ∈ Finset.Ico (r + 1) m, a k r * b k := by
    refine Finset.sum_congr rfl fun k member => ?_
    have later : r ≤ k := Nat.le_of_succ_le (Finset.mem_Ico.mp member).1
    rw [max_eq_right later, min_eq_left later]
  rw [Mat.sum_range_eq_around row, before, after, max_self, min_self]

theorem block_formed (alpha beta : R) (c a b : Nat → Nat → R) :
    Mat.block m n (formed alpha beta c a b m) =
      alpha • (mirrored (Mat.block m m a) * Mat.block m n b) + beta • Mat.block m n c := by
  rw [mirrored_block, Mat.block_mul_block, Mat.smul_block, Mat.smul_block, Mat.block_add]
  refine Mat.block_congr fun r j row _ => ?_
  rw [formed, if_pos row, accumulate_add, finished, accumulate_add, sum_mirrored a (b · j) row,
    Nat.Ico_zero_eq_range]
  have before : ∑ k ∈ Finset.range r, b k j * a r k = ∑ k ∈ Finset.range r, a r k * b k j := by
    simp only [mul_comm]
  have after : ∑ k ∈ Finset.Ico (r + 1) m, alpha * b k j * a k r =
      alpha * ∑ k ∈ Finset.Ico (r + 1) m, a k r * b k j := by
    simp only [Finset.mul_sum, mul_assoc, mul_comm (b _ j)]
  rw [before, after]
  ring

/-- Only the lower triangle of the symmetric factor is used, and the result is that of the general
product with the whole of it. -/
theorem kernel_eq_mirrored_product {m n : Nat} (alpha beta : R) (c : Matrix (Fin m) (Fin n) R)
    (a : Matrix (Fin m) (Fin m) R) (b : Matrix (Fin m) (Fin n) R) :
    kernel alpha beta ⟨.ofMatrix c, .ofMatrix a, .ofMatrix b⟩ =
      .ok ⟨.ofMatrix (alpha • (mirrored a * b) + beta • c), .ofMatrix a, .ofMatrix b⟩ ∧
    (kernel alpha beta ⟨.ofMatrix c, .ofMatrix a, .ofMatrix b⟩).map (·.c) =
      (Gemm.kernel alpha beta ⟨.ofMatrix c, .ofMatrix (mirrored a), .ofMatrix b⟩).map (·.c) := by
  have multiplied : kernel alpha beta ⟨.ofMatrix c, .ofMatrix a, .ofMatrix b⟩ =
      .ok ⟨.ofMatrix (alpha • (mirrored a * b) + beta • c), .ofMatrix a, .ofMatrix b⟩ := by
    obtain ⟨c, rfl⟩ := Mat.exists_eq_block c
    obtain ⟨a, rfl⟩ := Mat.exists_eq_block a
    obtain ⟨b, rfl⟩ := Mat.exists_eq_block b
    rw [← block_formed]
    exact kernel_ofFn alpha beta c a b (Nat.le_refl m) (Nat.le_refl m) (Nat.le_refl m)
      (Nat.le_refl n)
  refine ⟨multiplied, ?_⟩
  rw [multiplied, Gemm.kernel_ofMatrix]
  rfl

end Ring

end Symm
end Kernel
end DenseBench
