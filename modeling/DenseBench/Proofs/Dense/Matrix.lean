import DenseBench.Dense.Mat
import DenseBench.Proofs.Dense.Entries
import Mathlib.Algebra.BigOperators.Fin
import Mathlib.Algebra.BigOperators.Intervals
import Mathlib.Data.Matrix.Mul
import Mathlib.Order.Interval.Finset.Fin

/-!
# Dense matrices as matrices

Where the scalars are a ring, what a kernel computes is said with products, transposes and sums of
matrices.  `Mat.ofMatrix` lays such a matrix out row by row, and every dense matrix is laid out from
one.  A loop nest counts with naturals, so its matrices are blocks of functions on pairs of
naturals.
-/

namespace DenseBench
namespace Mat

variable {α : Type} {m n p : Nat}

/-- The dense matrix with these entries. -/
def ofMatrix (entries : Matrix (Fin m) (Fin n) α) : Mat α :=
  ⟨m, n, Vector.ofFn fun position => entries position.divNat position.modNat⟩

/-- Every dense matrix holds the entries of a matrix. -/
theorem exists_eq_ofMatrix (a : Mat α) :
    ∃ entries : Matrix (Fin a.rows) (Fin a.cols) α, a = ofMatrix entries := by
  refine ⟨fun i j => a.data.get ⟨i * a.cols + j, position_lt i.isLt j.isLt⟩, ?_⟩
  obtain ⟨rows, cols, data⟩ := a
  refine congrArg (Mat.mk rows cols) (Vector.ext fun position bound => ?_)
  simp only [Vector.getElem_ofFn, Fin.coe_divNat, Fin.coe_modNat, Nat.div_add_mod']
  rfl

/-- The first `m` rows and `n` columns of `f`. -/
def block (m n : Nat) (f : Nat → Nat → α) : Matrix (Fin m) (Fin n) α :=
  .of fun i j => f i j

@[simp]
theorem block_apply (f : Nat → Nat → α) (i : Fin m) (j : Fin n) : block m n f i j = f i j := rfl

theorem ofMatrix_block (f : Nat → Nat → α) : ofMatrix (block m n f) = ofFn m n f := rfl

theorem exists_eq_block [Nonempty α] (entries : Matrix (Fin m) (Fin n) α) :
    ∃ f : Nat → Nat → α, entries = block m n f := by
  obtain ⟨outside⟩ := ‹Nonempty α›
  refine ⟨fun i j => if inside : i < m ∧ j < n then entries ⟨i, inside.1⟩ ⟨j, inside.2⟩
    else outside, ?_⟩
  ext i j
  simp

@[simp]
theorem read_ofMatrix (entries : Matrix (Fin m) (Fin n) α) (i : Fin m) (j : Fin n) :
    (ofMatrix entries).read i j = .ok (entries i j) := by
  have inhabited : Nonempty α := ⟨entries i j⟩
  obtain ⟨f, rfl⟩ := exists_eq_block entries
  rw [ofMatrix_block, read_ofFn, if_pos ⟨i.isLt, j.isLt⟩, block_apply]

/-- Different matrices are laid out differently. -/
theorem ofMatrix_inj {left right : Matrix (Fin m) (Fin n) α} :
    ofMatrix left = ofMatrix right ↔ left = right := by
  constructor
  · intro same
    ext i j
    have entry := congrArg (·.read i j) same
    simpa only [read_ofMatrix, Except.ok.injEq] using entry
  · rintro rfl
    rfl

theorem zeros_eq_ofMatrix [Zero α] : zeros m n = ofMatrix (0 : Matrix (Fin m) (Fin n) α) :=
  zeros_eq_ofFn m n

theorem block_congr {f g : Nat → Nat → α} (agree : ∀ i j, i < m → j < n → f i j = g i j) :
    block m n f = block m n g := by
  ext i j
  exact agree i j i.isLt j.isLt

/-- Fronts that end on the diagonal make up the lower triangle. -/
theorem block_withFronts_succ (f values : Nat → Nat → α) :
    block n n (withFronts f n (· + 1) values) =
      .of fun i j => if j ≤ i then block n n values i j else block n n f i j := by
  ext i j
  have row : (i : Nat) < n := i.isLt
  simp [withFronts, row]

theorem transpose_block (f : Nat → Nat → α) :
    (block m n f).transpose = block n m fun i j => f j i := rfl

theorem block_add [Add α] (f g : Nat → Nat → α) :
    block m n f + block m n g = block m n fun i j => f i j + g i j := rfl

theorem smul_block [Mul α] (scale : α) (f : Nat → Nat → α) :
    scale • block m n f = block m n fun i j => scale * f i j := rfl

theorem block_mul_block [NonUnitalNonAssocSemiring α] (f g : Nat → Nat → α) :
    block m p f * block p n g = block m n fun i j => ∑ k ∈ Finset.range p, f i k * g k j := by
  ext i j
  exact Fin.sum_univ_eq_sum_range (fun k => f i k * g k j) p

/-- A sum as far as the diagonal. -/
theorem sum_Iic_eq_sum_range [AddCommMonoid α] (j : Fin n) (f : Nat → α) :
    ∑ k ∈ Finset.Iic j, f k = ∑ k ∈ Finset.range (j + 1), f k := by
  rw [Nat.range_succ_eq_Iic, ← Fin.map_valEmbedding_Iic, Finset.sum_map]
  rfl

/-- A sum of products over a triangle is taken apart at the diagonal. -/
theorem sum_range_eq_around [AddCommMonoid α] {i : Nat} (inside : i < m) (f : Nat → α) :
    ∑ k ∈ Finset.range m, f k =
      ∑ k ∈ Finset.range i, f k + (f i + ∑ k ∈ Finset.Ico (i + 1) m, f k) := by
  rw [← Finset.sum_eq_sum_Ico_succ_bot inside, Finset.sum_range_add_sum_Ico f inside.le]

end Mat
end DenseBench
