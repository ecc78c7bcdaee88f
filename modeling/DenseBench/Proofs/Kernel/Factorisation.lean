import DenseBench.Kernel.Cholesky
import DenseBench.Proofs.Dense.Entries
import DenseBench.Proofs.Dense.Matrix
import DenseBench.Proofs.Success
import Mathlib.Algebra.Field.Basic
import Mathlib.LinearAlgebra.Matrix.Notation
import Mathlib.Tactic.NormNum

/-!
# The factorisation, in place

An element of the lower triangle is input, then partial difference, then element of the factor.  The
factor is determined by a recurrence along the rows, which has a solution for every matrix, and the
kernel leaves this solution.  In exact arithmetic the recurrence says that the factor times its
transpose is the matrix again, as long as every pivot has a root other than zero; so a product of a
lower-triangular matrix with its own transpose is taken apart into this matrix.
-/

namespace DenseBench
namespace Kernel
namespace Cholesky

open Success

variable {n : Nat}

section Run

variable {α : Type} [Mul α] [Sub α] [Div α]

/-- Take the products of the first `j` columns away from the element in row `i` and column `j`. -/
def reduceEntry (i j : Nat) (a : Mat α) : Checked (Mat α) :=
  sweep 0 j a fun k a => do
    let term := (← a.read i k) * (← a.read j k)
    a.modify i j (· - term)

/-- Row `i` up to its root: left of the diagonal it is the row of the factor, and the diagonal holds
the pivot. -/
def reduceRow (i : Nat) (a : Mat α) : Checked (Mat α) := do
  let a ← sweep 0 i a fun j a => do
    let a ← reduceEntry i j a
    let pivot ← a.read j j
    a.modify i j (· / pivot)
  reduceEntry i i a

/-- The first `count` rows of the factorisation. -/
def factorRows (sqrt : α → α) (count : Nat) (a : Mat α) : Checked (Mat α) :=
  sweep 0 count a fun i a => do
    let a ← reduceRow i a
    a.modify i i sqrt

/-- What stands in the diagonal of row `i` just before its root is taken. -/
def pivot (sqrt : α → α) (a : Mat α) (i : Nat) : Checked α := do
  let a ← factorRows sqrt i a
  let a ← reduceRow i a
  a.read i i

theorem kernel_eq_factorRows (sqrt : α → α) (a : Mat α) :
    kernel sqrt ⟨a⟩ = Arrays.mk <$> factorRows sqrt a.rows a := by
  simp only [kernel, factorRows, reduceRow, reduceEntry, bind_assoc, map_eq_pure_bind]

/-- Row `i` goes on from the matrix whose pivot is read. -/
theorem factorRows_succ (sqrt : α → α) (i : Nat) (a : Mat α) :
    factorRows sqrt (i + 1) a = (do
      let a ← factorRows sqrt i a
      let a ← reduceRow i a
      a.modify i i sqrt) :=
  sweep_succ (Nat.zero_le i)

end Run

section Entries

variable {α : Type} {a l : Nat → Nat → α} {q i j : Nat}

/-- The entries `a`, with those of `l` on and below the diagonal. -/
def lowered (a l : Nat → Nat → α) (i j : Nat) : α :=
  if j ≤ i then l i j else a i j

theorem lowered_of_le (lower : j ≤ i) : lowered a l i j = l i j :=
  if_pos lower

theorem lowered_of_lt (upper : i < j) : lowered a l i j = a i j :=
  if_neg (by omega)

/-- The entries `a` when the rows before row `i`, and row `i` up to column `j`, are those of `l`. -/
def partly (a l : Nat → Nat → α) (q i j : Nat) : Nat → Nat → α :=
  Mat.withRow (Mat.withRows a i q (lowered a l)) i j (lowered a l i)

theorem partly_of_above {r c : Nat} (above : r < i) (col : c < q) (lower : c ≤ r) :
    partly a l q i j r c = l r c := by
  rw [partly, Mat.withRow_of_ne (.inl (by omega)), Mat.withRows_of_lt above col,
    lowered_of_le lower]

theorem partly_of_left {c : Nat} (left : c < j) (lower : c ≤ i) :
    partly a l q i j i c = l i c := by
  rw [partly, Mat.withRow_of_lt left, lowered_of_le lower]

theorem partly_of_right {c : Nat} (right : j ≤ c) : partly a l q i j i c = a i c :=
  (Mat.withRow_of_ne (.inr right)).trans (Mat.withRows_of_le (.inl (Nat.le_refl i)))

/-- With the element of the diagonal the row is finished, as nothing right of it changes. -/
theorem withEntry_partly (col : i < q) :
    Mat.withEntry (partly a l q i i) i i (l i i) = Mat.withRows a (i + 1) q (lowered a l) := by
  have last : l i i = lowered a l i i := (lowered_of_le (Nat.le_refl i)).symm
  rw [last, partly, Mat.withEntry_withRow, Mat.withRow_of_same col, Mat.withRow_withRows]
  intro c right _
  rw [lowered_of_lt right, Mat.withRows_of_le (.inl (Nat.le_refl i))]

end Entries

section Recurrence

variable {α : Type} [Mul α] [Sub α] {a l : Nat → Nat → α} {q i j : Nat}

/-- The element of `a` in row `i` and column `j` without the products of the columns before `j`. -/
def reduced (a l : Nat → Nat → α) (i j : Nat) : α :=
  accumulate (· - ·) 0 j (a i j) fun k => l i k * l j k

theorem reduceEntry_ofFn {f : Nat → Nat → α} (row : i < n) (lower : j ≤ i) (wide : n ≤ q)
    (start : f i j = a i j) (here : ∀ k, k < j → f i k = l i k)
    (above : ∀ k, k < j → f j k = l j k) :
    reduceEntry i j (.ofFn n q f) =
      .ok (.ofFn n q (Mat.withEntry f i j (reduced a l i j))) := by
  rw [reduced, ← start]
  refine Mat.sweep_withEntry i j (· - ·) (fun k => l i k * l j k) (Nat.zero_le j) ?_
  intro k value _ earlier
  rw [Mat.read_of_lt row (by omega), Mat.read_of_lt (by omega) (by omega),
    Mat.withEntry_of_ne (.inr (by omega)), Mat.withEntry_of_ne (.inr (by omega)),
    here k earlier, above k earlier]
  exact Mat.modify_withEntry row (by omega) (· - l i k * l j k)

variable [Div α] {sqrt : α → α}

/-- The first `n` rows of `l` are those of the factor of `a`. -/
structure Factored (sqrt : α → α) (n : Nat) (a l : Nat → Nat → α) : Prop where
  below : ∀ i j, j < i → i < n → l i j = reduced a l i j / l j j
  diagonal : ∀ i, i < n → l i i = sqrt (reduced a l i i)

/-- Matrices with the same lower triangle have the same factor. -/
theorem Factored.congr {a' : Nat → Nat → α} (agree : ∀ i j, i < n → j ≤ i → a i j = a' i j)
    (factored : Factored sqrt n a l) : Factored sqrt n a' l where
  below i j left row := by
    rw [factored.below i j left row, reduced, reduced, agree i j row left.le]
  diagonal i row := by
    rw [factored.diagonal i row, reduced, reduced, agree i i row le_rfl]

theorem reduceRow_ofFn (factored : Factored sqrt n a l) (wide : n ≤ q) (row : i < n) :
    reduceRow i (.ofFn n q (Mat.withRows a i q (lowered a l))) =
      .ok (.ofFn n q (Mat.withEntry (partly a l q i i) i i (reduced a l i i))) := by
  have col : i < q := Nat.lt_of_lt_of_le row wide
  refine bind_eq_ok_iff.mpr ⟨_, Mat.sweep_withRow i (lowered a l i) fun j before => ?_, ?_⟩
  · -- in terms of `partly`: columns before `j` are final, and `j` still holds its input
    change _ = Except.ok (Mat.ofFn n q (Mat.withEntry (partly a l q i j) i j (lowered a l i j)))
    have diagonal : Mat.withEntry (partly a l q i j) i j (reduced a l i j) j j = l j j := by
      rw [Mat.withEntry_of_ne (.inl (by omega)), partly_of_above before (by omega) (Nat.le_refl j)]
    refine bind_eq_ok_iff.mpr ⟨_, reduceEntry_ofFn (f := partly a l q i j) row before.le wide
      (partly_of_right (Nat.le_refl j)) (fun k earlier => partly_of_left earlier (by omega))
      fun k earlier => partly_of_above before (by omega) earlier.le, ?_⟩
    rw [Mat.read_of_lt (by omega) (by omega), diagonal, lowered_of_le before.le,
      factored.below i j before row]
    exact Mat.modify_withEntry row (by omega) (· / l j j)
  · exact reduceEntry_ofFn row (Nat.le_refl i) wide (partly_of_right (Nat.le_refl i))
      (fun k earlier => partly_of_left earlier earlier.le)
      fun k earlier => partly_of_left earlier earlier.le

theorem factorRows_ofFn (factored : Factored sqrt n a l) (wide : n ≤ q) (rows : i ≤ n) :
    factorRows sqrt i (.ofFn n q a) = .ok (.ofFn n q (Mat.withRows a i q (lowered a l))) := by
  induction i with
  | zero => rw [Mat.withRows_zero]; rfl
  | succ i ih =>
      have row : i < n := rows
      rw [factorRows_succ, ih row.le, ok_bind, reduceRow_ofFn factored wide row, ok_bind,
        Mat.modify_withEntry row (by omega), ← factored.diagonal i row,
        withEntry_partly (by omega)]

theorem pivot_ofFn (factored : Factored sqrt n a l) (wide : n ≤ q) (row : i < n) :
    pivot sqrt (.ofFn n q a) i = .ok (reduced a l i i) := by
  rw [pivot, factorRows_ofFn factored wide row.le, ok_bind, reduceRow_ofFn factored wide row,
    ok_bind, Mat.read_of_lt row (by omega), Mat.withEntry_same]

/-- The kernel leaves the factor; the matrix may have more columns than it needs. -/
theorem kernel_ofFn (factored : Factored sqrt n a l) (wide : n ≤ q) :
    kernel sqrt ⟨.ofFn n q a⟩ = .ok ⟨.ofFn n q (lowered a l)⟩ := by
  have all : Mat.ofFn n q (Mat.withRows a n q (lowered a l)) = Mat.ofFn n q (lowered a l) :=
    Mat.ofFn_withRows
  rw [kernel_eq_factorRows, Mat.rows_ofFn, factorRows_ofFn factored wide (Nat.le_refl n), all]
  rfl

end Recurrence

section Existence

variable {α : Type} [Mul α] [Sub α] {a l : Nat → Nat → α} {value : α}

/-- A reduced element depends on the columns before its own only, and there on two rows. -/
theorem reduced_withEntry {i j r c : Nat} (apart : j ≤ c ∨ i ≠ r ∧ j ≠ r) :
    reduced a (Mat.withEntry l r c value) i j = reduced a l i j := by
  refine accumulate_congr fun k _ earlier => ?_
  rw [Mat.withEntry_of_ne (by omega), Mat.withEntry_of_ne (by omega)]

variable [Div α] {sqrt : α → α}

namespace Factored

theorem succ (factored : Factored sqrt n a l)
    (row : ∀ j, j < n → l n j = reduced a l n j / l j j)
    (root : l n n = sqrt (reduced a l n n)) : Factored sqrt (n + 1) a l where
  below i j before inside := by
    rcases Nat.lt_succ_iff_lt_or_eq.mp inside with above | rfl
    · exact factored.below i j before above
    · exact row j before
  diagonal i inside := by
    rcases Nat.lt_succ_iff_lt_or_eq.mp inside with above | rfl
    · exact factored.diagonal i above
    · exact root

/-- Another row does not matter to the rows above it. -/
theorem withEntry (factored : Factored sqrt n a l) (c : Nat) (value : α) :
    Factored sqrt n a (Mat.withEntry l n c value) where
  below i j before row := by
    rw [reduced_withEntry (.inr (by omega)), Mat.withEntry_of_ne (.inl (by omega)),
      Mat.withEntry_of_ne (.inl (by omega))]
    exact factored.below i j before row
  diagonal i row := by
    rw [reduced_withEntry (.inr (by omega)), Mat.withEntry_of_ne (.inl (by omega))]
    exact factored.diagonal i row

/-- The next row is determined from left to right. -/
theorem exists_row (factored : Factored sqrt n a l) {m : Nat} (left : m ≤ n) :
    ∃ l, Factored sqrt n a l ∧ ∀ j, j < m → l n j = reduced a l n j / l j j := by
  induction m with
  | zero => exact ⟨l, factored, fun j none => absurd none (Nat.not_lt_zero j)⟩
  | succ m ih =>
      obtain ⟨l, factored, known⟩ := ih (by omega)
      refine ⟨_, factored.withEntry m (reduced a l n m / l m m), fun j before => ?_⟩
      have above : j ≠ n := by omega
      rw [reduced_withEntry (.inl (by omega)), Mat.withEntry_of_ne (.inl above)]
      rcases Nat.lt_succ_iff_lt_or_eq.mp before with earlier | rfl
      · rw [Mat.withEntry_of_ne (.inr earlier.ne), known j earlier]
      · rw [Mat.withEntry_same]

end Factored

/-- The recurrence has a solution, whatever the pivots are. -/
theorem exists_factored (sqrt : α → α) (n : Nat) (a : Nat → Nat → α) :
    ∃ l, Factored sqrt n a l := by
  induction n with
  | zero =>
      exact ⟨a, fun i _ _ none => absurd none (Nat.not_lt_zero i),
        fun i none => absurd none (Nat.not_lt_zero i)⟩
  | succ n ih =>
      obtain ⟨above, factored⟩ := ih
      obtain ⟨l, factored, row⟩ := factored.exists_row (Nat.le_refl n)
      refine ⟨_, (factored.withEntry n (sqrt (reduced a l n n))).succ (fun j before => ?_) ?_⟩
      · rw [reduced_withEntry (.inl before.le), Mat.withEntry_of_ne (.inr before.ne),
          Mat.withEntry_of_ne (.inl before.ne), row j before]
      · rw [reduced_withEntry (.inl (Nat.le_refl n)), Mat.withEntry_same]

end Existence

section Exact

variable {K : Type} [Field K] {sqrt : K → K} {a l : Nat → Nat → K} {i j : Nat}

theorem reduced_eq : reduced a l i j = a i j - ∑ k ∈ Finset.range j, l i k * l j k := by
  rw [reduced, accumulate_sub, Nat.Ico_zero_eq_range]

/-- What the recurrence takes away is put back by the product. -/
theorem sum_eq_of_last (last : l i j * l j j = reduced a l i j) :
    ∑ k ∈ Finset.range (j + 1), l i k * l j k = a i j := by
  rw [Finset.sum_range_succ, last, reduced_eq, add_sub_cancel]

/-- The product of the factor with its transpose, on and below the diagonal. -/
theorem Factored.sum_eq (factored : Factored sqrt n a l)
    (rooted : ∀ i, i < n →
      sqrt (reduced a l i i) ^ 2 = reduced a l i i ∧ sqrt (reduced a l i i) ≠ 0)
    (lower : j ≤ i) (row : i < n) : ∑ k ∈ Finset.range (j + 1), l i k * l j k = a i j := by
  apply sum_eq_of_last
  rcases Nat.lt_or_eq_of_le lower with left | rfl
  · have pivot_ne : l j j ≠ 0 := by
      rw [factored.diagonal j (by omega)]
      exact (rooted j (by omega)).2
    rw [factored.below i j left row, div_mul_cancel₀ _ pivot_ne]
  · rw [factored.diagonal j row, ← sq]
    exact (rooted j row).1

/-- Where every pivot has a root other than zero, the factor times its transpose is the matrix
again: on and below the diagonal, where the kernel reads it.  Above the diagonal it is not written. -/
theorem kernel_factorises {n : Nat} (sqrt : K → K) (a : Matrix (Fin n) (Fin n) K)
    (rooted : ∀ (i : Fin n) (p : K), pivot sqrt (.ofMatrix a) i = .ok p →
      sqrt p ^ 2 = p ∧ sqrt p ≠ 0) :
    ∃ l : Matrix (Fin n) (Fin n) K,
      kernel sqrt ⟨.ofMatrix a⟩ = .ok ⟨.ofMatrix l⟩ ∧
      (∀ i j, j ≤ i → ∑ k ∈ Finset.Iic j, l i k * l j k = a i j) ∧
      (∀ i : Fin n, ∃ p, pivot sqrt (.ofMatrix a) i = .ok p ∧ l i i = sqrt p) ∧
      ∀ i j, i < j → l i j = a i j := by
  obtain ⟨a, rfl⟩ := Mat.exists_eq_block a
  obtain ⟨l, factored⟩ := exists_factored sqrt n a
  have pivots (i : Fin n) : pivot sqrt (.ofMatrix (Mat.block n n a)) i = .ok (reduced a l i i) :=
    pivot_ofFn factored (Nat.le_refl n) i.isLt
  refine ⟨Mat.block n n (lowered a l), kernel_ofFn factored (Nat.le_refl n), ?_, ?_, ?_⟩
  · intro i j lower
    have product := factored.sum_eq (fun i row => rooted ⟨i, row⟩ _ (pivots ⟨i, row⟩)) lower i.isLt
    rw [Mat.block_apply, ← product, ← Mat.sum_Iic_eq_sum_range]
    refine Finset.sum_congr rfl fun k member => ?_
    have earlier : k ≤ j := Finset.mem_Iic.mp member
    rw [Mat.block_apply, Mat.block_apply, lowered_of_le (earlier.trans lower),
      lowered_of_le earlier]
  · intro i
    refine ⟨_, pivots i, ?_⟩
    rw [Mat.block_apply, lowered_of_le (Nat.le_refl i), factored.diagonal i i.isLt]
  · intro i j upper
    rw [Mat.block_apply, lowered_of_lt upper]
    rfl

end Exact

theorem kernel_factorises_of_order_two :
    (∀ (i : Fin 2) (p : ℚ),
      pivot (fun x => if x = 4 then 2 else 3) (.ofMatrix !![4, 7; 2, 10]) i = .ok p →
        (if p = 4 then 2 else 3 : ℚ) ^ 2 = p ∧ (if p = 4 then 2 else 3 : ℚ) ≠ 0) ∧
    ∃ l : Matrix (Fin 2) (Fin 2) ℚ,
      kernel (fun x => if x = 4 then 2 else 3) ⟨.ofMatrix !![4, 7; 2, 10]⟩ = .ok ⟨.ofMatrix l⟩ ∧
      ∑ k ∈ Finset.Iic 0, l 1 k * l 0 k = 2 ∧ l 0 1 = 7 := by
  have rooted : ∀ (i : Fin 2) (p : ℚ),
      pivot (fun x => if x = 4 then 2 else 3) (.ofMatrix !![4, 7; 2, 10]) i = .ok p →
        (if p = 4 then 2 else 3 : ℚ) ^ 2 = p ∧ (if p = 4 then 2 else 3 : ℚ) ≠ 0 := by
    have first : pivot (fun x : ℚ => if x = 4 then 2 else 3) (.ofMatrix !![4, 7; 2, 10]) 0 =
      .ok 4 := by decide +kernel
    have second : pivot (fun x : ℚ => if x = 4 then 2 else 3) (.ofMatrix !![4, 7; 2, 10]) 1 =
      .ok 9 := by decide +kernel
    intro i p here
    obtain rfl | rfl : i = 0 ∨ i = 1 := by omega
    · obtain rfl : 4 = p := Except.ok.inj (first.symm.trans here)
      norm_num
    · obtain rfl : 9 = p := Except.ok.inj (second.symm.trans here)
      norm_num
  obtain ⟨l, ended, product, -, upper⟩ := kernel_factorises _ _ rooted
  exact ⟨rooted, l, ended, product 1 0 (by decide), upper 0 1 (by decide)⟩

end Cholesky
end Kernel
end DenseBench
