import DenseBench.Proofs.Kernel.Factorisation
import Mathlib.LinearAlgebra.Matrix.Notation

/-!
# The generated matrix and its factor

The matrix to be factorised is made as the product of a lower-triangular matrix with its own
transpose.  The kernel takes such a product apart again, as the recurrence of the factor has this
matrix for a solution.  For the generated matrix the factor has a unit diagonal and every pivot is
one.
-/

namespace DenseBench
namespace Kernel
namespace Cholesky

open Success

variable {n : Nat}

section Gram

variable {α : Type} [Zero α] [Add α] [Mul α]

/-- The element in row `r` and column `s` of the product of `l` with its own transpose. -/
def gramEntry (n : Nat) (l : Nat → Nat → α) (r s : Nat) : α :=
  accumulate (· + ·) 0 n 0 fun t => l r t * l s t

theorem gramEntry_zero (l : Nat → Nat → α) : gramEntry 0 l = fun _ _ => 0 :=
  funext₂ fun _ _ => accumulate_of_le (Nat.le_refl 0)

theorem gramEntry_succ (n : Nat) (l : Nat → Nat → α) :
    gramEntry (n + 1) l = fun r s => gramEntry n l r s + l r n * l s n :=
  funext₂ fun _ _ => accumulate_succ (Nat.zero_le n)

theorem gram_ofFn (l : Nat → Nat → α) :
    gram (.ofFn n n l) = .ok (.ofFn n n (gramEntry n l)) := by
  rw [gram, Mat.rows_ofFn, Mat.zeros_eq_ofFn]
  refine sweep_stages (fun t => Mat.ofFn n n (gramEntry t l)) (Nat.zero_le n) ?_
    fun t _ inner => ?_
  · rw [gramEntry_zero]
  -- one inner index is taken up in every element before the next one is
  refine (Mat.sweep_withRows (fun r s => gramEntry t l r s + l r t * l s t) fun r row =>
    Mat.sweep_modify_row (fun s => (· + l r t * l s t)) row (Nat.le_refl n)
      (fun s _ => Mat.withRows_of_le (.inl (Nat.le_refl r))) fun s g col => ?_).trans ?_
  · rw [Mat.read_of_lt row inner, Mat.read_of_lt col inner]
    rfl
  · rw [Mat.ofFn_withRows, gramEntry_succ]

/-- Where the products in a column do not depend on the order of their factors, the result is
symmetric. -/
theorem gramEntry_comm {l : Nat → Nat → α} {r s : Nat}
    (commutes : ∀ t, t < n → l r t * l s t = l s t * l r t) :
    gramEntry n l r s = gramEntry n l s r :=
  accumulate_congr fun t _ inner => commutes t inner

end Gram
section Inverse

variable {K : Type} [Field K] {sqrt : K → K} {l : Nat → Nat → K} {i j : Nat}

/-- From an element of the product everything but its last term is taken away. -/
theorem reduced_gramEntry (lower : ∀ k, j < k → k < n → l j k = 0) (inside : j < n) :
    reduced (gramEntry n l) l i j = l i j * l j j := by
  have beyond : ∑ k ∈ Finset.Ico (j + 1) n, l i k * l j k = 0 := by
    refine Finset.sum_eq_zero fun k member => ?_
    obtain ⟨after, within⟩ := Finset.mem_Ico.mp member
    rw [lower k after within, mul_zero]
  rw [reduced_eq, gramEntry, accumulate_add, Nat.Ico_zero_eq_range, zero_add,
    Mat.sum_range_eq_around inside, beyond, add_zero, add_sub_cancel_left]

/-- A lower-triangular matrix is the factor of its product, if the roots are its diagonal. -/
theorem factored_gramEntry (lower : ∀ i j, i < j → j < n → l i j = 0)
    (regular : ∀ i, i < n → l i i ≠ 0) (rooted : ∀ i, i < n → sqrt (l i i ^ 2) = l i i) :
    Factored sqrt n (gramEntry n l) l where
  below i j before row := by
    have inside : j < n := Nat.lt_trans before row
    rw [reduced_gramEntry (lower j) inside, mul_div_cancel_right₀ _ (regular j inside)]
  diagonal i row := by
    rw [reduced_gramEntry (lower i) row, ← sq, rooted i row]

end Inverse

section Generated

/-- The entries of the factor that generates the matrix. -/
def unitEntry {α : Type} [Zero α] [One α] [NatCast α] [Sub α] [Div α] (n i j : Nat) : α :=
  if j = i then 1 else if j < i then 1 - (j : α) / (n : α) else 0

section Entry

variable {α : Type} [Zero α] [One α] [NatCast α] [Sub α] [Div α] {i j : Nat}

theorem unitEntry_self : unitEntry n i i = (1 : α) :=
  if_pos rfl

theorem unitEntry_of_lt (upper : i < j) : unitEntry n i j = (0 : α) := by
  rw [unitEntry, if_neg (by omega), if_neg (by omega)]

end Entry

theorem init_eq {α : Type} [Zero α] [One α] [NatCast α] [Add α] [Mul α] [Sub α] [Div α] (n : Nat) :
    (init n : Checked (Arrays α)) = .ok ⟨.ofFn n n (gramEntry n (unitEntry n))⟩ :=
  bind_eq_ok_iff.mpr ⟨_, gram_ofFn (unitEntry n), rfl⟩

/-- The recurrence for the generated matrix is solved by its generating factor. -/
theorem factored_unitEntry {K : Type} [Field K] {sqrt : K → K} (rooted : sqrt 1 = 1) (n : Nat) :
    Factored sqrt n (gramEntry n (unitEntry n)) (unitEntry n) := by
  refine factored_gramEntry (fun i j upper _ => unitEntry_of_lt upper) (fun i _ => ?_) fun i _ => ?_
  · rw [unitEntry_self]
    exact one_ne_zero
  · rw [unitEntry_self, one_pow, rooted]

end Generated

/-- A lower-triangular matrix whose diagonal consists of roots other than zero comes back from its
product.  On the generated matrix this needs no root but that of one, which is every pivot.  The
generated matrix is symmetric, even if multiplication only commutes on the entries of a column of
the factor. -/
theorem kernel_inverts_gram :
    (∀ {K : Type} [Field K] (sqrt : K → K) {n : Nat} (l : Matrix (Fin n) (Fin n) K),
      (∀ i j, i < j → l i j = 0) → (∀ i, l i i ≠ 0) → (∀ i, sqrt (l i i ^ 2) = l i i) →
      gram (.ofMatrix l) = .ok (.ofMatrix (l * l.transpose)) ∧
      ∃ f : Matrix (Fin n) (Fin n) K,
        kernel sqrt ⟨.ofMatrix (l * l.transpose)⟩ = .ok ⟨.ofMatrix f⟩ ∧
        ∀ i j, j ≤ i → f i j = l i j) ∧
    (∀ (sqrt : ℚ → ℚ), sqrt 1 = 1 → ∀ n : Nat, ∃ a f : Matrix (Fin n) (Fin n) ℚ,
      init n = .ok ⟨.ofMatrix a⟩ ∧
      kernel sqrt ⟨.ofMatrix a⟩ = .ok ⟨.ofMatrix f⟩ ∧
      (∀ i, f i i = 1) ∧ (∀ i j, j < i → f i j = 1 - ((j : ℕ) : ℚ) / n) ∧
      ∀ i : Fin n, pivot sqrt (.ofMatrix a) i = .ok 1) ∧
    (∀ {α : Type} [Zero α] [One α] [NatCast α] [Add α] [Mul α] [Sub α] [Div α] (n : Nat),
      (∀ (i j t : Nat) (x y : α), (factor n).read i t = .ok x → (factor n).read j t = .ok y →
        x * y = y * x) →
      ∃ a : Matrix (Fin n) (Fin n) α, init n = .ok ⟨.ofMatrix a⟩ ∧ a.transpose = a) := by
  refine ⟨?_, ?_, ?_⟩
  · intro K _ sqrt n l lower regular rooted
    obtain ⟨l, rfl⟩ := Mat.exists_eq_block l
    have factored : Factored sqrt n (gramEntry n l) l :=
      factored_gramEntry (fun i j upper col => lower ⟨i, by omega⟩ ⟨j, col⟩ upper)
        (fun i row => regular ⟨i, row⟩) fun i row => rooted ⟨i, row⟩
    have product : Mat.block n n l * (Mat.block n n l).transpose =
        Mat.block n n (gramEntry n l) := by
      rw [Mat.transpose_block, Mat.block_mul_block]
      refine Mat.block_congr fun i j _ _ => ?_
      rw [gramEntry, accumulate_add, Nat.Ico_zero_eq_range, zero_add]
    rw [product]
    refine ⟨gram_ofFn l, Mat.block n n (lowered (gramEntry n l) l),
      kernel_ofFn factored (Nat.le_refl n), fun i j below => ?_⟩
    rw [Mat.block_apply, Mat.block_apply, lowered_of_le below]
  · intro sqrt rooted n
    have factored := factored_unitEntry rooted n
    refine ⟨Mat.block n n (gramEntry n (unitEntry n)),
      Mat.block n n (lowered (gramEntry n (unitEntry n)) (unitEntry n)), init_eq n,
      kernel_ofFn factored (Nat.le_refl n), fun i => ?_, fun i j below => ?_, fun i => ?_⟩
    · rw [Mat.block_apply, lowered_of_le (Nat.le_refl _), unitEntry_self]
    · have left : (j : Nat) < i := below
      rw [Mat.block_apply, lowered_of_le left.le, unitEntry, if_neg left.ne, if_pos left]
    · refine (pivot_ofFn factored (Nat.le_refl n) i.isLt).trans ?_
      rw [reduced_gramEntry (fun k after _ => unitEntry_of_lt after) i.isLt, unitEntry_self, one_mul]
  · intro α _ _ _ _ _ _ _ n commutes
    refine ⟨Mat.block n n (gramEntry n (unitEntry n)), init_eq n, ?_⟩
    rw [Mat.transpose_block]
    refine Mat.block_congr fun r s row col => gramEntry_comm fun t inner => ?_
    exact commutes s r t _ _ (Mat.read_of_lt col inner) (Mat.read_of_lt row inner)

theorem kernel_inverts_gram_of_order_two :
    (∃ f : Matrix (Fin 2) (Fin 2) ℚ,
      kernel (fun x => if x = 4 then 2 else 3)
          ⟨.ofMatrix (!![2, 0; 5, 3] * (!![2, 0; 5, 3] : Matrix (Fin 2) (Fin 2) ℚ).transpose)⟩ =
        .ok ⟨.ofMatrix f⟩ ∧ f 0 0 = 2 ∧ f 1 0 = 5 ∧ f 1 1 = 3) ∧
    (∃ a : Matrix (Fin 2) (Fin 2) ℚ,
      init 2 = .ok ⟨.ofMatrix a⟩ ∧ pivot id (.ofMatrix a) 1 = .ok 1) ∧
    ∃ a : Matrix (Fin 2) (Fin 2) ℚ, init 2 = .ok ⟨.ofMatrix a⟩ ∧ a.transpose = a := by
  obtain ⟨inverts, generated, symmetric⟩ := kernel_inverts_gram
  refine ⟨?_, ?_, symmetric 2 fun _ _ _ x y _ _ => mul_comm x y⟩
  · obtain ⟨-, f, ended, same⟩ := inverts (fun x : ℚ => if x = 4 then 2 else 3) !![2, 0; 5, 3]
      (by simp [Fin.forall_fin_two]) (by simp [Fin.forall_fin_two])
      (by norm_num [Fin.forall_fin_two])
    exact ⟨f, ended, same 0 0 (by decide), same 1 0 (by decide), same 1 1 (by decide)⟩
  · obtain ⟨a, _, made, -, -, -, pivots⟩ := generated id rfl 2
    exact ⟨a, made, pivots 1⟩

end Cholesky
end Kernel
end DenseBench
