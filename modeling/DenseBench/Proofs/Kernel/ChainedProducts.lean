import DenseBench.Kernel.ThreeProducts
import DenseBench.Kernel.TwoProducts
import DenseBench.Proofs.Dense.Entries
import DenseBench.Proofs.Dense.Matrix
import DenseBench.Proofs.Kernel.GeneralProduct
import DenseBench.Proofs.Success
import Mathlib.LinearAlgebra.Matrix.Notation

/-!
# Chained matrix products

A stage of a chain forms the elements of its product one after the other, from zero or from the
scaled old element.  The general product takes up one inner index in a whole row before the next,
but on a single element it makes the same operations, up to a multiplication by one and the scaling
of a zero.  So every stage is a general product, into a cleared matrix or into the old output.
-/

namespace DenseBench
namespace Kernel

open Success

variable {ni nj nk nl nm : Nat}

section Stage

variable {α : Type} [Add α] [Mul α]

/-- The element in row `i` and column `j` of the product of `a` and `b`, its terms added to
`start` in order. -/
def productOnto (inner : Nat) (start : α) (a b : Nat → Nat → α) (i j : Nat) : α :=
  accumulate (· + ·) 0 inner start fun k => a i k * b k j

namespace Gemm

variable {alpha beta : α} {c a b : Nat → Nat → α}

/-- A cleared output stays zero when it is scaled by zero. -/
theorem formed_cleared [Zero α] (cleared : (0 : α) * 0 = 0) :
    formed alpha 0 nk (fun _ _ => 0) a b = productOnto nk 0 (fun i k => alpha * a i k) b := by
  funext i j
  rw [formed, productOnto, cleared]

theorem formed_one [One α] (unit : ∀ x : α, 1 * x = x) :
    formed 1 beta nk c a b = fun i j => productOnto nk (c i j * beta) a b i j := by
  funext i j
  simp only [formed, productOnto, unit]

theorem formed_one_cleared [Zero α] [One α] (unit : ∀ x : α, 1 * x = x)
    (cleared : (0 : α) * 0 = 0) :
    formed 1 0 nk (fun _ _ => 0) a b = productOnto nk 0 a b := by
  funext i j
  simp only [formed_one unit, cleared]

end Gemm

end Stage

namespace TwoProducts

section Order

variable {α : Type} [Zero α] [Add α] [Mul α]

/-- `B` and `C` may have more rows than the products need, and the outputs may be larger on both
axes. -/
theorem kernel_ofFn (alpha beta : α) {b_rows c_rows d_rows d_cols rows cols : Nat}
    (a b c d tmp : Nat → Nat → α) (b_tall : nk ≤ b_rows) (c_tall : nj ≤ c_rows)
    (d_tall : ni ≤ d_rows) (d_wide : nl ≤ d_cols) (tall : ni ≤ rows) (wide : nj ≤ cols) :
    let product := productOnto nk 0 (fun i k => alpha * a i k) b
    kernel alpha beta ⟨.ofFn ni nk a, .ofFn b_rows nj b, .ofFn c_rows nl c, .ofFn d_rows d_cols d,
        .ofFn rows cols tmp⟩ =
      .ok ⟨.ofFn ni nk a, .ofFn b_rows nj b, .ofFn c_rows nl c,
        .ofFn d_rows d_cols (Mat.withRows d ni nl fun i j =>
          productOnto nj (d i j * beta) product c i j),
        .ofFn rows cols (Mat.withRows tmp ni nj product)⟩ := by
  intro product
  simp only [kernel, Mat.rows_ofFn, Mat.cols_ofFn]
  refine bind_eq_ok_iff.mpr ⟨.ofFn rows cols (Mat.withRows tmp ni nj product), ?first,
    bind_eq_ok_iff.mpr ⟨_, ?second, rfl⟩⟩
  case first =>
    apply Mat.sweep_accumulate_entries (fun _ => 0) (· + ·) (fun i j k => alpha * a i k * b k j)
      tall wide
    · intro i j g row col
      rfl
    · intro i j k g row col within
      rw [Mat.read_of_lt row within, Mat.read_of_lt (by omega) col]
      rfl
  case second =>
    apply Mat.sweep_accumulate_entries (· * beta) (· + ·) (fun i j k => product i k * c k j)
      d_tall d_wide
    · intro i j g row col
      rfl
    · intro i j k g row col within
      -- row `i` of the product is finished, whatever its matrix holds outside
      rw [Mat.read_of_lt (by omega) (by omega), Mat.withRows_of_lt row within,
        Mat.read_of_lt (by omega) col]
      rfl

/-- Both stages are general products, and the old content of the intermediate matrix does not
matter. -/
theorem kernel_eq_stages [One α] (unit : ∀ x : α, 1 * x = x) (cleared : (0 : α) * 0 = 0)
    (alpha beta : α) (a : Matrix (Fin ni) (Fin nk) α) (b : Matrix (Fin nk) (Fin nj) α)
    (c : Matrix (Fin nj) (Fin nl) α) (d : Matrix (Fin ni) (Fin nl) α) :
    ∃ (product : Matrix (Fin ni) (Fin nj) α) (result : Matrix (Fin ni) (Fin nl) α),
      (∀ tmp : Matrix (Fin ni) (Fin nj) α,
        kernel alpha beta ⟨.ofMatrix a, .ofMatrix b, .ofMatrix c, .ofMatrix d, .ofMatrix tmp⟩ =
          .ok ⟨.ofMatrix a, .ofMatrix b, .ofMatrix c, .ofMatrix result, .ofMatrix product⟩) ∧
      Gemm.kernel alpha 0 ⟨.zeros ni nj, .ofMatrix a, .ofMatrix b⟩ =
        .ok ⟨.ofMatrix product, .ofMatrix a, .ofMatrix b⟩ ∧
      Gemm.kernel 1 beta ⟨.ofMatrix d, .ofMatrix product, .ofMatrix c⟩ =
        .ok ⟨.ofMatrix result, .ofMatrix product, .ofMatrix c⟩ := by
  obtain ⟨a, rfl⟩ := Mat.exists_eq_block a
  obtain ⟨b, rfl⟩ := Mat.exists_eq_block b
  obtain ⟨c, rfl⟩ := Mat.exists_eq_block c
  obtain ⟨d, rfl⟩ := Mat.exists_eq_block d
  let product := productOnto nk 0 (fun i k => alpha * a i k) b
  refine ⟨Mat.block ni nj product,
    Mat.block ni nl fun i j => productOnto nj (d i j * beta) product c i j, ?_, ?_, ?_⟩
  · intro tmp
    obtain ⟨tmp, rfl⟩ := Mat.exists_eq_block tmp
    simp only [Mat.ofMatrix_block]
    rw [kernel_ofFn alpha beta a b c d tmp le_rfl le_rfl le_rfl le_rfl le_rfl le_rfl,
      Mat.ofFn_withRows, Mat.ofFn_withRows]
  · have general : product = Gemm.formed alpha 0 nk (fun _ _ => 0) a b :=
      (Gemm.formed_cleared cleared).symm
    rw [general, Mat.zeros_eq_ofFn]
    exact Gemm.kernel_ofBlock alpha 0 (fun _ _ => 0) a b
  · rw [← Gemm.formed_one unit]
    exact Gemm.kernel_ofBlock 1 beta d product c

end Order

theorem kernel_ofMatrix {R : Type} [CommRing R] (alpha beta : R) (a : Matrix (Fin ni) (Fin nk) R)
    (b : Matrix (Fin nk) (Fin nj) R) (c : Matrix (Fin nj) (Fin nl) R)
    (d : Matrix (Fin ni) (Fin nl) R) (tmp : Matrix (Fin ni) (Fin nj) R) :
    kernel alpha beta ⟨.ofMatrix a, .ofMatrix b, .ofMatrix c, .ofMatrix d, .ofMatrix tmp⟩ =
      .ok ⟨.ofMatrix a, .ofMatrix b, .ofMatrix c, .ofMatrix (alpha • (a * b * c) + beta • d),
        .ofMatrix (alpha • (a * b))⟩ := by
  obtain ⟨product, result, ended, first, second⟩ :=
    kernel_eq_stages one_mul (mul_zero 0) alpha beta a b c d
  rw [Mat.zeros_eq_ofMatrix] at first
  obtain rfl : alpha • (a * b) = product := by
    have same := Gemm.output_eq first
    rwa [smul_zero, add_zero, eq_comm] at same
  obtain rfl : alpha • (a * b * c) + beta • d = result := by
    have same := Gemm.output_eq second
    rwa [one_smul, Matrix.smul_mul, eq_comm] at same
  exact ended tmp

end TwoProducts

namespace ThreeProducts

section Order

variable {α : Type} [Zero α] [Add α] [Mul α]

/-- The output and the right factor may be larger than the product needs. -/
theorem multiplyInto_ofFn {rows cols inner : Nat} (out a b : Nat → Nat → α) (tall : ni ≤ rows)
    (wide : nj ≤ cols) (b_tall : nk ≤ inner) :
    multiplyInto (.ofFn rows cols out) (.ofFn ni nk a) (.ofFn inner nj b) =
      .ok (.ofFn rows cols (Mat.withRows out ni nj (productOnto nk 0 a b))) := by
  simp only [multiplyInto, Mat.rows_ofFn, Mat.cols_ofFn]
  apply Mat.sweep_accumulate_entries (fun _ => 0) (· + ·) (fun i j k => a i k * b k j) tall wide
  · intro i j g row col
    rfl
  · intro i j k g row col within
    rw [Mat.read_of_lt row within, Mat.read_of_lt (by omega) col]
    rfl

/-- The old content of the output does not matter. -/
theorem multiplyInto_ofBlock (a b : Nat → Nat → α) (out : Matrix (Fin ni) (Fin nj) α) :
    multiplyInto (.ofMatrix out) (.ofMatrix (Mat.block ni nk a)) (.ofMatrix (Mat.block nk nj b)) =
      .ok (.ofMatrix (Mat.block ni nj (productOnto nk 0 a b))) := by
  have inhabited : Nonempty α := ⟨0⟩
  obtain ⟨out, rfl⟩ := Mat.exists_eq_block out
  simp only [Mat.ofMatrix_block]
  rw [multiplyInto_ofFn out a b le_rfl le_rfl le_rfl, Mat.ofFn_withRows]

/-- One product is the general product into a cleared matrix. -/
theorem multiplyInto_eq_stage [One α] (unit : ∀ x : α, 1 * x = x) (cleared : (0 : α) * 0 = 0)
    (a : Matrix (Fin ni) (Fin nk) α) (b : Matrix (Fin nk) (Fin nj) α) :
    ∃ product : Matrix (Fin ni) (Fin nj) α,
      (∀ out : Matrix (Fin ni) (Fin nj) α,
        multiplyInto (.ofMatrix out) (.ofMatrix a) (.ofMatrix b) = .ok (.ofMatrix product)) ∧
      Gemm.kernel 1 0 ⟨.zeros ni nj, .ofMatrix a, .ofMatrix b⟩ =
        .ok ⟨.ofMatrix product, .ofMatrix a, .ofMatrix b⟩ := by
  obtain ⟨a, rfl⟩ := Mat.exists_eq_block a
  obtain ⟨b, rfl⟩ := Mat.exists_eq_block b
  refine ⟨Mat.block ni nj (productOnto nk 0 a b), multiplyInto_ofBlock a b, ?_⟩
  rw [← Gemm.formed_one_cleared unit cleared, Mat.zeros_eq_ofFn]
  exact Gemm.kernel_ofBlock 1 0 (fun _ _ => 0) a b

/-- All three stages are general products into cleared matrices, and the old content of the outputs
does not matter. -/
theorem kernel_eq_stages [One α] (unit : ∀ x : α, 1 * x = x) (cleared : (0 : α) * 0 = 0)
    (a : Matrix (Fin ni) (Fin nk) α) (b : Matrix (Fin nk) (Fin nj) α)
    (c : Matrix (Fin nj) (Fin nm) α) (d : Matrix (Fin nm) (Fin nl) α) :
    ∃ (e : Matrix (Fin ni) (Fin nj) α) (f : Matrix (Fin nj) (Fin nl) α)
        (g : Matrix (Fin ni) (Fin nl) α),
      (∀ (e₀ : Matrix (Fin ni) (Fin nj) α) (f₀ : Matrix (Fin nj) (Fin nl) α)
          (g₀ : Matrix (Fin ni) (Fin nl) α),
        kernel ⟨.ofMatrix a, .ofMatrix b, .ofMatrix c, .ofMatrix d, .ofMatrix e₀, .ofMatrix f₀,
            .ofMatrix g₀⟩ =
          .ok ⟨.ofMatrix a, .ofMatrix b, .ofMatrix c, .ofMatrix d, .ofMatrix e, .ofMatrix f,
            .ofMatrix g⟩) ∧
      Gemm.kernel 1 0 ⟨.zeros ni nj, .ofMatrix a, .ofMatrix b⟩ =
        .ok ⟨.ofMatrix e, .ofMatrix a, .ofMatrix b⟩ ∧
      Gemm.kernel 1 0 ⟨.zeros nj nl, .ofMatrix c, .ofMatrix d⟩ =
        .ok ⟨.ofMatrix f, .ofMatrix c, .ofMatrix d⟩ ∧
      Gemm.kernel 1 0 ⟨.zeros ni nl, .ofMatrix e, .ofMatrix f⟩ =
        .ok ⟨.ofMatrix g, .ofMatrix e, .ofMatrix f⟩ := by
  obtain ⟨e, e_formed, e_stage⟩ := multiplyInto_eq_stage unit cleared a b
  obtain ⟨f, f_formed, f_stage⟩ := multiplyInto_eq_stage unit cleared c d
  obtain ⟨g, g_formed, g_stage⟩ := multiplyInto_eq_stage unit cleared e f
  refine ⟨e, f, g, ?_, e_stage, f_stage, g_stage⟩
  intro e₀ f₀ g₀
  simp only [kernel, e_formed, f_formed, g_formed, ok_bind]
  rfl

end Order

theorem kernel_ofMatrix {R : Type} [CommRing R] (a : Matrix (Fin ni) (Fin nk) R)
    (b : Matrix (Fin nk) (Fin nj) R) (c : Matrix (Fin nj) (Fin nm) R)
    (d : Matrix (Fin nm) (Fin nl) R) (e : Matrix (Fin ni) (Fin nj) R)
    (f : Matrix (Fin nj) (Fin nl) R) (g : Matrix (Fin ni) (Fin nl) R) :
    kernel ⟨.ofMatrix a, .ofMatrix b, .ofMatrix c, .ofMatrix d, .ofMatrix e, .ofMatrix f,
        .ofMatrix g⟩ =
      .ok ⟨.ofMatrix a, .ofMatrix b, .ofMatrix c, .ofMatrix d, .ofMatrix (a * b),
        .ofMatrix (c * d), .ofMatrix (a * b * (c * d))⟩ := by
  obtain ⟨e', f', g', ended, e_stage, f_stage, g_stage⟩ :=
    kernel_eq_stages one_mul (mul_zero 0) a b c d
  rw [Mat.zeros_eq_ofMatrix] at e_stage f_stage g_stage
  obtain rfl : e' = a * b := by simpa using Gemm.output_eq e_stage
  obtain rfl : f' = c * d := by simpa using Gemm.output_eq f_stage
  obtain rfl : g' = a * b * (c * d) := by simpa using Gemm.output_eq g_stage
  exact ended e f g

end ThreeProducts

/-- Where one is a unit from the left and the square of zero is zero, the chains of two and of three
products are compositions of general products: first into a cleared matrix and then with the old
output, or three times into a cleared matrix.  Over a commutative ring they compute
`alpha * A * B * C + beta * D` and `(A * B) * (C * D)`.  In no case does the old content of the
matrices matter that hold the products. -/
theorem chains_of_general_products :
    (∀ {α : Type} [Zero α] [One α] [Add α] [Mul α], (∀ x : α, 1 * x = x) → (0 : α) * 0 = 0 →
      (∀ (alpha beta : α) {ni nj nk nl : Nat} (a : Matrix (Fin ni) (Fin nk) α)
          (b : Matrix (Fin nk) (Fin nj) α) (c : Matrix (Fin nj) (Fin nl) α)
          (d : Matrix (Fin ni) (Fin nl) α),
        ∃ (product : Matrix (Fin ni) (Fin nj) α) (result : Matrix (Fin ni) (Fin nl) α),
          (∀ tmp : Matrix (Fin ni) (Fin nj) α,
            TwoProducts.kernel alpha beta
                ⟨.ofMatrix a, .ofMatrix b, .ofMatrix c, .ofMatrix d, .ofMatrix tmp⟩ =
              .ok ⟨.ofMatrix a, .ofMatrix b, .ofMatrix c, .ofMatrix result,
                .ofMatrix product⟩) ∧
          Gemm.kernel alpha 0 ⟨.zeros ni nj, .ofMatrix a, .ofMatrix b⟩ =
            .ok ⟨.ofMatrix product, .ofMatrix a, .ofMatrix b⟩ ∧
          Gemm.kernel 1 beta ⟨.ofMatrix d, .ofMatrix product, .ofMatrix c⟩ =
            .ok ⟨.ofMatrix result, .ofMatrix product, .ofMatrix c⟩) ∧
      (∀ {ni nj nk nl nm : Nat} (a : Matrix (Fin ni) (Fin nk) α)
          (b : Matrix (Fin nk) (Fin nj) α) (c : Matrix (Fin nj) (Fin nm) α)
          (d : Matrix (Fin nm) (Fin nl) α),
        ∃ (e : Matrix (Fin ni) (Fin nj) α) (f : Matrix (Fin nj) (Fin nl) α)
            (g : Matrix (Fin ni) (Fin nl) α),
          (∀ (e₀ : Matrix (Fin ni) (Fin nj) α) (f₀ : Matrix (Fin nj) (Fin nl) α)
              (g₀ : Matrix (Fin ni) (Fin nl) α),
            ThreeProducts.kernel
                ⟨.ofMatrix a, .ofMatrix b, .ofMatrix c, .ofMatrix d, .ofMatrix e₀,
                  .ofMatrix f₀, .ofMatrix g₀⟩ =
              .ok ⟨.ofMatrix a, .ofMatrix b, .ofMatrix c, .ofMatrix d, .ofMatrix e,
                .ofMatrix f, .ofMatrix g⟩) ∧
          Gemm.kernel 1 0 ⟨.zeros ni nj, .ofMatrix a, .ofMatrix b⟩ =
            .ok ⟨.ofMatrix e, .ofMatrix a, .ofMatrix b⟩ ∧
          Gemm.kernel 1 0 ⟨.zeros nj nl, .ofMatrix c, .ofMatrix d⟩ =
            .ok ⟨.ofMatrix f, .ofMatrix c, .ofMatrix d⟩ ∧
          Gemm.kernel 1 0 ⟨.zeros ni nl, .ofMatrix e, .ofMatrix f⟩ =
            .ok ⟨.ofMatrix g, .ofMatrix e, .ofMatrix f⟩)) ∧
    (∀ {R : Type} [CommRing R] (alpha beta : R) {ni nj nk nl : Nat}
        (a : Matrix (Fin ni) (Fin nk) R) (b : Matrix (Fin nk) (Fin nj) R)
        (c : Matrix (Fin nj) (Fin nl) R) (d : Matrix (Fin ni) (Fin nl) R)
        (tmp : Matrix (Fin ni) (Fin nj) R),
      TwoProducts.kernel alpha beta
          ⟨.ofMatrix a, .ofMatrix b, .ofMatrix c, .ofMatrix d, .ofMatrix tmp⟩ =
        .ok ⟨.ofMatrix a, .ofMatrix b, .ofMatrix c, .ofMatrix (alpha • (a * b * c) + beta • d),
          .ofMatrix (alpha • (a * b))⟩) ∧
    (∀ {R : Type} [CommRing R] {ni nj nk nl nm : Nat} (a : Matrix (Fin ni) (Fin nk) R)
        (b : Matrix (Fin nk) (Fin nj) R) (c : Matrix (Fin nj) (Fin nm) R)
        (d : Matrix (Fin nm) (Fin nl) R) (e : Matrix (Fin ni) (Fin nj) R)
        (f : Matrix (Fin nj) (Fin nl) R) (g : Matrix (Fin ni) (Fin nl) R),
      ThreeProducts.kernel
          ⟨.ofMatrix a, .ofMatrix b, .ofMatrix c, .ofMatrix d, .ofMatrix e, .ofMatrix f,
            .ofMatrix g⟩ =
        .ok ⟨.ofMatrix a, .ofMatrix b, .ofMatrix c, .ofMatrix d, .ofMatrix (a * b),
          .ofMatrix (c * d), .ofMatrix (a * b * (c * d))⟩) := by
  refine ⟨?_, fun alpha beta _ _ _ _ => TwoProducts.kernel_ofMatrix alpha beta,
    ThreeProducts.kernel_ofMatrix⟩
  intro α _ _ _ _ unit cleared
  constructor
  · intro alpha beta ni nj nk nl
    exact TwoProducts.kernel_eq_stages unit cleared alpha beta
  · intro ni nj nk nl nm
    exact ThreeProducts.kernel_eq_stages unit cleared

/-- Chains of integer matrices, with something else in the place of their products. -/
theorem chains_of_general_products_of_integers :
    (∀ x : ℤ, 1 * x = x) ∧ (0 : ℤ) * 0 = 0 ∧
    (TwoProducts.kernel (2 : ℤ) 3
        ⟨.ofMatrix !![1, 2], .ofMatrix !![3; 4], .ofMatrix !![5, -1], .ofMatrix !![6, 7],
          .ofMatrix !![99]⟩ =
      .ok ⟨.ofMatrix !![1, 2], .ofMatrix !![3; 4], .ofMatrix !![5, -1], .ofMatrix !![128, -1],
        .ofMatrix !![22]⟩ ∧
    Gemm.kernel (2 : ℤ) 0 ⟨.zeros 1 1, .ofMatrix !![1, 2], .ofMatrix !![3; 4]⟩ =
      .ok ⟨.ofMatrix !![22], .ofMatrix !![1, 2], .ofMatrix !![3; 4]⟩ ∧
    Gemm.kernel (1 : ℤ) 3 ⟨.ofMatrix !![6, 7], .ofMatrix !![22], .ofMatrix !![5, -1]⟩ =
      .ok ⟨.ofMatrix !![128, -1], .ofMatrix !![22], .ofMatrix !![5, -1]⟩) := by
  obtain ⟨stages, two, -⟩ := chains_of_general_products
  have unit : ∀ x : ℤ, 1 * x = x := Int.one_mul
  have cleared : (0 : ℤ) * 0 = 0 := rfl
  obtain ⟨product, result, ended, first, second⟩ :=
    (stages unit cleared).1 2 3 !![1, 2] !![3; 4] !![5, -1] !![6, 7]
  have computed := (ended !![99]).symm.trans (two 2 3 !![1, 2] !![3; 4] !![5, -1] !![6, 7] !![99])
  simp only [Except.ok.injEq, TwoProducts.Arrays.mk.injEq, true_and, Mat.ofMatrix_inj] at computed
  obtain ⟨rfl, rfl⟩ := computed
  exact ⟨unit, cleared, ended _, first, second⟩

end Kernel
end DenseBench
