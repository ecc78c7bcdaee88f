import DenseBench.Proofs.Kernel.Correlation.Exact
import Mathlib.Algebra.BigOperators.Field
import Mathlib.Algebra.Order.BigOperators.Ring.Finset
import Mathlib.LinearAlgebra.Matrix.Notation

/-!
# Correlations are bounded by one

A standardised column has unit length, or its standard deviation for a length if it is nearly
constant, which is then no more than the threshold.  An inner product is no more than the product of
the two lengths, so no correlation is beyond one, and that of a nearly constant column not beyond
the threshold.
-/

namespace DenseBench
namespace Kernel
namespace Correlation

variable {K : Type} [Field K] [LinearOrder K] {n m : Nat} {sqrt : K → K} {eps count : K}

/-- A column without the mean of all its elements has nothing left on the average. -/
theorem sum_standardised (positive : 0 < count) (whole : count = n) (x : Fin n → K) :
    ∑ k, standardised sqrt eps count x k = 0 := by
  have centered : ∑ k, (x k - columnMean count x) = 0 := by
    rw [Finset.sum_sub_distrib, Fin.sum_const, nsmul_eq_mul, ← whole, columnMean,
      mul_div_cancel₀ _ positive.ne', sub_self]
  simp only [standardised, ← Finset.sum_div, centered, zero_div]

theorem sum_sq_standardised (root : IsSquareRoot sqrt) (positive : 0 < count) (x : Fin n → K) :
    ∑ k, standardised sqrt eps count x k ^ 2 = variance count x / scale sqrt eps count x ^ 2 :=
  calc
    ∑ k, standardised sqrt eps count x k ^ 2 =
        (∑ k, (x k - columnMean count x) ^ 2) / (sqrt count * scale sqrt eps count x) ^ 2 := by
      simp only [standardised, div_pow, Finset.sum_div]
    _ = (∑ k, (x k - columnMean count x) ^ 2) / (count * scale sqrt eps count x ^ 2) := by
      rw [mul_pow, root.sq_sqrt count positive.le]
    _ = variance count x / scale sqrt eps count x ^ 2 := by
      rw [variance, div_div]

variable [IsStrictOrderedRing K]

section Length

variable (x : Fin n → K)

theorem variance_nonneg (positive : 0 < count) : 0 ≤ variance count x :=
  div_nonneg (Finset.sum_nonneg fun _ _ => sq_nonneg _) positive.le

theorem sq_standardDeviation (root : IsSquareRoot sqrt) (positive : 0 < count) :
    standardDeviation sqrt count x ^ 2 = variance count x :=
  root.sq_sqrt _ (variance_nonneg x positive)

theorem standardDeviation_nonneg (root : IsSquareRoot sqrt) (positive : 0 < count) :
    0 ≤ standardDeviation sqrt count x :=
  root.nonneg _ (variance_nonneg x positive)

variable {x}

/-- A column that varies has unit length. -/
theorem sum_sq_of_lt (root : IsSquareRoot sqrt) (nonneg : 0 ≤ eps) (positive : 0 < count)
    (varies : eps < standardDeviation sqrt count x) :
    ∑ k, standardised sqrt eps count x k ^ 2 = 1 := by
  have regular : standardDeviation sqrt count x ≠ 0 := (nonneg.trans_lt varies).ne'
  rw [sum_sq_standardised root positive x, scale, if_neg varies.not_ge,
    ← sq_standardDeviation x root positive, div_self (pow_ne_zero 2 regular)]

/-- A column that is nearly constant keeps its deviation. -/
theorem sum_sq_of_le (root : IsSquareRoot sqrt) (positive : 0 < count)
    (flat : standardDeviation sqrt count x ≤ eps) :
    ∑ k, standardised sqrt eps count x k ^ 2 = standardDeviation sqrt count x ^ 2 := by
  rw [sum_sq_standardised root positive x, scale, if_pos flat, one_pow, div_one,
    sq_standardDeviation x root positive]

theorem sum_sq_le_eps (root : IsSquareRoot sqrt) (positive : 0 < count)
    (flat : standardDeviation sqrt count x ≤ eps) :
    ∑ k, standardised sqrt eps count x k ^ 2 ≤ eps ^ 2 := by
  rw [sum_sq_of_le root positive flat]
  exact pow_le_pow_left₀ (standardDeviation_nonneg x root positive) flat 2

/-- No column is longer than one. -/
theorem sum_sq_le_one (root : IsSquareRoot sqrt) (nonneg : 0 ≤ eps) (le_one : eps ≤ 1)
    (positive : 0 < count) (x : Fin n → K) :
    ∑ k, standardised sqrt eps count x k ^ 2 ≤ 1 ^ 2 := by
  rcases le_or_gt (standardDeviation sqrt count x) eps with flat | varies
  · exact (sum_sq_le_eps root positive flat).trans (pow_le_pow_left₀ nonneg le_one 2)
  · rw [sum_sq_of_lt root nonneg positive varies, one_pow]

end Length

/-- An inner product is bounded by bounds of the two lengths. -/
theorem abs_sum_mul_le {a b : K} {x y : Fin n → K} (a_nonneg : 0 ≤ a) (b_nonneg : 0 ≤ b)
    (x_le : ∑ k, x k ^ 2 ≤ a ^ 2) (y_le : ∑ k, y k ^ 2 ≤ b ^ 2) : |∑ k, x k * y k| ≤ a * b := by
  apply abs_le_of_sq_le_sq _ (mul_nonneg a_nonneg b_nonneg)
  calc
    (∑ k, x k * y k) ^ 2 ≤ (∑ k, x k ^ 2) * ∑ k, y k ^ 2 :=
      Finset.sum_mul_sq_le_sq_mul_sq Finset.univ x y
    _ ≤ a ^ 2 * b ^ 2 :=
      mul_le_mul x_le y_le (Finset.sum_nonneg fun k _ => sq_nonneg (y k)) (sq_nonneg a)
    _ = (a * b) ^ 2 := (mul_pow a b 2).symm

section Entries

variable {data : Matrix (Fin n) (Fin m) K} {i j : Fin m}

theorem abs_correlations_le_one (root : IsSquareRoot sqrt) (nonneg : 0 ≤ eps) (le_one : eps ≤ 1)
    (positive : 0 < count) : |correlations sqrt eps count data i j| ≤ 1 := by
  by_cases same : i = j
  · rw [same, correlations_self, abs_one]
  · have short (j : Fin m) := sum_sq_le_one root nonneg le_one positive (data.col j)
    rw [correlations_of_ne same]
    exact (abs_sum_mul_le zero_le_one zero_le_one (short i) (short j)).trans_eq (one_mul 1)

/-- One nearly constant column is enough. -/
theorem abs_correlations_le_eps (root : IsSquareRoot sqrt) (nonneg : 0 ≤ eps) (le_one : eps ≤ 1)
    (positive : 0 < count) (apart : i ≠ j)
    (flat : standardDeviation sqrt count (data.col i) ≤ eps ∨
      standardDeviation sqrt count (data.col j) ≤ eps) :
    |correlations sqrt eps count data i j| ≤ eps := by
  have short (j : Fin m) := sum_sq_le_one root nonneg le_one positive (data.col j)
  rw [correlations_of_ne apart]
  rcases flat with left | right
  · have length := sum_sq_le_eps root positive left
    exact (abs_sum_mul_le nonneg zero_le_one length (short j)).trans_eq (mul_one eps)
  · have length := sum_sq_le_eps root positive right
    exact (abs_sum_mul_le zero_le_one nonneg (short i) length).trans_eq (one_mul eps)

end Entries

/-- In exact arithmetic a normalised column has unit length if its standard deviation is beyond the
threshold, and otherwise its standard deviation for a length.  So no correlation is beyond one, nor
beyond the threshold if one of the columns is nearly constant.  With the number of observations for
the count every normalised column sums to zero. -/
theorem kernel_bounded (root : IsSquareRoot sqrt) (nonneg : 0 ≤ eps) (le_one : eps ≤ 1)
    (positive : 0 < count) (data : Matrix (Fin n) (Fin m) K) (corr : Matrix (Fin m) (Fin m) K)
    (subtraction : Subtraction) :
    ∃ (normal : Matrix (Fin n) (Fin m) K) (result : Matrix (Fin m) (Fin m) K),
      kernel sqrt eps ⟨count, .ofMatrix data, .ofMatrix corr⟩ subtraction =
        .ok ⟨count, .ofMatrix normal, .ofMatrix result⟩ ∧
      (∀ j, eps < standardDeviation sqrt count (data.col j) → ∑ k, normal k j ^ 2 = 1) ∧
      (∀ j, standardDeviation sqrt count (data.col j) ≤ eps →
        ∑ k, normal k j ^ 2 = standardDeviation sqrt count (data.col j) ^ 2 ∧
        standardDeviation sqrt count (data.col j) ^ 2 ≤ eps ^ 2) ∧
      (∀ i j, |result i j| ≤ 1) ∧
      (∀ i j, i ≠ j →
        standardDeviation sqrt count (data.col i) ≤ eps ∨
          standardDeviation sqrt count (data.col j) ≤ eps →
        |result i j| ≤ eps) ∧
      (count = n → ∀ j, ∑ k, normal k j = 0) := by
  refine ⟨standardisedData sqrt eps count data, correlations sqrt eps count data,
    kernel_ofMatrix sqrt eps count data corr subtraction, ?_, ?_, ?_, ?_, ?_⟩
  · intro j varies
    exact sum_sq_of_lt root nonneg positive varies
  · intro j flat
    have length := sum_sq_of_le root positive flat
    exact ⟨length, length ▸ sum_sq_le_eps root positive flat⟩
  · intro i j
    exact abs_correlations_le_one root nonneg le_one positive
  · intro i j apart flat
    exact abs_correlations_le_eps root nonneg le_one positive apart flat
  · intro whole j
    exact sum_standardised positive whole (data.col j)

/-- A column that varies and one that does not. -/
theorem kernel_bounded_of_two_columns :
    IsSquareRoot Real.sqrt ∧
    1 / 10 < standardDeviation Real.sqrt 2 ((!![0, 5; 2, 5] : Matrix (Fin 2) (Fin 2) ℝ).col 0) ∧
    standardDeviation Real.sqrt 2 ((!![0, 5; 2, 5] : Matrix (Fin 2) (Fin 2) ℝ).col 1) ≤ 1 / 10 ∧
    ∃ (normal : Matrix (Fin 2) (Fin 2) ℝ) (result : Matrix (Fin 2) (Fin 2) ℝ),
      kernel Real.sqrt (1 / 10) ⟨2, .ofMatrix !![0, 5; 2, 5], .ofMatrix !![7, 7; 7, 7]⟩ =
        .ok ⟨2, .ofMatrix normal, .ofMatrix result⟩ ∧
      ∑ k, normal k 0 ^ 2 = 1 ∧ ∑ k, normal k 1 ^ 2 ≤ 1 / 100 ∧ |result 0 0| ≤ 1 ∧
      |result 0 1| ≤ 1 / 10 ∧ ∑ k, normal k 0 = 0 := by
  have varies : (1 : ℝ) / 10 <
      standardDeviation Real.sqrt 2 ((!![0, 5; 2, 5] : Matrix (Fin 2) (Fin 2) ℝ).col 0) := by
    norm_num [standardDeviation, variance, columnMean, Fin.sum_univ_two]
  have flat : standardDeviation Real.sqrt 2 ((!![0, 5; 2, 5] : Matrix (Fin 2) (Fin 2) ℝ).col 1) ≤
      1 / 10 := by
    norm_num [standardDeviation, variance, columnMean, Fin.sum_univ_two]
  have nonneg : (0 : ℝ) ≤ 1 / 10 := by norm_num
  have le_one : (1 : ℝ) / 10 ≤ 1 := by norm_num
  obtain ⟨normal, result, ended, unit, short, bounded, small, centered⟩ :=
    kernel_bounded isSquareRoot_real nonneg le_one two_pos !![0, 5; 2, 5] !![7, 7; 7, 7] .standard
  refine ⟨isSquareRoot_real, varies, flat, normal, result, ended, unit 0 varies, ?_, bounded 0 0,
    small 0 1 (by decide) (.inr flat), centered (by norm_num) 0⟩
  obtain ⟨length, bound⟩ := short 1 flat
  rw [length]
  norm_num at bound ⊢
  exact bound

end Correlation
end Kernel
end DenseBench
