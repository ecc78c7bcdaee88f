import DenseBench.Proofs.Kernel.Correlation.Bounds
import Mathlib.Data.Sign.Basic

/-!
# Correlations of rescaled columns

A column that is multiplied by a scale and shifted has the same standardised form, up to the sign of
the scale, as long as its standard deviation is beyond the threshold before and after.  So a
correlation changes by the signs of the two scales only, and a column and its own image correlate
with plus or minus one.
-/

namespace DenseBench
namespace Kernel
namespace Correlation

variable {K : Type} [Field K] {n m : Nat} {count : K}

/-- The column multiplied by `s` and shifted by `t`. -/
def affine (s t : K) (x : Fin n → K) (k : Fin n) : K :=
  s * x k + t

/-- Column `j` of the data multiplied by `s j` and shifted by `t j`. -/
def rescaled (s t : Fin m → K) (data : Matrix (Fin n) (Fin m) K) : Matrix (Fin n) (Fin m) K :=
  .of fun k j => s j * data k j + t j

section Moments

variable {s t : K} {x : Fin n → K}

theorem columnMean_affine (filled : count ≠ 0) (whole : count = n) :
    columnMean count (affine s t x) = s * columnMean count x + t := by
  simp only [columnMean, affine]
  rw [Finset.sum_add_distrib, ← Finset.mul_sum, Fin.sum_const, nsmul_eq_mul, ← whole, add_div,
    mul_div_assoc, mul_div_cancel_left₀ t filled]

/-- The distance from the mean is only scaled. -/
theorem affine_sub_columnMean (filled : count ≠ 0) (whole : count = n) (k : Fin n) :
    affine s t x k - columnMean count (affine s t x) = s * (x k - columnMean count x) := by
  rw [columnMean_affine filled whole, affine, add_sub_add_right_eq_sub, mul_sub]

theorem variance_affine (filled : count ≠ 0) (whole : count = n) :
    variance count (affine s t x) = s ^ 2 * variance count x := by
  simp only [variance, affine_sub_columnMean filled whole, mul_pow, ← Finset.mul_sum,
    mul_div_assoc]

end Moments

variable [LinearOrder K] [IsStrictOrderedRing K] {sqrt : K → K} {eps : K}

/-- A square root that is not negative is the only one. -/
theorem IsSquareRoot.eq_of_sq_eq (root : IsSquareRoot sqrt) {x y : K} (x_nonneg : 0 ≤ x)
    (y_nonneg : 0 ≤ y) (same : y ^ 2 = x) : sqrt x = y := by
  have squares : sqrt x ^ 2 = y ^ 2 := (root.sq_sqrt x x_nonneg).trans same.symm
  exact (pow_left_inj₀ (root.nonneg x x_nonneg) y_nonneg two_ne_zero).mp squares

section Column

variable {s t : K} {x : Fin n → K}

theorem standardDeviation_affine (root : IsSquareRoot sqrt) (positive : 0 < count)
    (whole : count = n) :
    standardDeviation sqrt count (affine s t x) = |s| * standardDeviation sqrt count x := by
  apply root.eq_of_sq_eq (variance_nonneg _ positive)
  · exact mul_nonneg (abs_nonneg s) (standardDeviation_nonneg x root positive)
  · rw [mul_pow, sq_abs, sq_standardDeviation x root positive, variance_affine positive.ne' whole]

/-- What is left of a scale is its sign; a scale of zero would leave no deviation. -/
theorem standardised_affine (root : IsSquareRoot sqrt) (nonneg : 0 ≤ eps) (positive : 0 < count)
    (whole : count = n) (before : eps < standardDeviation sqrt count x)
    (after : eps < standardDeviation sqrt count (affine s t x)) (k : Fin n) :
    standardised sqrt eps count (affine s t x) k =
      SignType.sign s * standardised sqrt eps count x k := by
  have deviation : standardDeviation sqrt count (affine s t x) =
      |s| * standardDeviation sqrt count x := standardDeviation_affine root positive whole
  have scale_ne : |s| ≠ 0 := by
    intro zero
    rw [deviation, zero, zero_mul] at after
    exact after.not_ge nonneg
  calc
    standardised sqrt eps count (affine s t x) k =
        s * (x k - columnMean count x) /
          (sqrt count * (|s| * standardDeviation sqrt count x)) := by
      rw [standardised, scale, if_neg after.not_ge, affine_sub_columnMean positive.ne' whole,
        deviation]
    _ = |s| * (SignType.sign s * (x k - columnMean count x)) /
        (|s| * (sqrt count * standardDeviation sqrt count x)) := by
      rw [← mul_assoc |s|, abs_mul_sign, mul_left_comm]
    _ = SignType.sign s * standardised sqrt eps count x k := by
      rw [mul_div_mul_left _ _ scale_ne, mul_div_assoc, standardised, scale, if_neg before.not_ge]

end Column

section Entries

variable {data : Matrix (Fin n) (Fin m) K} {i j : Fin m}

theorem correlations_rescaled (root : IsSquareRoot sqrt) (nonneg : 0 ≤ eps)
    (positive : 0 < count) (whole : count = n) {s t : Fin m → K} (apart : i ≠ j)
    (before : ∀ l, eps < standardDeviation sqrt count (data.col l))
    (after : ∀ l, eps < standardDeviation sqrt count ((rescaled s t data).col l)) :
    correlations sqrt eps count (rescaled s t data) i j =
      SignType.sign (s i) * SignType.sign (s j) * correlations sqrt eps count data i j := by
  have column (l : Fin m) (k : Fin n) :
      standardised sqrt eps count ((rescaled s t data).col l) k =
        SignType.sign (s l) * standardised sqrt eps count (data.col l) k :=
    standardised_affine root nonneg positive whole (before l) (after l) k
  rw [correlations_of_ne apart, correlations_of_ne apart, Finset.mul_sum]
  simp only [column, mul_mul_mul_comm]

/-- A column and its own image. -/
theorem correlations_affine (root : IsSquareRoot sqrt) (nonneg : 0 ≤ eps) (positive : 0 < count)
    (whole : count = n) {s t : K} (apart : i ≠ j) (image : ∀ k, data k j = s * data k i + t)
    (before : eps < standardDeviation sqrt count (data.col i))
    (after : eps < standardDeviation sqrt count (data.col j)) :
    correlations sqrt eps count data i j = SignType.sign s := by
  have column : data.col j = affine s t (data.col i) := funext image
  rw [column] at after
  calc
    correlations sqrt eps count data i j =
        ∑ k, SignType.sign s * standardised sqrt eps count (data.col i) k ^ 2 := by
      rw [correlations_of_ne apart, column]
      refine Finset.sum_congr rfl fun k _ => ?_
      rw [standardised_affine root nonneg positive whole before after, sq, mul_left_comm]
    _ = SignType.sign s := by
      rw [← Finset.mul_sum, sum_sq_of_lt root nonneg positive before, mul_one]

end Entries

/-- In exact arithmetic, and with the number of observations for the count, rescaled columns whose
deviations are beyond the threshold before and after have the same correlations up to the signs of
their scales; a column correlates with its own image under a rescaling with one or minus one. -/
theorem kernel_rescaled (root : IsSquareRoot sqrt) (nonneg : 0 ≤ eps) (filled : 1 ≤ n)
    (data : Matrix (Fin n) (Fin m) K) (corr : Matrix (Fin m) (Fin m) K)
    (subtraction : Subtraction) :
    ∃ (normal : Matrix (Fin n) (Fin m) K) (result : Matrix (Fin m) (Fin m) K),
      kernel sqrt eps ⟨(n : K), .ofMatrix data, .ofMatrix corr⟩ subtraction =
        .ok ⟨(n : K), .ofMatrix normal, .ofMatrix result⟩ ∧
      (∀ (s t : Fin m → K) (corr' : Matrix (Fin m) (Fin m) K),
        (∀ j, eps < standardDeviation sqrt n (data.col j)) →
        (∀ j, eps < standardDeviation sqrt n ((rescaled s t data).col j)) →
        ∃ (normal' : Matrix (Fin n) (Fin m) K) (result' : Matrix (Fin m) (Fin m) K),
          kernel sqrt eps ⟨(n : K), .ofMatrix (rescaled s t data), .ofMatrix corr'⟩ subtraction =
            .ok ⟨(n : K), .ofMatrix normal', .ofMatrix result'⟩ ∧
          ∀ i j, i ≠ j →
            result' i j = SignType.sign (s i) * SignType.sign (s j) * result i j) ∧
      ∀ (i j : Fin m) (s t : K), i ≠ j → (∀ k, data k j = s * data k i + t) →
        eps < standardDeviation sqrt n (data.col i) →
        eps < standardDeviation sqrt n (data.col j) →
        (0 < s → result i j = 1) ∧ (s < 0 → result i j = -1) := by
  have positive : (0 : K) < n := Nat.cast_pos.mpr filled
  refine ⟨_, correlations sqrt eps n data, kernel_ofMatrix sqrt eps n data corr subtraction,
    ?_, ?_⟩
  · intro s t corr' before after
    refine ⟨_, correlations sqrt eps n (rescaled s t data),
      kernel_ofMatrix sqrt eps n (rescaled s t data) corr' subtraction, ?_⟩
    intro i j apart
    exact correlations_rescaled root nonneg positive rfl apart before after
  · intro i j s t apart image before after
    rw [correlations_affine root nonneg positive rfl apart image before after]
    constructor
    · intro up
      rw [sign_pos up]
      rfl
    · intro down
      rw [sign_neg down]
      rfl

/-- The second column is three times the first and one; then the first is turned round. -/
theorem kernel_rescaled_of_two_columns :
    (∀ j, 1 / 10 < standardDeviation Real.sqrt (2 : Nat)
      ((!![0, 1; 2, 7] : Matrix (Fin 2) (Fin 2) ℝ).col j)) ∧
    (∀ j, 1 / 10 < standardDeviation Real.sqrt (2 : Nat)
      ((rescaled ![-1, 2] ![5, 0] (!![0, 1; 2, 7] : Matrix (Fin 2) (Fin 2) ℝ)).col j)) ∧
    ∃ normal result normal' result' : Matrix (Fin 2) (Fin 2) ℝ,
      kernel Real.sqrt (1 / 10) ⟨(2 : Nat), .ofMatrix !![0, 1; 2, 7], .ofMatrix !![9, 9; 9, 9]⟩ =
        .ok ⟨(2 : Nat), .ofMatrix normal, .ofMatrix result⟩ ∧
      kernel Real.sqrt (1 / 10)
          ⟨(2 : Nat), .ofMatrix (rescaled ![-1, 2] ![5, 0] !![0, 1; 2, 7]),
            .ofMatrix !![9, 9; 9, 9]⟩ =
        .ok ⟨(2 : Nat), .ofMatrix normal', .ofMatrix result'⟩ ∧
      result 0 1 = 1 ∧ result' 0 1 = -1 := by
  have before : ∀ j, 1 / 10 < standardDeviation Real.sqrt (2 : Nat)
      ((!![0, 1; 2, 7] : Matrix (Fin 2) (Fin 2) ℝ).col j) := by
    rw [Fin.forall_fin_two]
    constructor <;>
      norm_num [standardDeviation, variance, columnMean, Fin.sum_univ_two, Real.lt_sqrt]
  have after : ∀ j, 1 / 10 < standardDeviation Real.sqrt (2 : Nat)
      ((rescaled ![-1, 2] ![5, 0] (!![0, 1; 2, 7] : Matrix (Fin 2) (Fin 2) ℝ)).col j) := by
    rw [Fin.forall_fin_two]
    constructor <;>
      norm_num [standardDeviation, variance, columnMean, rescaled, Fin.sum_univ_two, Real.lt_sqrt]
  have nonneg : (0 : ℝ) ≤ 1 / 10 := by norm_num
  obtain ⟨normal, result, ended, rescales, images⟩ :=
    kernel_rescaled isSquareRoot_real nonneg one_le_two !![0, 1; 2, 7] !![9, 9; 9, 9] .standard
  obtain ⟨normal', result', again, signs⟩ := rescales ![-1, 2] ![5, 0] !![9, 9; 9, 9] before after
  have image : ∀ k, (!![0, 1; 2, 7] : Matrix (Fin 2) (Fin 2) ℝ) k 1 =
      3 * !![0, 1; 2, 7] k 0 + 1 := by
    norm_num [Fin.forall_fin_two]
  have one : result 0 1 = 1 :=
    (images 0 1 3 1 (by decide) image (before 0) (before 1)).1 three_pos
  refine ⟨before, after, normal, result, normal', result', ended, again, one, ?_⟩
  rw [signs 0 1 (by decide), one]
  simp

end Correlation
end Kernel
end DenseBench
