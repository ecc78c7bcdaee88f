import DenseBench.Proofs.Dense.Matrix
import DenseBench.Proofs.Kernel.Correlation.Columns
import Mathlib.Algebra.Order.Field.Basic
import Mathlib.Analysis.Real.Sqrt

/-!
# Correlations in exact arithmetic

Over an ordered field with square roots the columns of the data are vectors, and what the kernel
leaves is said with sums: a standardised column is the column without its mean, over a multiple of
its standard deviation, and a correlation is the inner product of two standardised columns.
-/

namespace DenseBench
namespace Kernel
namespace Correlation

variable {K : Type} [Field K] {n m : Nat}

/-- A function that finds the square root of every element that is not negative. -/
structure IsSquareRoot [LE K] (sqrt : K → K) : Prop where
  nonneg : ∀ x, 0 ≤ x → 0 ≤ sqrt x
  sq_sqrt : ∀ x, 0 ≤ x → sqrt x ^ 2 = x

theorem isSquareRoot_real : IsSquareRoot Real.sqrt :=
  ⟨fun x _ => Real.sqrt_nonneg x, fun _ => Real.sq_sqrt⟩

section Columns

/-- The mean of a column. -/
def columnMean (count : K) (x : Fin n → K) : K :=
  (∑ k, x k) / count

/-- The mean square of the distances of a column from its mean. -/
def variance (count : K) (x : Fin n → K) : K :=
  (∑ k, (x k - columnMean count x) ^ 2) / count

/-- The root of the variance. -/
def standardDeviation (sqrt : K → K) (count : K) (x : Fin n → K) : K :=
  sqrt (variance count x)

theorem mean_eq_columnMean (count : K) (x : Nat → K) :
    mean count n x = columnMean count (Vec.front n x) := by
  rw [mean, Vec.accumulate_front, columnMean]

theorem deviation_eq_standardDeviation (sqrt : K → K) (count : K) (x : Nat → K) :
    deviation sqrt count n x = standardDeviation sqrt count (Vec.front n x) := by
  simp only [deviation, mean_eq_columnMean, Vec.accumulate_front, ← sq]
  rfl

theorem product_eq_sum (x y : Nat → K) :
    product n x y = ∑ k, Vec.front n x k * Vec.front n y k := by
  rw [product, Vec.accumulate_front]
  rfl

/-- Where multiplication commutes, the order of two columns does not matter. -/
theorem correlated_of_ne {x : Nat → Nat → K} {i j : Nat} (apart : i ≠ j) :
    correlated n x i j = product n (x · i) (x · j) := by
  rcases Nat.lt_or_gt_of_ne apart with upper | lower
  · exact correlated_of_lt upper
  · rw [correlated_comm, correlated_of_lt lower]
    exact accumulate_congr fun k _ _ => mul_comm (x k j) (x k i)

end Columns

section Standardised

variable [LinearOrder K] (sqrt : K → K) (eps count : K)

/-- The standard deviation, or one for a column that is nearly constant. -/
def scale (x : Fin n → K) : K :=
  if standardDeviation sqrt count x ≤ eps then 1 else standardDeviation sqrt count x

/-- The column without its mean, brought to unit length unless it is nearly constant. -/
def standardised (x : Fin n → K) (k : Fin n) : K :=
  (x k - columnMean count x) / (sqrt count * scale sqrt eps count x)

/-- The matrix of the standardised columns. -/
def standardisedData (data : Matrix (Fin n) (Fin m) K) : Matrix (Fin n) (Fin m) K :=
  .of fun k j => standardised sqrt eps count (data.col j) k

/-- The inner products of the standardised columns, with ones on the diagonal. -/
def correlations (data : Matrix (Fin n) (Fin m) K) : Matrix (Fin m) (Fin m) K :=
  .of fun i j => if i = j then 1 else
    ∑ k, standardised sqrt eps count (data.col i) k * standardised sqrt eps count (data.col j) k

variable {sqrt eps count} in
theorem correlations_self {data : Matrix (Fin n) (Fin m) K} {i : Fin m} :
    correlations sqrt eps count data i i = 1 :=
  if_pos rfl

variable {sqrt eps count} in
theorem correlations_of_ne {data : Matrix (Fin n) (Fin m) K} {i j : Fin m} (apart : i ≠ j) :
    correlations sqrt eps count data i j =
      ∑ k, standardised sqrt eps count (data.col i) k *
        standardised sqrt eps count (data.col j) k :=
  if_neg apart

theorem front_normalised (x : Nat → K) :
    Vec.front n (normalised sqrt eps count n x) =
      standardised sqrt eps count (Vec.front n x) := by
  funext k
  rw [Vec.front_apply, normalised, divisor, mean_eq_columnMean, deviation_eq_standardDeviation]
  rfl

theorem block_normalisedData (data : Nat → Nat → K) :
    Mat.block n m (normalisedData sqrt eps count n data) =
      standardisedData sqrt eps count (Mat.block n m data) := by
  ext k j
  exact congrFun (front_normalised sqrt eps count (data · j)) k

theorem block_correlated (data : Nat → Nat → K) :
    Mat.block m m (correlated n (normalisedData sqrt eps count n data)) =
      correlations sqrt eps count (Mat.block n m data) := by
  ext i j
  by_cases same : i = j
  · subst same
    exact correlated_self.trans correlations_self.symm
  · have columns (j : Fin m) : Vec.front n (normalisedData sqrt eps count n data · j) =
        standardised sqrt eps count ((Mat.block n m data).col j) :=
      front_normalised sqrt eps count (data · j)
    rw [Mat.block_apply, correlated_of_ne (Fin.val_ne_of_ne same), product_eq_sum, columns, columns,
      correlations_of_ne same]

theorem kernel_ofMatrix (data : Matrix (Fin n) (Fin m) K) (corr : Matrix (Fin m) (Fin m) K)
    (subtraction : Subtraction) :
    kernel sqrt eps ⟨count, .ofMatrix data, .ofMatrix corr⟩ subtraction =
      .ok ⟨count, .ofMatrix (standardisedData sqrt eps count data),
        .ofMatrix (correlations sqrt eps count data)⟩ := by
  obtain ⟨data, rfl⟩ := Mat.exists_eq_block data
  obtain ⟨corr, rfl⟩ := Mat.exists_eq_block corr
  rw [← block_normalisedData, ← block_correlated]
  simp only [Mat.ofMatrix_block]
  rw [kernel_ofFn sqrt eps count data corr subtraction le_rfl le_rfl, Mat.ofFn_withRows]

end Standardised

end Correlation
end Kernel
end DenseBench
