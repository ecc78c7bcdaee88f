import DenseBench.Kernel.Suite
import DenseBench.Proofs.Kernel.Safety.Blas
import DenseBench.Proofs.Kernel.Safety.Correlation
import DenseBench.Proofs.Kernel.Safety.LinearAlgebra
import DenseBench.Proofs.Kernel.Safety.Solvers

/-!
# Safety of the suite

All sixteen kernels together.  Three generators can fail, and each of them only where an extent that
it divides by is zero while the axes that it fills are not.  At the extents of the size classes this
is nowhere the case, so every benchmark run ends and reports no failure.
-/

namespace DenseBench
namespace Kernel

/-- Every kernel is safe at all extents, zero included, over any scalars.  The differences of indices
may be taken by a subtraction that fails below zero: none of them gets there. -/
theorem kernels_safe {α : Type} [Zero α] [One α] [NatCast α] [Neg α] [Add α] [Sub α] [Mul α]
    [Div α] [LE α] [DecidableLE α] (sqrt : α → α) (alpha beta eps : α)
    (subtraction : Subtraction) :
    (∀ dims, Safe False (Correlation.init dims)
      (fun arrays => Correlation.kernel sqrt eps arrays subtraction) (Correlation.Shaped dims)) ∧
    (∀ dims, Safe (dims.nk = 0 ∧ 0 < dims.ni ∧ 0 < dims.nl) (TwoProducts.init dims)
      (TwoProducts.kernel alpha beta) (TwoProducts.Shaped dims)) ∧
    (∀ dims, Safe
      ((dims.nl = 0 ∧ 0 < dims.nj ∧ 0 < dims.nm) ∨ (dims.nk = 0 ∧ 0 < dims.nm ∧ 0 < dims.nl))
      (ThreeProducts.init dims) (ThreeProducts.kernel (α := α)) (ThreeProducts.Shaped dims)) ∧
    (∀ dims, Safe False (Atax.init dims) (Atax.kernel (α := α)) (Atax.Shaped dims)) ∧
    (∀ dims, Safe False (Bicg.init dims) (Bicg.kernel (α := α)) (Bicg.Shaped dims)) ∧
    (∀ n, Safe False (Cholesky.init n) (Cholesky.kernel sqrt) (Cholesky.Shaped n)) ∧
    (∀ dims, Safe False (Doitgen.init dims) (Doitgen.kernel (α := α)) (Doitgen.Shaped dims)) ∧
    (∀ dims, Safe False (Gemm.init dims) (Gemm.kernel alpha beta) (Gemm.Shaped dims)) ∧
    (∀ n, Safe False (Gemver.init n) (Gemver.kernel alpha beta) (Gemver.Shaped n)) ∧
    (∀ n, Safe False (Gesummv.init n) (Gesummv.kernel alpha beta) (Gesummv.Shaped n)) ∧
    (∀ n, Safe False (Mvt.init n) (Mvt.kernel (α := α)) (Mvt.Shaped n)) ∧
    (∀ dims, Safe False (Symm.init dims subtraction) (Symm.kernel alpha beta)
      (Symm.Shaped dims)) ∧
    (∀ dims, Safe False (Syr2k.init dims) (Syr2k.kernel alpha beta) (Syr2k.Shaped dims)) ∧
    (∀ dims, Safe (dims.m = 0 ∧ 0 < dims.n) (Syrk.init dims) (Syrk.kernel alpha beta)
      (Syrk.Shaped dims)) ∧
    (∀ n, Safe False (Trisolv.init n subtraction) (Trisolv.kernel (α := α))
      (Trisolv.Shaped n)) ∧
    (∀ dims, Safe False (Trmm.init dims subtraction) (Trmm.kernel alpha) (Trmm.Shaped dims)) :=
  ⟨fun dims => Correlation.safe sqrt eps dims subtraction,
    TwoProducts.safe alpha beta, ThreeProducts.safe, Atax.safe, Bicg.safe,
    Cholesky.safe sqrt, Doitgen.safe, Gemm.safe alpha beta, Gemver.safe alpha beta,
    Gesummv.safe alpha beta, Mvt.safe, fun dims => Symm.safe alpha beta dims subtraction,
    Syr2k.safe alpha beta, Syrk.safe alpha beta, fun n => Trisolv.safe n subtraction,
    fun dims => Trmm.safe alpha dims subtraction⟩

/-- A benchmark run of a kernel ends at every size class and reports no failure. -/
theorem run_eq_zero (size : DatasetSize) : ∀ entry ∈ suite, entry.run size = .ok 0 := by
  have two : ¬TwoProducts.Faulty (TwoProducts.Dims.ofSize size) := by
    cases size <;> exact fun faulty => absurd faulty.1 (by decide)
  have three : ¬ThreeProducts.Faulty (ThreeProducts.Dims.ofSize size) := by
    cases size <;> rintro (faulty | faulty) <;> exact absurd faulty.1 (by decide)
  have update : ¬Syrk.Faulty (Syrk.Dims.ofSize size) := by
    cases size <;> exact fun faulty => absurd faulty.1 (by decide)
  simp only [suite, List.forall_mem_cons]
  exact ⟨(Correlation.safe _ _ _ _).run id, (TwoProducts.safe _ _ _).run two,
    (ThreeProducts.safe _).run three, (Atax.safe _).run id, (Bicg.safe _).run id,
    (Cholesky.safe _ _).run id, (Doitgen.safe _).run id, (Gemm.safe _ _ _).run id,
    (Gemver.safe _ _ _).run id, (Gesummv.safe _ _ _).run id, (Mvt.safe _).run id,
    (Symm.safe _ _ _ _).run id, (Syr2k.safe _ _ _).run id, (Syrk.safe _ _ _).run update,
    (Trisolv.safe _ _).run id, (Trmm.safe _ _ _).run id, List.forall_mem_nil _⟩

end Kernel
end DenseBench
