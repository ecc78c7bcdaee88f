import DenseBench.DatasetSize
import DenseBench.Dense.Mat
import DenseBench.Kernel.Scalar

/-!
# General matrix product

`C := alpha * A * B + beta * C`, one row of `C` at a time: the row is scaled first, then multiples
of the rows of `B` are added to it one after the other.
-/

namespace DenseBench
namespace Kernel
namespace Gemm

/-- Extents of the three matrices. -/
structure Dims where
  /-- Rows of `C` and `A`. -/
  ni : Nat
  /-- Columns of `C` and `B`. -/
  nj : Nat
  /-- Columns of `A` and rows of `B`. -/
  nk : Nat
  deriving DecidableEq, Repr

/-- The extents at each size class. -/
def Dims.ofSize (size : DatasetSize) : Dims :=
  size.pick #v[⟨20, 25, 30⟩, ⟨60, 70, 80⟩, ⟨200, 220, 240⟩, ⟨1000, 1100, 1200⟩, ⟨2000, 2300, 2600⟩]

/-- The matrices of one call. -/
structure Arrays (α : Type) where
  /-- The accumulated output, `ni` by `nj`. -/
  c : Mat α
  /-- The left factor, `ni` by `nk`. -/
  a : Mat α
  /-- The right factor, `nk` by `nj`. -/
  b : Mat α

variable {α : Type}

/-- The generated operands. -/
@[specialize]
def init [NatCast α] [Div α] (dims : Dims) : Checked (Arrays α) := do
  let ⟨ni, nj, nk⟩ := dims
  let c ← Mat.tabulate ni nj fun i j => residue (i * j + 1) ni ni
  let a ← Mat.tabulate ni nk fun i j => residue (i * (j + 1)) nk nk
  let b ← Mat.tabulate nk nj fun i j => residue (i * (j + 2)) nj nj
  return ⟨c, a, b⟩

/-- The loop nest.  `A` gives the extents `ni` and `nk`, `C` gives `nj`. -/
@[specialize]
def kernel [Add α] [Mul α] (alpha beta : α) (arrays : Arrays α) : Checked (Arrays α) := do
  let ⟨c, a, b⟩ := arrays
  let nj := c.cols
  let c ← sweep 0 a.rows c fun i c => do
    let c ← sweep 0 nj c fun j c => c.modify i j (· * beta)
    sweep 0 a.cols c fun k c =>
      sweep 0 nj c fun j c => do
        let term := alpha * (← a.read i k) * (← b.read k j)
        c.modify i j (· + term)
  return ⟨c, a, b⟩

/-- One benchmark run: generate the operands and multiply them. -/
def run (size : DatasetSize) : Checked Int32 := do
  let _ ← kernel alpha beta (← init (Dims.ofSize size))
  return 0

end Gemm
end Kernel
end DenseBench
