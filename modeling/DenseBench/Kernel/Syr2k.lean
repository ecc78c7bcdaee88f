import DenseBench.DatasetSize
import DenseBench.Dense.Mat
import DenseBench.Kernel.Scalar

/-!
# Symmetric rank-2k update

`C := alpha * A * B^T + alpha * B * A^T + beta * C` on the lower triangle of `C`; the strict upper
triangle is neither read nor written.
-/

namespace DenseBench
namespace Kernel
namespace Syr2k

/-- Extents of the matrices. -/
structure Dims where
  /-- Columns of `A` and `B`. -/
  m : Nat
  /-- Rows of every matrix and columns of `C`. -/
  n : Nat
  deriving DecidableEq, Repr

/-- The extents at each size class. -/
def Dims.ofSize (size : DatasetSize) : Dims :=
  size.pick #v[⟨20, 30⟩, ⟨60, 80⟩, ⟨200, 240⟩, ⟨1000, 1200⟩, ⟨2000, 2600⟩]

/-- The matrices of one call. -/
structure Arrays (α : Type) where
  /-- The updated matrix, `n` by `n`. -/
  c : Mat α
  /-- The first factor, `n` by `m`. -/
  a : Mat α
  /-- The second factor, `n` by `m`. -/
  b : Mat α

variable {α : Type}

/-- The generated operands. -/
@[specialize]
def init [NatCast α] [Div α] (dims : Dims) : Checked (Arrays α) := do
  let ⟨m, n⟩ := dims
  let a ← Mat.tabulate n m fun i j => residue (i * j + 1) n n
  let b ← Mat.tabulate n m fun i j => residue (i * j + 2) m m
  let c ← Mat.tabulate n n fun i j => residue (i * j + 3) n m
  return ⟨c, a, b⟩

/-- The loop nest.  `A` gives both extents. -/
@[specialize]
def kernel [Add α] [Mul α] (alpha beta : α) (arrays : Arrays α) : Checked (Arrays α) := do
  let ⟨c, a, b⟩ := arrays
  let c ← sweep 0 a.rows c fun i c => do
    let c ← sweep 0 (i + 1) c fun j c => c.modify i j (· * beta)
    sweep 0 a.cols c fun k c =>
      sweep 0 (i + 1) c fun j c => do
        let term := (← a.read j k) * alpha * (← b.read i k) +
          (← b.read j k) * alpha * (← a.read i k)
        c.modify i j (· + term)
  return ⟨c, a, b⟩

/-- One benchmark run: generate the operands and update once. -/
def run (size : DatasetSize) : Checked Int32 := do
  let _ ← kernel alpha beta (← init (Dims.ofSize size))
  return 0

end Syr2k
end Kernel
end DenseBench
