import DenseBench.DatasetSize
import DenseBench.Dense.Mat
import DenseBench.Kernel.Scalar

/-!
# Product with a triangular matrix

`B := alpha * A^T * B` in place for a unit lower-triangular `A`, of which only the strict lower
triangle is read.  Row `i` of the result needs the old rows from `i` on, so the rows are formed in
ascending order.
-/

namespace DenseBench
namespace Kernel
namespace Trmm

/-- Extents of the matrices. -/
structure Dims where
  /-- Rows of `B`, rows and columns of `A`. -/
  m : Nat
  /-- Columns of `B`. -/
  n : Nat
  deriving DecidableEq, Repr

/-- The extents at each size class. -/
def Dims.ofSize (size : DatasetSize) : Dims :=
  size.pick #v[⟨20, 30⟩, ⟨60, 80⟩, ⟨200, 240⟩, ⟨1000, 1200⟩, ⟨2000, 2600⟩]

/-- The matrices of one call. -/
structure Arrays (α : Type) where
  /-- The triangular factor, `m` by `m`. -/
  a : Mat α
  /-- The matrix that is multiplied in place, `m` by `n`. -/
  b : Mat α

variable {α : Type}

/-- The generated operands; the strict upper triangle of `A` is zero. -/
@[specialize]
def init [Zero α] [One α] [NatCast α] [Div α] (dims : Dims)
    (subtraction : Subtraction := .standard) : Checked (Arrays α) := do
  let ⟨m, n⟩ := dims
  let a ← Mat.tabulate m m fun i j =>
    if j < i then residue (i + j) m m else if j = i then .ok 1 else .ok 0
  let b ← Mat.tabulate m n fun i j => do
    residue (← subtraction.difference (n + i) j) n n
  return ⟨a, b⟩

/-- The loop nest.  `B` gives both extents. -/
@[specialize]
def kernel [Add α] [Mul α] (alpha : α) (arrays : Arrays α) : Checked (Arrays α) := do
  let ⟨a, b⟩ := arrays
  let m := b.rows
  let n := b.cols
  let b ← sweep 0 m b fun i b =>
    sweep 0 n b fun j b => do
      let b ← sweep (i + 1) m b fun k b => do
        let term := (← a.read k i) * (← b.read k j)
        b.modify i j (· + term)
      b.modify i j (· * alpha)
  return ⟨a, b⟩

/-- One benchmark run: generate the operands and multiply them. -/
def run (size : DatasetSize) : Checked Int32 := do
  let _ ← kernel alpha (← init (Dims.ofSize size))
  return 0

end Trmm
end Kernel
end DenseBench
