import DenseBench.DatasetSize
import DenseBench.Dense.Mat
import DenseBench.Kernel.Scalar

/-!
# Product with a symmetric matrix

`C := alpha * A * B + beta * C` for a symmetric `A` of which only the lower triangle is stored.  Row
`i` of the triangle acts twice: on the rows of `C` above `i`, and on row `i` itself.
-/

namespace DenseBench
namespace Kernel
namespace Symm

/-- Extents of the matrices. -/
structure Dims where
  /-- Rows of `C` and `B`, rows and columns of `A`. -/
  m : Nat
  /-- Columns of `C` and `B`. -/
  n : Nat
  deriving DecidableEq, Repr

/-- The extents at each size class. -/
def Dims.ofSize (size : DatasetSize) : Dims :=
  size.pick #v[⟨20, 30⟩, ⟨60, 80⟩, ⟨200, 240⟩, ⟨1000, 1200⟩, ⟨2000, 2600⟩]

/-- The matrices of one call. -/
structure Arrays (α : Type) where
  /-- The accumulated output, `m` by `n`. -/
  c : Mat α
  /-- The symmetric factor, `m` by `m`; its strict upper triangle is never read. -/
  a : Mat α
  /-- The general factor, `m` by `n`. -/
  b : Mat α

variable {α : Type}

/-- The generated operands; a filler stands in the unused triangle. -/
@[specialize]
def init [NatCast α] [Neg α] [Div α] (dims : Dims)
    (subtraction : Subtraction := .standard) : Checked (Arrays α) := do
  let ⟨m, n⟩ := dims
  let c ← Mat.tabulate m n fun i j => residue (i + j) 100 m
  let b ← Mat.tabulate m n fun i j => do
    residue (← subtraction.difference (n + i) j) 100 m
  let a ← Mat.tabulate m m fun i j =>
    if j ≤ i then residue (i + j) 100 m else .ok (-((999 : Nat) : α))
  return ⟨c, a, b⟩

/-- The loop nest.  `C` gives both extents. -/
@[specialize]
def kernel [Zero α] [Add α] [Mul α] (alpha beta : α) (arrays : Arrays α) :
    Checked (Arrays α) := do
  let ⟨c, a, b⟩ := arrays
  let n := c.cols
  let c ← sweep 0 c.rows c fun i c =>
    sweep 0 n c fun j c => do
      let (c, sum) ← sweep 0 i (c, (0 : α)) fun k (c, sum) => do
        let term := alpha * (← b.read i j) * (← a.read i k)
        let c ← c.modify k j (· + term)
        let sum := sum + (← b.read k j) * (← a.read i k)
        return (c, sum)
      let diagonal := alpha * (← b.read i j) * (← a.read i i)
      c.modify i j fun old => beta * old + diagonal + alpha * sum
  return ⟨c, a, b⟩

/-- One benchmark run: generate the operands and multiply them. -/
def run (size : DatasetSize) : Checked Int32 := do
  let _ ← kernel alpha beta (← init (Dims.ofSize size))
  return 0

end Symm
end Kernel
end DenseBench
