import DenseBench.DatasetSize
import DenseBench.Dense.Mat
import DenseBench.Dense.Vec
import DenseBench.Kernel.Scalar

/-!
# Two accumulated matrix-vector products

`x1 := x1 + A * y1` and `x2 := x2 + A^T * y2`, the second one column of `A` at a time.
-/

namespace DenseBench
namespace Kernel
namespace Mvt

/-- Rows and columns of the matrix at each size class. -/
def order (size : DatasetSize) : Nat :=
  size.pick (DatasetSize.table 40 120 400 2000 4000)

/-- The arrays of one call. -/
structure Arrays (α : Type) where
  /-- The matrix. -/
  a : Mat α
  /-- Output of the direct product. -/
  x1 : Vec α
  /-- Output of the transposed product. -/
  x2 : Vec α
  /-- Operand of the direct product. -/
  y1 : Vec α
  /-- Operand of the transposed product. -/
  y2 : Vec α

variable {α : Type}

/-- The generated operands of order `n`. -/
@[specialize]
def init [NatCast α] [Div α] (n : Nat) : Checked (Arrays α) := do
  let x1 ← Vec.tabulate n fun i => residue i n n
  let x2 ← Vec.tabulate n fun i => residue (i + 1) n n
  let y1 ← Vec.tabulate n fun i => residue (i + 3) n n
  let y2 ← Vec.tabulate n fun i => residue (i + 4) n n
  let a ← Mat.tabulate n n fun i j => residue (i * j) n n
  return ⟨a, x1, x2, y1, y2⟩

/-- The two loop nests.  The number of rows of `A` bounds every index. -/
@[specialize]
def kernel [Add α] [Mul α] (arrays : Arrays α) : Checked (Arrays α) := do
  let ⟨a, x1, x2, y1, y2⟩ := arrays
  let n := a.rows
  let x1 ← sweep 0 n x1 fun i x1 =>
    sweep 0 n x1 fun j x1 => do
      let term := (← a.read i j) * (← y1.read j)
      x1.modify i (· + term)
  let x2 ← sweep 0 n x2 fun i x2 =>
    sweep 0 n x2 fun j x2 => do
      let term := (← a.read j i) * (← y2.read j)
      x2.modify i (· + term)
  return ⟨a, x1, x2, y1, y2⟩

/-- One benchmark run: generate the operands and multiply them. -/
def run (size : DatasetSize) : Checked Int32 := do
  let _ ← kernel (α := Float) (← init (order size))
  return 0

end Mvt
end Kernel
end DenseBench
