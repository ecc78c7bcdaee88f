import DenseBench.DatasetSize
import DenseBench.Dense.Mat
import DenseBench.Dense.Vec
import DenseBench.Kernel.Scalar

/-!
# Sum of two matrix-vector products

`y := alpha * A * x + beta * B * x`, with `A * x` kept in `tmp`.
-/

namespace DenseBench
namespace Kernel
namespace Gesummv

/-- Rows and columns of the matrices at each size class. -/
def order (size : DatasetSize) : Nat :=
  size.pick (DatasetSize.table 30 90 250 1300 2800)

/-- The arrays of one call. -/
structure Arrays (α : Type) where
  /-- The first matrix. -/
  a : Mat α
  /-- The second matrix. -/
  b : Mat α
  /-- The vector that is multiplied. -/
  x : Vec α
  /-- The product with the first matrix. -/
  tmp : Vec α
  /-- The result. -/
  y : Vec α

variable {α : Type}

/-- The generated operands of order `n`, with cleared results. -/
@[specialize]
def init [Zero α] [NatCast α] [Div α] (n : Nat) : Checked (Arrays α) := do
  let a ← Mat.tabulate n n fun i j => residue (i * j + 1) n n
  let b ← Mat.tabulate n n fun i j => residue (i * j + 2) n n
  let x ← Vec.tabulate n fun i => residue i n n
  return ⟨a, b, x, Vec.zeros n, Vec.zeros n⟩

/-- The loop nest.  The number of rows of `A` bounds every index. -/
@[specialize]
def kernel [Zero α] [Add α] [Mul α] (alpha beta : α) (arrays : Arrays α) :
    Checked (Arrays α) := do
  let ⟨a, b, x, tmp, y⟩ := arrays
  let n := a.rows
  let (tmp, y) ← sweep 0 n (tmp, y) fun i (tmp, y) => do
    let tmp ← tmp.write i 0
    let y ← y.write i 0
    let (tmp, y) ← sweep 0 n (tmp, y) fun j (tmp, y) => do
      let first := (← a.read i j) * (← x.read j)
      let tmp ← tmp.modify i (· + first)
      let second := (← b.read i j) * (← x.read j)
      let y ← y.modify i (· + second)
      return (tmp, y)
    let product ← tmp.read i
    let y ← y.modify i fun old => alpha * product + beta * old
    return (tmp, y)
  return ⟨a, b, x, tmp, y⟩

/-- One benchmark run: generate the operands and form the sum. -/
def run (size : DatasetSize) : Checked Int32 := do
  let _ ← kernel alpha beta (← init (order size))
  return 0

end Gesummv
end Kernel
end DenseBench
