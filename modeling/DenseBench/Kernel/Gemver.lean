import DenseBench.DatasetSize
import DenseBench.Dense.Mat
import DenseBench.Dense.Vec
import DenseBench.Kernel.Scalar

/-!
# Rank-two update with two products

`A := A + u1 * v1^T + u2 * v2^T`, then `x := x + beta * A^T * y + z`, then `w := w + alpha * A * x`.
Each stage works on what the stages before it left.
-/

namespace DenseBench
namespace Kernel
namespace Gemver

/-- Rows and columns of the matrix at each size class. -/
def order (size : DatasetSize) : Nat :=
  size.pick (DatasetSize.table 40 120 400 2000 4000)

/-- The arrays of one call. -/
structure Arrays (α : Type) where
  /-- The matrix that is updated. -/
  a : Mat α
  /-- Column factor of the first update. -/
  u1 : Vec α
  /-- Row factor of the first update. -/
  v1 : Vec α
  /-- Column factor of the second update. -/
  u2 : Vec α
  /-- Row factor of the second update. -/
  v2 : Vec α
  /-- Output of the last product. -/
  w : Vec α
  /-- Output of the transposed product. -/
  x : Vec α
  /-- Operand of the transposed product. -/
  y : Vec α
  /-- Shift of the transposed product. -/
  z : Vec α

variable {α : Type}

/-- The generated operands of order `n`, with cleared outputs. -/
@[specialize]
def init [Zero α] [NatCast α] [Div α] (n : Nat) : Checked (Arrays α) := do
  let scaled (divisor : Nat) : Vec α :=
    Vec.ofFn n fun i => ((i + 1 : Nat) : α) / (n : α) / (divisor : α)
  let a ← Mat.tabulate n n fun i j => residue (i * j) n n
  return {
    a
    u1 := Vec.ofFn n fun i => (i : α)
    u2 := scaled 2
    v1 := scaled 4
    v2 := scaled 6
    y := scaled 8
    z := scaled 9
    x := Vec.zeros n
    w := Vec.zeros n }

/-- The four loop nests.  The number of rows of `A` bounds every index. -/
@[specialize]
def kernel [Add α] [Mul α] (alpha beta : α) (arrays : Arrays α) : Checked (Arrays α) := do
  let ⟨a, u1, v1, u2, v2, w, x, y, z⟩ := arrays
  let n := a.rows
  let a ← sweep 0 n a fun i a =>
    sweep 0 n a fun j a => do
      let term := (← u1.read i) * (← v1.read j) + (← u2.read i) * (← v2.read j)
      a.modify i j (· + term)
  let x ← sweep 0 n x fun i x =>
    sweep 0 n x fun j x => do
      let term := beta * (← a.read j i) * (← y.read j)
      x.modify i (· + term)
  let x ← sweep 0 n x fun i x => do
    let term ← z.read i
    x.modify i (· + term)
  let w ← sweep 0 n w fun i w =>
    sweep 0 n w fun j w => do
      let term := alpha * (← a.read i j) * (← x.read j)
      w.modify i (· + term)
  return ⟨a, u1, v1, u2, v2, w, x, y, z⟩

/-- One benchmark run: generate the operands and go through the stages. -/
def run (size : DatasetSize) : Checked Int32 := do
  let _ ← kernel alpha beta (← init (order size))
  return 0

end Gemver
end Kernel
end DenseBench
