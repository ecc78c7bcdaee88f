import DenseBench.DatasetSize
import DenseBench.Dense.Mat
import DenseBench.Dense.Vec
import DenseBench.Kernel.Scalar

/-!
# Forward substitution

Solves `L * x = b` for a lower-triangular `L`.  Row `i` of the solution starts from `b` and loses
the products with the rows that are already solved.
-/

namespace DenseBench
namespace Kernel
namespace Trisolv

/-- Rows and columns of `L` at each size class. -/
def order (size : DatasetSize) : Nat :=
  size.pick (DatasetSize.table 40 120 400 2000 4000)

/-- The arrays of one call. -/
structure Arrays (α : Type) where
  /-- The triangular matrix. -/
  l : Mat α
  /-- The solution. -/
  x : Vec α
  /-- The right-hand side. -/
  b : Vec α

variable {α : Type}

/-- The generated system of order `n`; the solution starts as a filler that is overwritten. -/
@[specialize]
def init [Zero α] [NatCast α] [Neg α] [Mul α] [Div α] (n : Nat)
    (subtraction : Subtraction := .standard) : Checked (Arrays α) := do
  let l ← Mat.tabulate n n fun i j => do
    if j ≤ i then
      let distance ← subtraction.difference (i + n) j
      return ((distance + 1 : Nat) : α) * ((2 : Nat) : α) / (n : α)
    else return 0
  let x := Vec.replicate n (-((999 : Nat) : α))
  let b := Vec.ofFn n fun i => (i : α)
  return ⟨l, x, b⟩

/-- The loop nest.  The number of rows of `L` bounds every index. -/
@[specialize]
def kernel [Mul α] [Sub α] [Div α] (arrays : Arrays α) : Checked (Arrays α) := do
  let ⟨l, x, b⟩ := arrays
  let x ← sweep 0 l.rows x fun i x => do
    let x ← x.write i (← b.read i)
    let x ← sweep 0 i x fun j x => do
      let term := (← l.read i j) * (← x.read j)
      x.modify i (· - term)
    let pivot ← l.read i i
    x.modify i (· / pivot)
  return ⟨l, x, b⟩

/-- One benchmark run: generate the system and solve it. -/
def run (size : DatasetSize) : Checked Int32 := do
  let _ ← kernel (α := Float) (← init (order size))
  return 0

end Trisolv
end Kernel
end DenseBench
