import DenseBench.DatasetSize
import DenseBench.Dense.Mat
import DenseBench.Dense.Vec
import DenseBench.Kernel.Scalar

/-!
# Product with a matrix and its transpose

`y := A^T * (A * x)`.  Each row of `A` gives one element of `tmp = A * x`, and its multiple by that
element is added to `y` at once.
-/

namespace DenseBench
namespace Kernel
namespace Atax

/-- Extents of the matrix. -/
structure Dims where
  /-- Rows of `A`. -/
  m : Nat
  /-- Columns of `A`. -/
  n : Nat
  deriving DecidableEq, Repr

/-- The extents at each size class. -/
def Dims.ofSize (size : DatasetSize) : Dims :=
  size.pick #v[⟨38, 42⟩, ⟨116, 124⟩, ⟨390, 410⟩, ⟨1900, 2100⟩, ⟨1800, 2200⟩]

/-- The arrays of one call. -/
structure Arrays (α : Type) where
  /-- The matrix, `m` by `n`. -/
  a : Mat α
  /-- The vector that is multiplied, of length `n`. -/
  x : Vec α
  /-- The result, of length `n`. -/
  y : Vec α
  /-- The product `A * x`, of length `m`. -/
  tmp : Vec α

variable {α : Type}

/-- The generated operands, with cleared results. -/
@[specialize]
def init [Zero α] [One α] [NatCast α] [Add α] [Div α] (dims : Dims) : Checked (Arrays α) := do
  let ⟨m, n⟩ := dims
  let x := Vec.ofFn n fun i => 1 + (i : α) / (n : α)
  let a ← Mat.tabulate m n fun i j => residue (i + j) n (5 * m)
  return ⟨a, x, Vec.zeros n, Vec.zeros m⟩

/-- The loop nest.  `A` gives both extents; the whole of `y` is cleared first. -/
@[specialize]
def kernel [Zero α] [Add α] [Mul α] (arrays : Arrays α) : Checked (Arrays α) := do
  let ⟨a, x, y, tmp⟩ := arrays
  let n := a.cols
  let (y, tmp) ← sweep 0 a.rows (y.fill 0, tmp) fun i (y, tmp) => do
    let tmp ← tmp.write i 0
    let tmp ← sweep 0 n tmp fun j tmp => do
      let term := (← a.read i j) * (← x.read j)
      tmp.modify i (· + term)
    let y ← sweep 0 n y fun j y => do
      let term := (← a.read i j) * (← tmp.read i)
      y.modify j (· + term)
    return (y, tmp)
  return ⟨a, x, y, tmp⟩

/-- One benchmark run: generate the operands and multiply them. -/
def run (size : DatasetSize) : Checked Int32 := do
  let _ ← kernel (α := Float) (← init (Dims.ofSize size))
  return 0

end Atax
end Kernel
end DenseBench
