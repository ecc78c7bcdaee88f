import DenseBench.DatasetSize
import DenseBench.Dense.Mat
import DenseBench.Dense.Vec
import DenseBench.Kernel.Scalar

/-!
# Two products of the biconjugate gradient method

`s := A^T * r` and `q := A * p` in one pass over the rows of `A`.
-/

namespace DenseBench
namespace Kernel
namespace Bicg

/-- Extents of the matrix. -/
structure Dims where
  /-- Columns of `A`. -/
  m : Nat
  /-- Rows of `A`. -/
  n : Nat
  deriving DecidableEq, Repr

/-- The extents at each size class. -/
def Dims.ofSize (size : DatasetSize) : Dims :=
  size.pick #v[⟨38, 42⟩, ⟨116, 124⟩, ⟨390, 410⟩, ⟨1900, 2100⟩, ⟨1800, 2200⟩]

/-- The arrays of one call. -/
structure Arrays (α : Type) where
  /-- The matrix, `n` by `m`. -/
  a : Mat α
  /-- The vector that meets the rows, of length `n`. -/
  r : Vec α
  /-- The vector that meets the columns, of length `m`. -/
  p : Vec α
  /-- The transposed product, of length `m`. -/
  s : Vec α
  /-- The direct product, of length `n`. -/
  q : Vec α

variable {α : Type}

/-- The generated operands, with cleared results. -/
@[specialize]
def init [Zero α] [NatCast α] [Div α] (dims : Dims) : Checked (Arrays α) := do
  let ⟨m, n⟩ := dims
  let p ← Vec.tabulate m fun i => residue i m m
  let r ← Vec.tabulate n fun i => residue i n n
  let a ← Mat.tabulate n m fun i j => residue (i * (j + 1)) n n
  return ⟨a, r, p, Vec.zeros m, Vec.zeros n⟩

/-- The loop nest.  `A` gives both extents; the whole of `s` is cleared first. -/
@[specialize]
def kernel [Zero α] [Add α] [Mul α] (arrays : Arrays α) : Checked (Arrays α) := do
  let ⟨a, r, p, s, q⟩ := arrays
  let (s, q) ← sweep 0 a.rows (s.fill 0, q) fun i (s, q) => do
    let q ← q.write i 0
    sweep 0 a.cols (s, q) fun j (s, q) => do
      let transposed := (← r.read i) * (← a.read i j)
      let s ← s.modify j (· + transposed)
      let direct := (← a.read i j) * (← p.read j)
      let q ← q.modify i (· + direct)
      return (s, q)
  return ⟨a, r, p, s, q⟩

/-- One benchmark run: generate the operands and multiply them. -/
def run (size : DatasetSize) : Checked Int32 := do
  let _ ← kernel (α := Float) (← init (Dims.ofSize size))
  return 0

end Bicg
end Kernel
end DenseBench
