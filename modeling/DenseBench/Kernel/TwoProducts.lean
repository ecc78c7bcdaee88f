import DenseBench.DatasetSize
import DenseBench.Dense.Mat
import DenseBench.Kernel.Scalar

/-!
# Two chained matrix products

`D := alpha * A * B * C + beta * D` by way of `tmp = alpha * A * B`.  Both products form their
elements one by one.
-/

namespace DenseBench
namespace Kernel
namespace TwoProducts

/-- Extents of the matrices. -/
structure Dims where
  /-- Rows of `A` and `D`. -/
  ni : Nat
  /-- Columns of `B` and rows of `C`. -/
  nj : Nat
  /-- Columns of `A` and rows of `B`. -/
  nk : Nat
  /-- Columns of `C` and `D`. -/
  nl : Nat
  deriving DecidableEq, Repr

/-- The extents at each size class. -/
def Dims.ofSize (size : DatasetSize) : Dims :=
  size.pick #v[⟨16, 18, 22, 24⟩, ⟨40, 50, 70, 80⟩, ⟨180, 190, 210, 220⟩, ⟨800, 900, 1100, 1200⟩,
    ⟨1600, 1800, 2200, 2400⟩]

/-- The matrices of one call. -/
structure Arrays (α : Type) where
  /-- The first factor, `ni` by `nk`. -/
  a : Mat α
  /-- The second factor, `nk` by `nj`. -/
  b : Mat α
  /-- The third factor, `nj` by `nl`. -/
  c : Mat α
  /-- The accumulated output, `ni` by `nl`. -/
  d : Mat α
  /-- The product of the first two factors, `ni` by `nj`. -/
  tmp : Mat α

variable {α : Type}

/-- The generated operands, with a cleared intermediate product. -/
@[specialize]
def init [Zero α] [NatCast α] [Div α] (dims : Dims) : Checked (Arrays α) := do
  let ⟨ni, nj, nk, nl⟩ := dims
  let a ← Mat.tabulate ni nk fun i j => residue (i * j + 1) ni ni
  let b ← Mat.tabulate nk nj fun i j => residue (i * (j + 1)) nj nj
  let c ← Mat.tabulate nj nl fun i j => residue (i * (j + 3) + 1) nl nl
  let d ← Mat.tabulate ni nl fun i j => residue (i * (j + 2)) nk nk
  return ⟨a, b, c, d, Mat.zeros ni nj⟩

/-- The two loop nests.  `A` gives the extents `ni` and `nk`, `B` gives `nj`, `C` gives `nl`. -/
@[specialize]
def kernel [Zero α] [Add α] [Mul α] (alpha beta : α) (arrays : Arrays α) :
    Checked (Arrays α) := do
  let ⟨a, b, c, d, tmp⟩ := arrays
  let ni := a.rows
  let nj := b.cols
  let tmp ← sweep 0 ni tmp fun i tmp =>
    sweep 0 nj tmp fun j tmp => do
      let tmp ← tmp.write i j 0
      sweep 0 a.cols tmp fun k tmp => do
        let term := alpha * (← a.read i k) * (← b.read k j)
        tmp.modify i j (· + term)
  let d ← sweep 0 ni d fun i d =>
    sweep 0 c.cols d fun j d => do
      let d ← d.modify i j (· * beta)
      sweep 0 nj d fun k d => do
        let term := (← tmp.read i k) * (← c.read k j)
        d.modify i j (· + term)
  return ⟨a, b, c, d, tmp⟩

/-- One benchmark run: generate the operands and multiply them. -/
def run (size : DatasetSize) : Checked Int32 := do
  let _ ← kernel alpha beta (← init (Dims.ofSize size))
  return 0

end TwoProducts
end Kernel
end DenseBench
