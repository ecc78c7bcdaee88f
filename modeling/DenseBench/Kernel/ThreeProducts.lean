import DenseBench.DatasetSize
import DenseBench.Dense.Mat
import DenseBench.Kernel.Scalar

/-!
# Three matrix products

`E := A * B`, `F := C * D` and `G := E * F`, each element formed on its own.
-/

namespace DenseBench
namespace Kernel
namespace ThreeProducts

/-- Extents of the matrices. -/
structure Dims where
  /-- Rows of `A` and `G`. -/
  ni : Nat
  /-- Columns of `B` and rows of `C`. -/
  nj : Nat
  /-- Columns of `A` and rows of `B`. -/
  nk : Nat
  /-- Columns of `D` and `G`. -/
  nl : Nat
  /-- Columns of `C` and rows of `D`. -/
  nm : Nat
  deriving DecidableEq, Repr

/-- The extents at each size class. -/
def Dims.ofSize (size : DatasetSize) : Dims :=
  size.pick #v[⟨16, 18, 20, 22, 24⟩, ⟨40, 50, 60, 70, 80⟩, ⟨180, 190, 200, 210, 220⟩,
    ⟨800, 900, 1000, 1100, 1200⟩, ⟨1600, 1800, 2000, 2200, 2400⟩]

/-- The matrices of one call. -/
structure Arrays (α : Type) where
  /-- Left factor of `E`, `ni` by `nk`. -/
  a : Mat α
  /-- Right factor of `E`, `nk` by `nj`. -/
  b : Mat α
  /-- Left factor of `F`, `nj` by `nm`. -/
  c : Mat α
  /-- Right factor of `F`, `nm` by `nl`. -/
  d : Mat α
  /-- The first product, `ni` by `nj`. -/
  e : Mat α
  /-- The second product, `nj` by `nl`. -/
  f : Mat α
  /-- The product of the products, `ni` by `nl`. -/
  g : Mat α

variable {α : Type}

/-- The generated factors, with cleared products. -/
@[specialize]
def init [Zero α] [NatCast α] [Div α] (dims : Dims) : Checked (Arrays α) := do
  let ⟨ni, nj, nk, nl, nm⟩ := dims
  let a ← Mat.tabulate ni nk fun i j => residue (i * j + 1) ni (5 * ni)
  let b ← Mat.tabulate nk nj fun i j => residue (i * (j + 1) + 2) nj (5 * nj)
  let c ← Mat.tabulate nj nm fun i j => residue (i * (j + 3)) nl (5 * nl)
  let d ← Mat.tabulate nm nl fun i j => residue (i * (j + 2) + 2) nk (5 * nk)
  return ⟨a, b, c, d, Mat.zeros ni nj, Mat.zeros nj nl, Mat.zeros ni nl⟩

/-- Overwrite `out` by the product of `lhs` and `rhs`.  The factors give the extents. -/
@[specialize]
def multiplyInto [Zero α] [Add α] [Mul α] (out lhs rhs : Mat α) : Checked (Mat α) :=
  sweep 0 lhs.rows out fun i out =>
    sweep 0 rhs.cols out fun j out => do
      let out ← out.write i j 0
      sweep 0 lhs.cols out fun k out => do
        let term := (← lhs.read i k) * (← rhs.read k j)
        out.modify i j (· + term)

/-- The three products, one after the other. -/
@[specialize]
def kernel [Zero α] [Add α] [Mul α] (arrays : Arrays α) : Checked (Arrays α) := do
  let ⟨a, b, c, d, e, f, g⟩ := arrays
  let e ← multiplyInto e a b
  let f ← multiplyInto f c d
  let g ← multiplyInto g e f
  return ⟨a, b, c, d, e, f, g⟩

/-- One benchmark run: generate the factors and multiply them. -/
def run (size : DatasetSize) : Checked Int32 := do
  let _ ← kernel (α := Float) (← init (Dims.ofSize size))
  return 0

end ThreeProducts
end Kernel
end DenseBench
