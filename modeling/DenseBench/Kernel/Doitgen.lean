import DenseBench.DatasetSize
import DenseBench.Dense.Cube
import DenseBench.Dense.Vec
import DenseBench.Kernel.Scalar

/-!
# Fibre products of a three-dimensional array

`A[r, q, ·] := A[r, q, ·] * C4` for every pair `r`, `q`.  The products of one fibre are formed in
`sum` and copied back when all of them are known.
-/

namespace DenseBench
namespace Kernel
namespace Doitgen

/-- Extents of the array. -/
structure Dims where
  /-- Extent of the second axis of `A`. -/
  nq : Nat
  /-- Extent of the first axis of `A`. -/
  nr : Nat
  /-- Extent of the third axis of `A` and of both axes of `C4`. -/
  np : Nat
  deriving DecidableEq, Repr

/-- The extents at each size class. -/
def Dims.ofSize (size : DatasetSize) : Dims :=
  size.pick #v[⟨8, 10, 12⟩, ⟨20, 25, 30⟩, ⟨40, 50, 60⟩, ⟨140, 150, 160⟩, ⟨220, 250, 270⟩]

/-- The arrays of one call. -/
structure Arrays (α : Type) where
  /-- The array that is multiplied in place, `nr` by `nq` by `np`. -/
  a : Cube α
  /-- The matrix of the products, `np` by `np`. -/
  c4 : Mat α
  /-- The products of one fibre, of length `np`. -/
  sum : Vec α

variable {α : Type}

/-- The generated operands, with a cleared fibre. -/
@[specialize]
def init [Zero α] [NatCast α] [Div α] (dims : Dims) : Checked (Arrays α) := do
  let ⟨nq, nr, np⟩ := dims
  let a ← Cube.tabulate nr nq np fun i j k => residue (i * j + k) np np
  let c4 ← Mat.tabulate np np fun i j => residue (i * j) np np
  return ⟨a, c4, Vec.zeros np⟩

/-- The loop nest.  `A` gives the three extents. -/
@[specialize]
def kernel [Zero α] [Add α] [Mul α] (arrays : Arrays α) : Checked (Arrays α) := do
  let ⟨a, c4, sum⟩ := arrays
  let nr := a.planes
  let nq := a.rows
  let np := a.cols
  let (a, sum) ← sweep 0 nr (a, sum) fun r (a, sum) =>
    sweep 0 nq (a, sum) fun q (a, sum) => do
      let sum ← sweep 0 np sum fun p sum => do
        let sum ← sum.write p 0
        sweep 0 np sum fun s sum => do
          let term := (← a.read r q s) * (← c4.read s p)
          sum.modify p (· + term)
      let a ← sweep 0 np a fun p a => do
        a.write r q p (← sum.read p)
      return (a, sum)
  return ⟨a, c4, sum⟩

/-- One benchmark run: generate the operands and multiply every fibre. -/
def run (size : DatasetSize) : Checked Int32 := do
  let _ ← kernel (α := Float) (← init (Dims.ofSize size))
  return 0

end Doitgen
end Kernel
end DenseBench
