import DenseBench.DatasetSize
import DenseBench.Dense.Mat
import DenseBench.Kernel.Scalar

/-!
# Cholesky factorisation

`A = L * L^T` in place: `L` is left in the lower triangle of `A`, and the strict upper triangle is
neither read nor written.  The generated matrix is such a product of a factor with unit diagonal.
-/

namespace DenseBench
namespace Kernel
namespace Cholesky

/-- Rows and columns of the matrix at each size class. -/
def order (size : DatasetSize) : Nat :=
  size.pick (DatasetSize.table 40 120 400 2000 4000)

/-- The matrix of one call. -/
structure Arrays (α : Type) where
  /-- The matrix that is factorised in place. -/
  a : Mat α

variable {α : Type}

/-- The lower-triangular factor with unit diagonal that generates the matrix. -/
@[specialize]
def factor [Zero α] [One α] [NatCast α] [Sub α] [Div α] (n : Nat) : Mat α :=
  Mat.ofFn n n fun i j => if j = i then 1 else if j < i then 1 - (j : α) / (n : α) else 0

/-- The product of a square matrix with its own transpose, accumulated over the whole result one
inner index at a time. -/
@[specialize]
def gram [Zero α] [Add α] [Mul α] (lower : Mat α) : Checked (Mat α) :=
  let n := lower.rows
  sweep 0 n (Mat.zeros n n) fun t a =>
    sweep 0 n a fun r a =>
      sweep 0 n a fun s a => do
        let term := (← lower.read r t) * (← lower.read s t)
        a.modify r s (· + term)

/-- The generated matrix of order `n`. -/
@[specialize]
def init [Zero α] [One α] [NatCast α] [Add α] [Mul α] [Sub α] [Div α] (n : Nat) :
    Checked (Arrays α) := do
  let a ← gram (factor n)
  return ⟨a⟩

/-- The loop nest.  The number of rows of `A` bounds every index. -/
@[specialize]
def kernel [Mul α] [Sub α] [Div α] (sqrt : α → α) (arrays : Arrays α) : Checked (Arrays α) := do
  let ⟨a⟩ := arrays
  let n := a.rows
  let a ← sweep 0 n a fun i a => do
    let a ← sweep 0 i a fun j a => do
      let a ← sweep 0 j a fun k a => do
        let term := (← a.read i k) * (← a.read j k)
        a.modify i j (· - term)
      let pivot ← a.read j j
      a.modify i j (· / pivot)
    let a ← sweep 0 i a fun k a => do
      let term := (← a.read i k) * (← a.read i k)
      a.modify i i (· - term)
    a.modify i i sqrt
  return ⟨a⟩

/-- One benchmark run: generate the matrix and factorise it. -/
def run (size : DatasetSize) : Checked Int32 := do
  let _ ← kernel Float.sqrt (← init (order size))
  return 0

end Cholesky
end Kernel
end DenseBench
