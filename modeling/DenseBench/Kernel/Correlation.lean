import DenseBench.DatasetSize
import DenseBench.Dense.Mat
import DenseBench.Dense.Vec
import DenseBench.Kernel.Scalar

/-!
# Correlation matrix

The Pearson correlations of the columns of a data matrix.  The data are normalised in place: each
column loses its mean and is divided by the root of the number of observations times its standard
deviation.  A deviation of at most `eps` counts as one, so that a column that is nearly constant is
not blown up.  The correlation of two columns is then the sum of the products of their elements.
-/

namespace DenseBench
namespace Kernel
namespace Correlation

/-- Extents of the data. -/
structure Dims where
  /-- Attributes: columns of the data. -/
  m : Nat
  /-- Observations: rows of the data. -/
  n : Nat
  deriving DecidableEq, Repr

/-- The extents at each size class. -/
def Dims.ofSize (size : DatasetSize) : Dims :=
  size.pick #v[⟨28, 32⟩, ⟨80, 100⟩, ⟨240, 260⟩, ⟨1200, 1400⟩, ⟨2600, 3000⟩]

/-- The largest standard deviation that counts as none in a benchmark run. -/
def threshold : Float := 0.1

/-- The arrays of one call. -/
structure Arrays (α : Type) where
  /-- The number of observations as a scalar. -/
  count : α
  /-- The data, `n` by `m`. -/
  data : Mat α
  /-- The correlations, `m` by `m`. -/
  corr : Mat α

variable {α : Type}

/-- The generated data, with cleared correlations. -/
@[specialize]
def init [Zero α] [NatCast α] [Add α] [Div α] (dims : Dims) : Checked (Arrays α) :=
  let ⟨m, n⟩ := dims
  let data := Mat.ofFn n m fun i j => ((i * j : Nat) : α) / (m : α) + (i : α)
  .ok ⟨(n : α), data, Mat.zeros m m⟩

/-- The sum, from the first row to the last, of a term for each element of column `j`. -/
@[specialize]
def columnSum [Zero α] [Add α] (data : Mat α) (j : Nat) (term : α → α) : Checked α :=
  sweep 0 data.rows 0 fun i sum => do
    return sum + term (← data.read i j)

/-- The means of the columns. -/
@[specialize]
def means [Zero α] [Add α] [Div α] (count : α) (data : Mat α) : Checked (Vec α) :=
  Vec.tabulate data.cols fun j => do
    return (← columnSum data j id) / count

/-- The standard deviations of the columns; one that is at most `eps` becomes one. -/
@[specialize]
def deviations [Zero α] [One α] [Add α] [Sub α] [Mul α] [Div α] [LE α] [DecidableLE α]
    (sqrt : α → α) (eps count : α) (data : Mat α) (mean : Vec α) : Checked (Vec α) :=
  Vec.tabulate data.cols fun j => do
    let center ← mean.read j
    let sum ← columnSum data j fun x => (x - center) * (x - center)
    let deviation := sqrt (sum / count)
    return if deviation ≤ eps then 1 else deviation

/-- Center every column and divide it by `root` times its deviation. -/
@[specialize]
def normalise [Sub α] [Mul α] [Div α] (root : α) (data : Mat α) (mean deviation : Vec α) :
    Checked (Mat α) :=
  let m := data.cols
  sweep 0 data.rows data fun i data =>
    sweep 0 m data fun j data => do
      let center ← mean.read j
      let data ← data.modify i j (· - center)
      let scale := root * (← deviation.read j)
      data.modify i j (· / scale)

/-- The sums of products of the columns of `data`, written to both triangles of `corr`, with ones
on the diagonal.  Without columns nothing is written. -/
@[specialize]
def products [Zero α] [One α] [Add α] [Mul α] (subtraction : Subtraction)
    (data corr : Mat α) : Checked (Mat α) := do
  let m := data.cols
  if m = 0 then
    return corr
  let last ← subtraction.difference m 1
  let corr ← sweep 0 last corr fun i corr => do
    let corr ← corr.write i i 1
    sweep (i + 1) m corr fun j corr => do
      let sum ← sweep 0 data.rows (0 : α) fun k sum => do
        return sum + (← data.read k i) * (← data.read k j)
      let corr ← corr.write i j sum
      corr.write j i sum
  corr.write last last 1

/-- Normalise the data and correlate its columns.  The data give both extents. -/
@[specialize]
def kernel [Zero α] [One α] [Add α] [Sub α] [Mul α] [Div α] [LE α] [DecidableLE α]
    (sqrt : α → α) (eps : α) (arrays : Arrays α) (subtraction : Subtraction := .standard) :
    Checked (Arrays α) := do
  let ⟨count, data, corr⟩ := arrays
  let mean ← means count data
  let deviation ← deviations sqrt eps count data mean
  let data ← normalise (sqrt count) data mean deviation
  let corr ← products subtraction data corr
  return ⟨count, data, corr⟩

/-- One benchmark run: generate the data and correlate its columns. -/
def run (size : DatasetSize) : Checked Int32 := do
  let _ ← kernel Float.sqrt threshold (← init (Dims.ofSize size))
  return 0

end Correlation
end Kernel
end DenseBench
