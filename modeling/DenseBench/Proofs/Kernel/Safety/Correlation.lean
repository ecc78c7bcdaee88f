import DenseBench.Kernel.Correlation
import DenseBench.Proofs.Kernel.Safety.Rules

/-!
# Safety of the correlation matrix

The four stages of the kernel, each on arrays of the extents of the data.  The last index, which is
one below the number of columns, is taken only when there are columns.
-/

namespace DenseBench
namespace Kernel
namespace Correlation

variable {α : Type} {dims : Dims} {arrays : Arrays α}

/-- The correlations are those of the columns of the data. -/
structure Shaped (dims : Dims) (arrays : Arrays α) : Prop where
  data : arrays.data.HasShape dims.n dims.m
  corr : arrays.corr.HasShape dims.m dims.m

theorem yields_init [Zero α] [NatCast α] [Add α] [Div α] (dims : Dims) :
    Yields (init dims : Checked (Arrays α)) (Shaped dims) :=
  .pure { data := ⟨rfl, rfl⟩, corr := ⟨rfl, rfl⟩ }

variable {rows cols : Nat} {data corr : Mat α} {mean deviation : Vec α}

theorem yields_columnSum [Zero α] [Add α] (shape : data.HasShape rows cols) {j : Nat}
    (col : j < cols) (term : α → α) : Yields (columnSum data j term) fun _ => True := by
  simp only [columnSum, shape.rows]
  refine yields_sweep (fun _ => True) trivial fun i sum _ row _ => ?_
  exact (shape.read row col).bind fun _ _ => .pure trivial

theorem yields_means [Zero α] [Add α] [Div α] (count : α) (shape : data.HasShape rows cols) :
    Yields (means count data) (Vec.HasSize cols) := by
  simp only [means, shape.cols]
  refine Vec.yields_tabulate fun j col => ?_
  exact (yields_columnSum shape col id).bind fun _ _ => .pure trivial

theorem yields_deviations [Zero α] [One α] [Add α] [Sub α] [Mul α] [Div α] [LE α] [DecidableLE α]
    (sqrt : α → α) (eps count : α) (shape : data.HasShape rows cols)
    (mean_size : mean.HasSize cols) :
    Yields (deviations sqrt eps count data mean) (Vec.HasSize cols) := by
  simp only [deviations, shape.cols]
  refine Vec.yields_tabulate fun j col => ?_
  refine (mean_size.read col).bind fun center _ => ?_
  exact (yields_columnSum shape col _).bind fun _ _ => .pure trivial

theorem yields_normalise [Sub α] [Mul α] [Div α] (root : α) (shape : data.HasShape rows cols)
    (mean_size : mean.HasSize cols) (deviation_size : deviation.HasSize cols) :
    Yields (normalise root data mean deviation) (Mat.HasShape rows cols) := by
  simp only [normalise, shape.rows, shape.cols]
  refine yields_sweep _ shape fun i data _ row shape => ?_
  refine yields_sweep _ shape fun j data _ col shape => ?_
  refine (mean_size.read col).bind fun _ _ => ?_
  refine (shape.modify row col _).bind fun data shape => ?_
  exact (deviation_size.read col).bind fun _ _ => shape.modify row col _

theorem yields_products [Zero α] [One α] [Add α] [Mul α] (subtraction : Subtraction)
    (shape : data.HasShape rows cols) (corr_shape : corr.HasShape cols cols) :
    Yields (products subtraction data corr) (Mat.HasShape cols cols) := by
  simp only [products, shape.rows, shape.cols]
  split
  · exact .pure corr_shape
  next filled =>
    have some_col : 1 ≤ cols := Nat.one_le_iff_ne_zero.mpr filled
    refine (yields_difference subtraction some_col).bind fun last last_eq => ?_
    have last_inside : last < cols := by omega
    refine Yields.bind (yields_sweep (Mat.HasShape cols cols) corr_shape ?_)
      fun corr corr_shape => corr_shape.write last_inside last_inside 1
    intro i corr _ before corr_shape
    have row : i < cols := Nat.lt_trans before last_inside
    refine (corr_shape.write row row 1).bind fun corr corr_shape => ?_
    refine yields_sweep _ corr_shape fun j corr _ col corr_shape => ?_
    refine Yields.bind (yields_sweep (fun _ => True) trivial ?_) fun sum _ => ?_
    · intro k sum _ observation _
      refine (shape.read observation row).bind fun _ _ => ?_
      exact (shape.read observation col).bind fun _ _ => .pure trivial
    · refine (corr_shape.write row col sum).bind fun corr corr_shape => ?_
      exact corr_shape.write col row sum

variable [Zero α] [One α] [Add α] [Sub α] [Mul α] [Div α] [LE α] [DecidableLE α]

theorem yields_kernel (sqrt : α → α) (eps : α) (subtraction : Subtraction)
    (shaped : Shaped dims arrays) :
    Yields (kernel sqrt eps arrays subtraction) (Shaped dims) := by
  obtain ⟨count, data, corr⟩ := arrays
  have shape : data.HasShape dims.n dims.m := shaped.data
  have corr_shape : corr.HasShape dims.m dims.m := shaped.corr
  refine (yields_means count shape).bind fun mean mean_size => ?_
  refine (yields_deviations sqrt eps count shape mean_size).bind fun deviation deviation_size => ?_
  refine (yields_normalise _ shape mean_size deviation_size).bind fun data shape => ?_
  refine (yields_products subtraction shape corr_shape).bind fun corr corr_shape => ?_
  exact .pure ⟨shape, corr_shape⟩

theorem safe [NatCast α] (sqrt : α → α) (eps : α) (dims : Dims) (subtraction : Subtraction) :
    Safe False (init dims) (fun arrays => kernel sqrt eps arrays subtraction) (Shaped dims) :=
  safe_of_yields (yields_init dims) fun _ => yields_kernel sqrt eps subtraction

end Correlation
end Kernel
end DenseBench
