import DenseBench.Kernel.Gemm
import DenseBench.Kernel.Gemver
import DenseBench.Kernel.Gesummv
import DenseBench.Kernel.Symm
import DenseBench.Kernel.Syr2k
import DenseBench.Kernel.Syrk
import DenseBench.Kernel.Trmm
import DenseBench.Proofs.Kernel.Safety.Rules

/-!
# Safety of the products and updates

For each kernel: the shape of its arrays, that its generator makes them, and that a call keeps them.
The rank-k update is the only one here whose generator can fail, since it takes remainders by the
extent of an axis that it does not fill.
-/

namespace DenseBench
namespace Kernel

variable {α : Type}

namespace Gemm

variable {dims : Dims} {arrays : Arrays α}

/-- The matrices have the extents of a product. -/
structure Shaped (dims : Dims) (arrays : Arrays α) : Prop where
  c : arrays.c.HasShape dims.ni dims.nj
  a : arrays.a.HasShape dims.ni dims.nk
  b : arrays.b.HasShape dims.nk dims.nj

theorem yields_init [NatCast α] [Div α] (dims : Dims) :
    Yields (init dims : Checked (Arrays α)) (Shaped dims) := by
  refine (yields_residues _ fun row _ => row).bind fun c c_shape => ?_
  refine (yields_residues _ fun _ col => col).bind fun a a_shape => ?_
  refine (yields_residues _ fun _ col => col).bind fun b b_shape => ?_
  exact .pure ⟨c_shape, a_shape, b_shape⟩

theorem yields_kernel [Add α] [Mul α] (alpha beta : α) (shaped : Shaped dims arrays) :
    Yields (kernel alpha beta arrays) (Shaped dims) := by
  obtain ⟨c, a, b⟩ := arrays
  have c_shape : c.HasShape dims.ni dims.nj := shaped.c
  have a_shape : a.HasShape dims.ni dims.nk := shaped.a
  have b_shape : b.HasShape dims.nk dims.nj := shaped.b
  simp only [kernel, c_shape.cols, a_shape.rows, a_shape.cols]
  refine Yields.bind (yields_sweep (Mat.HasShape dims.ni dims.nj) c_shape ?_) fun c c_shape =>
    .pure ⟨c_shape, a_shape, b_shape⟩
  intro i c _ row c_shape
  -- the row is scaled, then it gathers one multiple of a row of `b` after the other
  refine Yields.bind (yields_sweep (Mat.HasShape dims.ni dims.nj) c_shape ?_) fun c c_shape => ?_
  · intro j c _ col c_shape
    exact c_shape.modify row col _
  · refine yields_sweep _ c_shape fun k c _ inner c_shape => ?_
    refine yields_sweep _ c_shape fun j c _ col c_shape => ?_
    refine (a_shape.read row inner).bind fun _ _ => ?_
    refine (b_shape.read inner col).bind fun _ _ => ?_
    exact c_shape.modify row col _

theorem safe [NatCast α] [Add α] [Mul α] [Div α] (alpha beta : α) (dims : Dims) :
    Safe False (init dims) (kernel alpha beta) (Shaped dims) :=
  safe_of_yields (yields_init dims) fun _ => yields_kernel alpha beta

end Gemm

namespace Gemver

variable {n : Nat} {arrays : Arrays α}

/-- The matrix and all vectors have the same order. -/
structure Shaped (n : Nat) (arrays : Arrays α) : Prop where
  a : arrays.a.HasShape n n
  u1 : arrays.u1.HasSize n
  v1 : arrays.v1.HasSize n
  u2 : arrays.u2.HasSize n
  v2 : arrays.v2.HasSize n
  w : arrays.w.HasSize n
  x : arrays.x.HasSize n
  y : arrays.y.HasSize n
  z : arrays.z.HasSize n

theorem yields_init [Zero α] [NatCast α] [Div α] (n : Nat) :
    Yields (init n : Checked (Arrays α)) (Shaped n) := by
  refine (yields_residues _ fun row _ => row).bind fun a a_shape => ?_
  exact .pure ⟨a_shape, rfl, rfl, rfl, rfl, rfl, rfl, rfl, rfl⟩

theorem yields_kernel [Add α] [Mul α] (alpha beta : α) (shaped : Shaped n arrays) :
    Yields (kernel alpha beta arrays) (Shaped n) := by
  obtain ⟨a, u1, v1, u2, v2, w, x, y, z⟩ := arrays
  have a_shape : a.HasShape n n := shaped.a
  have x_size : x.HasSize n := shaped.x
  have w_size : w.HasSize n := shaped.w
  simp only [kernel, a_shape.rows]
  refine Yields.bind (yields_sweep (Mat.HasShape n n) a_shape ?_) fun a a_shape => ?_
  · intro i a _ row a_shape
    refine yields_sweep _ a_shape fun j a _ col a_shape => ?_
    refine (shaped.u1.read row).bind fun _ _ => (shaped.v1.read col).bind fun _ _ => ?_
    refine (shaped.u2.read row).bind fun _ _ => (shaped.v2.read col).bind fun _ _ => ?_
    exact a_shape.modify row col _
  refine Yields.bind (yields_sweep (Vec.HasSize n) x_size ?_) fun x x_size => ?_
  · intro i x _ row x_size
    refine yields_sweep _ x_size fun j x _ col x_size => ?_
    refine (a_shape.read col row).bind fun _ _ => (shaped.y.read col).bind fun _ _ => ?_
    exact x_size.modify row _
  refine Yields.bind (yields_sweep (Vec.HasSize n) x_size ?_) fun x x_size => ?_
  · intro i x _ row x_size
    exact (shaped.z.read row).bind fun _ _ => x_size.modify row _
  refine Yields.bind (yields_sweep (Vec.HasSize n) w_size ?_) fun w w_size => ?_
  · intro i w _ row w_size
    refine yields_sweep _ w_size fun j w _ col w_size => ?_
    refine (a_shape.read row col).bind fun _ _ => (x_size.read col).bind fun _ _ => ?_
    exact w_size.modify row _
  exact .pure ⟨a_shape, shaped.u1, shaped.v1, shaped.u2, shaped.v2, w_size, x_size, shaped.y,
    shaped.z⟩

theorem safe [Zero α] [NatCast α] [Add α] [Mul α] [Div α] (alpha beta : α) (n : Nat) :
    Safe False (init n) (kernel alpha beta) (Shaped n) :=
  safe_of_yields (yields_init n) fun _ => yields_kernel alpha beta

end Gemver

namespace Gesummv

variable {n : Nat} {arrays : Arrays α}

/-- The matrices and all vectors have the same order. -/
structure Shaped (n : Nat) (arrays : Arrays α) : Prop where
  a : arrays.a.HasShape n n
  b : arrays.b.HasShape n n
  x : arrays.x.HasSize n
  tmp : arrays.tmp.HasSize n
  y : arrays.y.HasSize n

theorem yields_init [Zero α] [NatCast α] [Div α] (n : Nat) :
    Yields (init n : Checked (Arrays α)) (Shaped n) := by
  refine (yields_residues _ fun row _ => row).bind fun a a_shape => ?_
  refine (yields_residues _ fun row _ => row).bind fun b b_shape => ?_
  refine (Vec.yields_tabulate fun i inside => yields_residue (by omega)).bind fun x x_size => ?_
  exact .pure ⟨a_shape, b_shape, x_size, rfl, rfl⟩

theorem yields_kernel [Zero α] [Add α] [Mul α] (alpha beta : α) (shaped : Shaped n arrays) :
    Yields (kernel alpha beta arrays) (Shaped n) := by
  obtain ⟨a, b, x, tmp, y⟩ := arrays
  have a_shape : a.HasShape n n := shaped.a
  have b_shape : b.HasShape n n := shaped.b
  have x_size : x.HasSize n := shaped.x
  have sizes : tmp.HasSize n ∧ y.HasSize n := ⟨shaped.tmp, shaped.y⟩
  let sized (vectors : Vec α × Vec α) : Prop := vectors.1.HasSize n ∧ vectors.2.HasSize n
  simp only [kernel, a_shape.rows]
  refine Yields.bind (yields_sweep sized sizes ?_) fun _ sizes =>
    .pure ⟨a_shape, b_shape, x_size, sizes.1, sizes.2⟩
  rintro i ⟨tmp, y⟩ _ row ⟨tmp_size, y_size⟩
  refine (tmp_size.write row 0).bind fun tmp tmp_size => ?_
  refine (y_size.write row 0).bind fun y y_size => ?_
  refine Yields.bind (yields_sweep sized ⟨tmp_size, y_size⟩ ?_) ?_
  · rintro j ⟨tmp, y⟩ _ col ⟨tmp_size, y_size⟩
    refine (a_shape.read row col).bind fun _ _ => (x_size.read col).bind fun _ _ => ?_
    refine (tmp_size.modify row _).bind fun tmp tmp_size => ?_
    refine (b_shape.read row col).bind fun _ _ => (x_size.read col).bind fun _ _ => ?_
    exact (y_size.modify row _).bind fun y y_size => .pure ⟨tmp_size, y_size⟩
  · rintro ⟨tmp, y⟩ ⟨tmp_size, y_size⟩
    refine (tmp_size.read row).bind fun _ _ => ?_
    exact (y_size.modify row _).bind fun y y_size => .pure ⟨tmp_size, y_size⟩

theorem safe [Zero α] [NatCast α] [Add α] [Mul α] [Div α] (alpha beta : α) (n : Nat) :
    Safe False (init n) (kernel alpha beta) (Shaped n) :=
  safe_of_yields (yields_init n) fun _ => yields_kernel alpha beta

end Gesummv

namespace Symm

variable {dims : Dims} {arrays : Arrays α}

/-- The matrices have the extents of a product with a square matrix on the left. -/
structure Shaped (dims : Dims) (arrays : Arrays α) : Prop where
  c : arrays.c.HasShape dims.m dims.n
  a : arrays.a.HasShape dims.m dims.m
  b : arrays.b.HasShape dims.m dims.n

theorem yields_init [NatCast α] [Neg α] [Div α] (dims : Dims) (subtraction : Subtraction) :
    Yields (init dims subtraction : Checked (Arrays α)) (Shaped dims) := by
  refine (yields_residues _ fun _ _ => by decide).bind fun c c_shape => ?_
  refine Yields.bind (Mat.yields_tabulate ?_) fun b b_shape => ?_
  · intro i j _ col
    -- a column is inside the extent, which is part of the minuend
    have ordered : j ≤ dims.n + i := by omega
    exact (yields_difference subtraction ordered).bind fun _ _ => yields_residue (by omega)
  refine Yields.bind (Mat.yields_tabulate ?_) fun a a_shape => .pure ⟨c_shape, a_shape, b_shape⟩
  intro i j _ _
  split
  · exact yields_residue (by omega)
  · exact .pure trivial

theorem yields_kernel [Zero α] [Add α] [Mul α] (alpha beta : α) (shaped : Shaped dims arrays) :
    Yields (kernel alpha beta arrays) (Shaped dims) := by
  obtain ⟨c, a, b⟩ := arrays
  have c_shape : c.HasShape dims.m dims.n := shaped.c
  have a_shape : a.HasShape dims.m dims.m := shaped.a
  have b_shape : b.HasShape dims.m dims.n := shaped.b
  simp only [kernel, c_shape.rows, c_shape.cols]
  refine Yields.bind (yields_sweep (Mat.HasShape dims.m dims.n) c_shape ?_) fun c c_shape =>
    .pure ⟨c_shape, a_shape, b_shape⟩
  intro i c _ row c_shape
  refine yields_sweep _ c_shape fun j c _ col c_shape => ?_
  refine Yields.bind (yields_sweep (fun state : Mat α × α => state.1.HasShape dims.m dims.n)
    c_shape ?_) ?_
  · rintro k ⟨c, sum⟩ _ earlier c_shape
    have above : k < dims.m := Nat.lt_trans earlier row
    refine (b_shape.read row col).bind fun _ _ => (a_shape.read row above).bind fun _ _ => ?_
    refine (c_shape.modify above col _).bind fun c c_shape => ?_
    refine (b_shape.read above col).bind fun _ _ => (a_shape.read row above).bind fun _ _ => ?_
    exact .pure c_shape
  · rintro ⟨c, sum⟩ c_shape
    refine (b_shape.read row col).bind fun _ _ => (a_shape.read row row).bind fun _ _ => ?_
    exact c_shape.modify row col _

theorem safe [Zero α] [NatCast α] [Neg α] [Add α] [Mul α] [Div α] (alpha beta : α) (dims : Dims)
    (subtraction : Subtraction) :
    Safe False (init dims subtraction) (kernel alpha beta) (Shaped dims) :=
  safe_of_yields (yields_init dims subtraction) fun _ => yields_kernel alpha beta

end Symm

namespace Syr2k

variable {dims : Dims} {arrays : Arrays α}

/-- The factors have the same extents, and the updated matrix their number of rows twice. -/
structure Shaped (dims : Dims) (arrays : Arrays α) : Prop where
  c : arrays.c.HasShape dims.n dims.n
  a : arrays.a.HasShape dims.n dims.m
  b : arrays.b.HasShape dims.n dims.m

theorem yields_init [NatCast α] [Div α] (dims : Dims) :
    Yields (init dims : Checked (Arrays α)) (Shaped dims) := by
  refine (yields_residues _ fun row _ => row).bind fun a a_shape => ?_
  refine (yields_residues _ fun _ col => col).bind fun b b_shape => ?_
  refine (yields_residues _ fun row _ => row).bind fun c c_shape => ?_
  exact .pure ⟨c_shape, a_shape, b_shape⟩

theorem yields_kernel [Add α] [Mul α] (alpha beta : α) (shaped : Shaped dims arrays) :
    Yields (kernel alpha beta arrays) (Shaped dims) := by
  obtain ⟨c, a, b⟩ := arrays
  have c_shape : c.HasShape dims.n dims.n := shaped.c
  have a_shape : a.HasShape dims.n dims.m := shaped.a
  have b_shape : b.HasShape dims.n dims.m := shaped.b
  simp only [kernel, a_shape.rows, a_shape.cols]
  refine Yields.bind (yields_sweep (Mat.HasShape dims.n dims.n) c_shape ?_) fun c c_shape =>
    .pure ⟨c_shape, a_shape, b_shape⟩
  intro i c _ row c_shape
  -- the triangle ends with the diagonal, so its columns are inside wherever its rows are
  have inside {j : Nat} (triangle : j < i + 1) : j < dims.n := by omega
  refine Yields.bind (yields_sweep (Mat.HasShape dims.n dims.n) c_shape ?_) fun c c_shape => ?_
  · intro j c _ triangle c_shape
    exact c_shape.modify row (inside triangle) _
  · refine yields_sweep _ c_shape fun k c _ inner c_shape => ?_
    refine yields_sweep _ c_shape fun j c _ triangle c_shape => ?_
    have col : j < dims.n := inside triangle
    refine (a_shape.read col inner).bind fun _ _ => (b_shape.read row inner).bind fun _ _ => ?_
    refine (b_shape.read col inner).bind fun _ _ => (a_shape.read row inner).bind fun _ _ => ?_
    exact c_shape.modify row col _

theorem safe [NatCast α] [Add α] [Mul α] [Div α] (alpha beta : α) (dims : Dims) :
    Safe False (init dims) (kernel alpha beta) (Shaped dims) :=
  safe_of_yields (yields_init dims) fun _ => yields_kernel alpha beta

end Syr2k

namespace Syrk

variable {dims : Dims} {arrays : Arrays α}

/-- The updated matrix has the number of rows of the factor twice. -/
structure Shaped (dims : Dims) (arrays : Arrays α) : Prop where
  c : arrays.c.HasShape dims.n dims.n
  a : arrays.a.HasShape dims.n dims.m

/-- The updated matrix is to be generated by remainders, and the other matrix has no columns. -/
def Faulty (dims : Dims) : Prop :=
  dims.m = 0 ∧ 0 < dims.n

theorem init_of_faulty [NatCast α] [Div α] (faulty : Faulty dims) :
    (init dims : Checked (Arrays α)) = .error .remainderByZero := by
  obtain ⟨none, some⟩ := faulty
  refine (yields_residues _ fun row _ => row).bind_error fun a _ => ?_
  exact bind_of_error (residues_eq_error _ some some none)

theorem yields_init [NatCast α] [Div α] (fine : ¬Faulty dims) :
    Yields (init dims : Checked (Arrays α)) (Shaped dims) := by
  have some_col : 0 < dims.n → 0 < dims.m := by
    simp only [Faulty] at fine
    omega
  refine (yields_residues _ fun row _ => row).bind fun a a_shape => ?_
  refine (yields_residues _ fun row _ => some_col row).bind fun c c_shape => ?_
  exact .pure ⟨c_shape, a_shape⟩

theorem yields_kernel [Add α] [Mul α] (alpha beta : α) (shaped : Shaped dims arrays) :
    Yields (kernel alpha beta arrays) (Shaped dims) := by
  obtain ⟨c, a⟩ := arrays
  have c_shape : c.HasShape dims.n dims.n := shaped.c
  have a_shape : a.HasShape dims.n dims.m := shaped.a
  simp only [kernel, a_shape.rows, a_shape.cols]
  refine Yields.bind (yields_sweep (Mat.HasShape dims.n dims.n) c_shape ?_) fun c c_shape =>
    .pure ⟨c_shape, a_shape⟩
  intro i c _ row c_shape
  have inside {j : Nat} (triangle : j < i + 1) : j < dims.n := by omega
  refine Yields.bind (yields_sweep (Mat.HasShape dims.n dims.n) c_shape ?_) fun c c_shape => ?_
  · intro j c _ triangle c_shape
    exact c_shape.modify row (inside triangle) _
  · refine yields_sweep _ c_shape fun k c _ inner c_shape => ?_
    refine yields_sweep _ c_shape fun j c _ triangle c_shape => ?_
    have col : j < dims.n := inside triangle
    refine (a_shape.read row inner).bind fun _ _ => (a_shape.read col inner).bind fun _ _ => ?_
    exact c_shape.modify row col _

theorem safe [NatCast α] [Add α] [Mul α] [Div α] (alpha beta : α) (dims : Dims) :
    Safe (Faulty dims) (init dims) (kernel alpha beta) (Shaped dims) :=
  safe_of_call init_of_faulty yields_init fun _ => yields_kernel alpha beta

end Syrk

namespace Trmm

variable {dims : Dims} {arrays : Arrays α}

/-- The factor is square and has as many rows as the other matrix. -/
structure Shaped (dims : Dims) (arrays : Arrays α) : Prop where
  a : arrays.a.HasShape dims.m dims.m
  b : arrays.b.HasShape dims.m dims.n

theorem yields_init [Zero α] [One α] [NatCast α] [Div α] (dims : Dims)
    (subtraction : Subtraction) :
    Yields (init dims subtraction : Checked (Arrays α)) (Shaped dims) := by
  refine Yields.bind (Mat.yields_tabulate ?_) fun a a_shape => ?_
  · intro i j row _
    split
    · exact yields_residue (by omega)
    · split <;> exact .pure trivial
  refine Yields.bind (Mat.yields_tabulate ?_) fun b b_shape => .pure ⟨a_shape, b_shape⟩
  intro i j _ col
  have ordered : j ≤ dims.n + i := by omega
  exact (yields_difference subtraction ordered).bind fun _ _ => yields_residue (by omega)

theorem yields_kernel [Add α] [Mul α] (alpha : α) (shaped : Shaped dims arrays) :
    Yields (kernel alpha arrays) (Shaped dims) := by
  obtain ⟨a, b⟩ := arrays
  have a_shape : a.HasShape dims.m dims.m := shaped.a
  have b_shape : b.HasShape dims.m dims.n := shaped.b
  simp only [kernel, b_shape.rows, b_shape.cols]
  refine Yields.bind (yields_sweep (Mat.HasShape dims.m dims.n) b_shape ?_) fun b b_shape =>
    .pure ⟨a_shape, b_shape⟩
  intro i b _ row b_shape
  refine yields_sweep _ b_shape fun j b _ col b_shape => ?_
  refine Yields.bind (yields_sweep (Mat.HasShape dims.m dims.n) b_shape ?_) fun b b_shape =>
    b_shape.modify row col _
  intro k b _ below b_shape
  refine (a_shape.read below row).bind fun _ _ => (b_shape.read below col).bind fun _ _ => ?_
  exact b_shape.modify row col _

theorem safe [Zero α] [One α] [NatCast α] [Add α] [Mul α] [Div α] (alpha : α) (dims : Dims)
    (subtraction : Subtraction) :
    Safe False (init dims subtraction) (kernel alpha) (Shaped dims) :=
  safe_of_yields (yields_init dims subtraction) fun _ => yields_kernel alpha

end Trmm
end Kernel
end DenseBench
