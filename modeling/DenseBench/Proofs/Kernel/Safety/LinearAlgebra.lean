import DenseBench.Kernel.Atax
import DenseBench.Kernel.Bicg
import DenseBench.Kernel.Doitgen
import DenseBench.Kernel.Mvt
import DenseBench.Kernel.ThreeProducts
import DenseBench.Kernel.TwoProducts
import DenseBench.Proofs.Kernel.Safety.Rules

/-!
# Safety of chained products and of products with vectors

The chained matrix products take some of their remainders by an extent of another matrix.  Where
that extent is zero and there are elements all the same, their generators fail.
-/

namespace DenseBench
namespace Kernel

variable {α : Type}

namespace TwoProducts

variable {dims : Dims} {arrays : Arrays α}

/-- The matrices have the extents of a chain of products. -/
structure Shaped (dims : Dims) (arrays : Arrays α) : Prop where
  a : arrays.a.HasShape dims.ni dims.nk
  b : arrays.b.HasShape dims.nk dims.nj
  c : arrays.c.HasShape dims.nj dims.nl
  d : arrays.d.HasShape dims.ni dims.nl
  tmp : arrays.tmp.HasShape dims.ni dims.nj

/-- The output has elements, which are remainders by the inner extent of the first product. -/
def Faulty (dims : Dims) : Prop :=
  dims.nk = 0 ∧ 0 < dims.ni ∧ 0 < dims.nl

theorem init_of_faulty [Zero α] [NatCast α] [Div α] (faulty : Faulty dims) :
    (init dims : Checked (Arrays α)) = .error .remainderByZero := by
  obtain ⟨none, some_row, some_col⟩ := faulty
  refine (yields_residues _ fun row _ => row).bind_error fun a _ => ?_
  refine (yields_residues _ fun _ col => col).bind_error fun b _ => ?_
  refine (yields_residues _ fun _ col => col).bind_error fun c _ => ?_
  exact bind_of_error (residues_eq_error _ some_row some_col none)

theorem yields_init [Zero α] [NatCast α] [Div α] (fine : ¬Faulty dims) :
    Yields (init dims : Checked (Arrays α)) (Shaped dims) := by
  have inner : 0 < dims.ni → 0 < dims.nl → 0 < dims.nk := by
    simp only [Faulty] at fine
    omega
  refine (yields_residues _ fun row _ => row).bind fun a a_shape => ?_
  refine (yields_residues _ fun _ col => col).bind fun b b_shape => ?_
  refine (yields_residues _ fun _ col => col).bind fun c c_shape => ?_
  refine (yields_residues _ inner).bind fun d d_shape => ?_
  exact .pure ⟨a_shape, b_shape, c_shape, d_shape, Mat.hasShape_zeros⟩

theorem yields_kernel [Zero α] [Add α] [Mul α] (alpha beta : α) (shaped : Shaped dims arrays) :
    Yields (kernel alpha beta arrays) (Shaped dims) := by
  obtain ⟨a, b, c, d, tmp⟩ := arrays
  have a_shape : a.HasShape dims.ni dims.nk := shaped.a
  have b_shape : b.HasShape dims.nk dims.nj := shaped.b
  have c_shape : c.HasShape dims.nj dims.nl := shaped.c
  have d_shape : d.HasShape dims.ni dims.nl := shaped.d
  have tmp_shape : tmp.HasShape dims.ni dims.nj := shaped.tmp
  simp only [kernel, a_shape.rows, a_shape.cols, b_shape.cols, c_shape.cols]
  refine Yields.bind (yields_sweep (Mat.HasShape dims.ni dims.nj) tmp_shape ?_)
    fun tmp tmp_shape => ?_
  · intro i tmp _ row tmp_shape
    refine yields_sweep _ tmp_shape fun j tmp _ col tmp_shape => ?_
    refine (tmp_shape.write row col 0).bind fun tmp tmp_shape => ?_
    refine yields_sweep _ tmp_shape fun k tmp _ inner tmp_shape => ?_
    refine (a_shape.read row inner).bind fun _ _ => (b_shape.read inner col).bind fun _ _ => ?_
    exact tmp_shape.modify row col _
  refine Yields.bind (yields_sweep (Mat.HasShape dims.ni dims.nl) d_shape ?_) fun d d_shape =>
    .pure ⟨a_shape, b_shape, c_shape, d_shape, tmp_shape⟩
  intro i d _ row d_shape
  refine yields_sweep _ d_shape fun j d _ col d_shape => ?_
  refine (d_shape.modify row col _).bind fun d d_shape => ?_
  refine yields_sweep _ d_shape fun k d _ inner d_shape => ?_
  refine (tmp_shape.read row inner).bind fun _ _ => (c_shape.read inner col).bind fun _ _ => ?_
  exact d_shape.modify row col _

theorem safe [Zero α] [NatCast α] [Add α] [Mul α] [Div α] (alpha beta : α) (dims : Dims) :
    Safe (Faulty dims) (init dims) (kernel alpha beta) (Shaped dims) :=
  safe_of_call init_of_faulty yields_init fun _ => yields_kernel alpha beta

end TwoProducts

namespace ThreeProducts

variable {dims : Dims} {arrays : Arrays α}

/-- The matrices have the extents of two products and of the product of these. -/
structure Shaped (dims : Dims) (arrays : Arrays α) : Prop where
  a : arrays.a.HasShape dims.ni dims.nk
  b : arrays.b.HasShape dims.nk dims.nj
  c : arrays.c.HasShape dims.nj dims.nm
  d : arrays.d.HasShape dims.nm dims.nl
  e : arrays.e.HasShape dims.ni dims.nj
  f : arrays.f.HasShape dims.nj dims.nl
  g : arrays.g.HasShape dims.ni dims.nl

/-- One of the factors of the second product has elements, which are remainders by zero. -/
def Faulty (dims : Dims) : Prop :=
  (dims.nl = 0 ∧ 0 < dims.nj ∧ 0 < dims.nm) ∨ (dims.nk = 0 ∧ 0 < dims.nm ∧ 0 < dims.nl)

theorem init_of_faulty [Zero α] [NatCast α] [Div α] (faulty : Faulty dims) :
    (init dims : Checked (Arrays α)) = .error .remainderByZero := by
  refine (yields_residues _ fun row _ => row).bind_error fun a _ => ?_
  refine (yields_residues _ fun _ col => col).bind_error fun b _ => ?_
  rcases faulty with ⟨none, some_row, some_col⟩ | ⟨none, some_row, some_col⟩
  · exact bind_of_error (residues_eq_error _ some_row some_col none)
  · -- the left factor is made, since the extent that divides there has elements here
    refine (yields_residues _ fun _ _ => some_col).bind_error fun c _ => ?_
    exact bind_of_error (residues_eq_error _ some_row some_col none)

theorem yields_init [Zero α] [NatCast α] [Div α] (fine : ¬Faulty dims) :
    Yields (init dims : Checked (Arrays α)) (Shaped dims) := by
  have left : 0 < dims.nj → 0 < dims.nm → 0 < dims.nl := by
    simp only [Faulty] at fine
    omega
  have right : 0 < dims.nm → 0 < dims.nl → 0 < dims.nk := by
    simp only [Faulty] at fine
    omega
  refine (yields_residues _ fun row _ => row).bind fun a a_shape => ?_
  refine (yields_residues _ fun _ col => col).bind fun b b_shape => ?_
  refine (yields_residues _ left).bind fun c c_shape => ?_
  refine (yields_residues _ right).bind fun d d_shape => ?_
  exact .pure ⟨a_shape, b_shape, c_shape, d_shape, Mat.hasShape_zeros, Mat.hasShape_zeros,
    Mat.hasShape_zeros⟩

theorem yields_multiplyInto [Zero α] [Add α] [Mul α] {rows inner cols : Nat} {out lhs rhs : Mat α}
    (out_shape : out.HasShape rows cols) (lhs_shape : lhs.HasShape rows inner)
    (rhs_shape : rhs.HasShape inner cols) :
    Yields (multiplyInto out lhs rhs) (Mat.HasShape rows cols) := by
  simp only [multiplyInto, lhs_shape.rows, lhs_shape.cols, rhs_shape.cols]
  refine yields_sweep _ out_shape fun i out _ row out_shape => ?_
  refine yields_sweep _ out_shape fun j out _ col out_shape => ?_
  refine (out_shape.write row col 0).bind fun out out_shape => ?_
  refine yields_sweep _ out_shape fun k out _ within out_shape => ?_
  refine (lhs_shape.read row within).bind fun _ _ => (rhs_shape.read within col).bind fun _ _ => ?_
  exact out_shape.modify row col _

theorem yields_kernel [Zero α] [Add α] [Mul α] (shaped : Shaped dims arrays) :
    Yields (kernel arrays) (Shaped dims) := by
  obtain ⟨a, b, c, d, e, f, g⟩ := arrays
  refine (yields_multiplyInto shaped.e shaped.a shaped.b).bind fun e e_shape => ?_
  refine (yields_multiplyInto shaped.f shaped.c shaped.d).bind fun f f_shape => ?_
  refine (yields_multiplyInto shaped.g e_shape f_shape).bind fun g g_shape => ?_
  exact .pure ⟨shaped.a, shaped.b, shaped.c, shaped.d, e_shape, f_shape, g_shape⟩

theorem safe [Zero α] [NatCast α] [Add α] [Mul α] [Div α] (dims : Dims) :
    Safe (Faulty dims) (init dims : Checked (Arrays α)) kernel (Shaped dims) :=
  safe_of_call init_of_faulty yields_init fun _ => yields_kernel

end ThreeProducts

namespace Atax

variable {dims : Dims} {arrays : Arrays α}

/-- One vector meets the rows of the matrix, the others its columns. -/
structure Shaped (dims : Dims) (arrays : Arrays α) : Prop where
  a : arrays.a.HasShape dims.m dims.n
  x : arrays.x.HasSize dims.n
  y : arrays.y.HasSize dims.n
  tmp : arrays.tmp.HasSize dims.m

theorem yields_init [Zero α] [One α] [NatCast α] [Add α] [Div α] (dims : Dims) :
    Yields (init dims : Checked (Arrays α)) (Shaped dims) :=
  (yields_residues _ fun _ col => col).bind fun _ a_shape =>
    .pure ⟨a_shape, Vec.hasSize_ofFn _, Vec.hasSize_zeros, Vec.hasSize_zeros⟩

theorem yields_kernel [Zero α] [Add α] [Mul α] (shaped : Shaped dims arrays) :
    Yields (kernel arrays) (Shaped dims) := by
  obtain ⟨a, x, y, tmp⟩ := arrays
  have a_shape : a.HasShape dims.m dims.n := shaped.a
  have x_size : x.HasSize dims.n := shaped.x
  have sizes : (y.fill 0).HasSize dims.n ∧ tmp.HasSize dims.m := ⟨shaped.y.fill 0, shaped.tmp⟩
  simp only [kernel, a_shape.rows, a_shape.cols]
  refine Yields.bind (yields_sweep (fun vectors : Vec α × Vec α =>
    vectors.1.HasSize dims.n ∧ vectors.2.HasSize dims.m) sizes ?_) fun _ sizes =>
      .pure ⟨a_shape, x_size, sizes.1, sizes.2⟩
  rintro i ⟨y, tmp⟩ _ row ⟨y_size, tmp_size⟩
  refine (tmp_size.write row 0).bind fun tmp tmp_size => ?_
  refine Yields.bind (yields_sweep (Vec.HasSize dims.m) tmp_size ?_) fun tmp tmp_size => ?_
  · intro j tmp _ col tmp_size
    refine (a_shape.read row col).bind fun _ _ => (x_size.read col).bind fun _ _ => ?_
    exact tmp_size.modify row _
  refine Yields.bind (yields_sweep (Vec.HasSize dims.n) y_size ?_) fun y y_size =>
    .pure ⟨y_size, tmp_size⟩
  intro j y _ col y_size
  refine (a_shape.read row col).bind fun _ _ => (tmp_size.read row).bind fun _ _ => ?_
  exact y_size.modify col _

theorem safe [Zero α] [One α] [NatCast α] [Add α] [Mul α] [Div α] (dims : Dims) :
    Safe False (init dims : Checked (Arrays α)) kernel (Shaped dims) :=
  safe_of_yields (yields_init dims) fun _ => yields_kernel

end Atax

namespace Bicg

variable {dims : Dims} {arrays : Arrays α}

/-- Two vectors meet the rows of the matrix, and two its columns. -/
structure Shaped (dims : Dims) (arrays : Arrays α) : Prop where
  a : arrays.a.HasShape dims.n dims.m
  r : arrays.r.HasSize dims.n
  p : arrays.p.HasSize dims.m
  s : arrays.s.HasSize dims.m
  q : arrays.q.HasSize dims.n

theorem yields_init [Zero α] [NatCast α] [Div α] (dims : Dims) :
    Yields (init dims : Checked (Arrays α)) (Shaped dims) := by
  refine (Vec.yields_tabulate fun i inside => yields_residue (by omega)).bind fun p p_size => ?_
  refine (Vec.yields_tabulate fun i inside => yields_residue (by omega)).bind fun r r_size => ?_
  refine (yields_residues _ fun row _ => row).bind fun a a_shape => ?_
  exact .pure ⟨a_shape, r_size, p_size, Vec.hasSize_zeros, Vec.hasSize_zeros⟩

theorem yields_kernel [Zero α] [Add α] [Mul α] (shaped : Shaped dims arrays) :
    Yields (kernel arrays) (Shaped dims) := by
  obtain ⟨a, r, p, s, q⟩ := arrays
  have a_shape : a.HasShape dims.n dims.m := shaped.a
  have r_size : r.HasSize dims.n := shaped.r
  have p_size : p.HasSize dims.m := shaped.p
  let sized (vectors : Vec α × Vec α) : Prop :=
    vectors.1.HasSize dims.m ∧ vectors.2.HasSize dims.n
  have sizes : sized (s.fill 0, q) := ⟨shaped.s.fill 0, shaped.q⟩
  simp only [kernel, a_shape.rows, a_shape.cols]
  refine Yields.bind (yields_sweep sized sizes ?_) fun _ sizes =>
    .pure ⟨a_shape, r_size, p_size, sizes.1, sizes.2⟩
  rintro i ⟨s, q⟩ _ row ⟨s_size, q_size⟩
  refine (q_size.write row 0).bind fun q q_size => ?_
  refine yields_sweep sized ⟨s_size, q_size⟩ ?_
  rintro j ⟨s, q⟩ _ col ⟨s_size, q_size⟩
  refine (r_size.read row).bind fun _ _ => (a_shape.read row col).bind fun _ _ => ?_
  refine (s_size.modify col _).bind fun s s_size => ?_
  refine (a_shape.read row col).bind fun _ _ => (p_size.read col).bind fun _ _ => ?_
  exact (q_size.modify row _).bind fun q q_size => .pure ⟨s_size, q_size⟩

theorem safe [Zero α] [NatCast α] [Add α] [Mul α] [Div α] (dims : Dims) :
    Safe False (init dims : Checked (Arrays α)) kernel (Shaped dims) :=
  safe_of_yields (yields_init dims) fun _ => yields_kernel

end Bicg

namespace Doitgen

variable {dims : Dims} {arrays : Arrays α}

/-- The matrix is square, of the length of a fibre. -/
structure Shaped (dims : Dims) (arrays : Arrays α) : Prop where
  a : arrays.a.HasShape dims.nr dims.nq dims.np
  c4 : arrays.c4.HasShape dims.np dims.np
  sum : arrays.sum.HasSize dims.np

theorem yields_init [Zero α] [NatCast α] [Div α] (dims : Dims) :
    Yields (init dims : Checked (Arrays α)) (Shaped dims) := by
  refine (Cube.yields_tabulate fun _ _ k _ _ col => yields_residue (by omega)).bind
    fun a a_shape => ?_
  refine (yields_residues _ fun row _ => row).bind fun c4 c4_shape => ?_
  exact .pure ⟨a_shape, c4_shape, Vec.hasSize_zeros⟩

theorem yields_kernel [Zero α] [Add α] [Mul α] (shaped : Shaped dims arrays) :
    Yields (kernel arrays) (Shaped dims) := by
  obtain ⟨a, c4, sum⟩ := arrays
  have a_shape : a.HasShape dims.nr dims.nq dims.np := shaped.a
  have c4_shape : c4.HasShape dims.np dims.np := shaped.c4
  let fitting (state : Cube α × Vec α) : Prop :=
    state.1.HasShape dims.nr dims.nq dims.np ∧ state.2.HasSize dims.np
  have fits : fitting (a, sum) := ⟨a_shape, shaped.sum⟩
  simp only [kernel, a_shape.planes, a_shape.rows, a_shape.cols]
  refine Yields.bind (yields_sweep fitting fits ?_) fun _ fits =>
    .pure ⟨fits.1, c4_shape, fits.2⟩
  rintro r ⟨a, sum⟩ _ plane fits
  refine yields_sweep fitting fits ?_
  rintro q ⟨a, sum⟩ _ row ⟨a_shape, sum_size⟩
  refine Yields.bind (yields_sweep (Vec.HasSize dims.np) sum_size ?_) fun sum sum_size => ?_
  · intro p sum _ col sum_size
    refine (sum_size.write col 0).bind fun sum sum_size => ?_
    refine yields_sweep _ sum_size fun s sum _ inner sum_size => ?_
    refine (a_shape.read plane row inner).bind fun _ _ => ?_
    refine (c4_shape.read inner col).bind fun _ _ => ?_
    exact sum_size.modify col _
  refine Yields.bind (yields_sweep (Cube.HasShape dims.nr dims.nq dims.np) a_shape ?_)
    fun a a_shape => .pure ⟨a_shape, sum_size⟩
  intro p a _ col a_shape
  exact (sum_size.read col).bind fun _ _ => a_shape.write plane row col _

theorem safe [Zero α] [NatCast α] [Add α] [Mul α] [Div α] (dims : Dims) :
    Safe False (init dims : Checked (Arrays α)) kernel (Shaped dims) :=
  safe_of_yields (yields_init dims) fun _ => yields_kernel

end Doitgen

namespace Mvt

variable {n : Nat} {arrays : Arrays α}

/-- The matrix and all vectors have the same order. -/
structure Shaped (n : Nat) (arrays : Arrays α) : Prop where
  a : arrays.a.HasShape n n
  x1 : arrays.x1.HasSize n
  x2 : arrays.x2.HasSize n
  y1 : arrays.y1.HasSize n
  y2 : arrays.y2.HasSize n

theorem yields_init [NatCast α] [Div α] (n : Nat) :
    Yields (init n : Checked (Arrays α)) (Shaped n) := by
  have vector (offset : Nat) :
      Yields (Vec.tabulate n fun i => residue (i + offset) n n : Checked (Vec α))
        (Vec.HasSize n) :=
    Vec.yields_tabulate fun i inside => yields_residue (by omega)
  refine (vector 0).bind fun x1 x1_size => (vector 1).bind fun x2 x2_size => ?_
  refine (vector 3).bind fun y1 y1_size => (vector 4).bind fun y2 y2_size => ?_
  refine (yields_residues _ fun row _ => row).bind fun a a_shape => ?_
  exact .pure ⟨a_shape, x1_size, x2_size, y1_size, y2_size⟩

theorem yields_kernel [Add α] [Mul α] (shaped : Shaped n arrays) :
    Yields (kernel arrays) (Shaped n) := by
  obtain ⟨a, x1, x2, y1, y2⟩ := arrays
  have a_shape : a.HasShape n n := shaped.a
  have x1_size : x1.HasSize n := shaped.x1
  have x2_size : x2.HasSize n := shaped.x2
  simp only [kernel, a_shape.rows]
  refine Yields.bind (yields_sweep (Vec.HasSize n) x1_size ?_) fun x1 x1_size => ?_
  · intro i x1 _ row x1_size
    refine yields_sweep _ x1_size fun j x1 _ col x1_size => ?_
    refine (a_shape.read row col).bind fun _ _ => (shaped.y1.read col).bind fun _ _ => ?_
    exact x1_size.modify row _
  refine Yields.bind (yields_sweep (Vec.HasSize n) x2_size ?_) fun x2 x2_size =>
    .pure ⟨a_shape, x1_size, x2_size, shaped.y1, shaped.y2⟩
  intro i x2 _ row x2_size
  refine yields_sweep _ x2_size fun j x2 _ col x2_size => ?_
  refine (a_shape.read col row).bind fun _ _ => (shaped.y2.read col).bind fun _ _ => ?_
  exact x2_size.modify row _

theorem safe [NatCast α] [Add α] [Mul α] [Div α] (n : Nat) :
    Safe False (init n : Checked (Arrays α)) kernel (Shaped n) :=
  safe_of_yields (yields_init n) fun _ => yields_kernel

end Mvt
end Kernel
end DenseBench
