import DenseBench.Kernel.Cholesky
import DenseBench.Kernel.Trisolv
import DenseBench.Proofs.Kernel.Safety.Rules

/-!
# Safety of factorisation and substitution

Both kernels stay on the lower triangle: the indices of an inner sweep are below that of the outer
one.
-/

namespace DenseBench
namespace Kernel

variable {α : Type}

namespace Cholesky

variable {n : Nat} {arrays : Arrays α}

/-- The matrix is square. -/
structure Shaped (n : Nat) (arrays : Arrays α) : Prop where
  a : arrays.a.HasShape n n

theorem yields_gram [Zero α] [Add α] [Mul α] {lower : Mat α} (shape : lower.HasShape n n) :
    Yields (gram lower) (Mat.HasShape n n) := by
  simp only [gram, shape.rows]
  refine yields_sweep _ Mat.hasShape_zeros fun t a _ inner a_shape => ?_
  refine yields_sweep _ a_shape fun r a _ row a_shape => ?_
  refine yields_sweep _ a_shape fun s a _ col a_shape => ?_
  refine (shape.read row inner).bind fun _ _ => (shape.read col inner).bind fun _ _ => ?_
  exact a_shape.modify row col _

theorem yields_init [Zero α] [One α] [NatCast α] [Add α] [Mul α] [Sub α] [Div α] (n : Nat) :
    Yields (init n : Checked (Arrays α)) (Shaped n) :=
  (yields_gram (Mat.hasShape_ofFn _)).bind fun _ a_shape => .pure ⟨a_shape⟩

theorem yields_kernel [Mul α] [Sub α] [Div α] (sqrt : α → α) (shaped : Shaped n arrays) :
    Yields (kernel sqrt arrays) (Shaped n) := by
  obtain ⟨a⟩ := arrays
  have a_shape : a.HasShape n n := shaped.a
  simp only [kernel, a_shape.rows]
  refine Yields.bind (yields_sweep (Mat.HasShape n n) a_shape ?_) fun a a_shape => .pure ⟨a_shape⟩
  intro i a _ row a_shape
  refine Yields.bind (yields_sweep (Mat.HasShape n n) a_shape ?_) fun a a_shape => ?_
  · intro j a _ before a_shape
    have col : j < n := Nat.lt_trans before row
    refine Yields.bind (yields_sweep (Mat.HasShape n n) a_shape ?_) fun a a_shape => ?_
    · intro k a _ earlier a_shape
      have inner : k < n := Nat.lt_trans earlier col
      refine (a_shape.read row inner).bind fun _ _ => (a_shape.read col inner).bind fun _ _ => ?_
      exact a_shape.modify row col _
    · exact (a_shape.read col col).bind fun _ _ => a_shape.modify row col _
  refine Yields.bind (yields_sweep (Mat.HasShape n n) a_shape ?_) fun a a_shape =>
    a_shape.modify row row _
  intro k a _ before a_shape
  have inner : k < n := Nat.lt_trans before row
  refine (a_shape.read row inner).bind fun _ _ => (a_shape.read row inner).bind fun _ _ => ?_
  exact a_shape.modify row row _

theorem safe [Zero α] [One α] [NatCast α] [Add α] [Mul α] [Sub α] [Div α] (sqrt : α → α)
    (n : Nat) : Safe False (init n) (kernel sqrt) (Shaped n) :=
  safe_of_yields (yields_init n) fun _ => yields_kernel sqrt

end Cholesky

namespace Trisolv

variable {n : Nat} {arrays : Arrays α}

/-- The matrix and both vectors have the same order. -/
structure Shaped (n : Nat) (arrays : Arrays α) : Prop where
  l : arrays.l.HasShape n n
  x : arrays.x.HasSize n
  b : arrays.b.HasSize n

theorem yields_init [Zero α] [NatCast α] [Neg α] [Mul α] [Div α] (n : Nat)
    (subtraction : Subtraction) :
    Yields (init n subtraction : Checked (Arrays α)) (Shaped n) := by
  refine Yields.bind (Mat.yields_tabulate ?_) fun l l_shape =>
    .pure ⟨l_shape, Vec.hasSize_replicate _, Vec.hasSize_ofFn _⟩
  intro i j _ col
  split
  · have ordered : j ≤ i + n := by omega
    exact (yields_difference subtraction ordered).bind fun _ _ => .pure trivial
  · exact .pure trivial

theorem yields_kernel [Mul α] [Sub α] [Div α] (shaped : Shaped n arrays) :
    Yields (kernel arrays) (Shaped n) := by
  obtain ⟨l, x, b⟩ := arrays
  have l_shape : l.HasShape n n := shaped.l
  have x_size : x.HasSize n := shaped.x
  have b_size : b.HasSize n := shaped.b
  simp only [kernel, l_shape.rows]
  refine Yields.bind (yields_sweep (Vec.HasSize n) x_size ?_) fun x x_size =>
    .pure ⟨l_shape, x_size, b_size⟩
  intro i x _ row x_size
  refine (b_size.read row).bind fun _ _ => (x_size.write row _).bind fun x x_size => ?_
  refine Yields.bind (yields_sweep (Vec.HasSize n) x_size ?_) fun x x_size => ?_
  · intro j x _ before x_size
    have col : j < n := Nat.lt_trans before row
    refine (l_shape.read row col).bind fun _ _ => (x_size.read col).bind fun _ _ => ?_
    exact x_size.modify row _
  · exact (l_shape.read row row).bind fun _ _ => x_size.modify row _

theorem safe [Zero α] [NatCast α] [Neg α] [Mul α] [Sub α] [Div α] (n : Nat)
    (subtraction : Subtraction) :
    Safe False (init n subtraction : Checked (Arrays α)) kernel (Shaped n) :=
  safe_of_yields (yields_init n subtraction) fun _ => yields_kernel

end Trisolv
end Kernel
end DenseBench
