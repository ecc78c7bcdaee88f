import DenseBench.Kernel.Cholesky
import DenseBench.Kernel.Gemm
import DenseBench.Kernel.Symm
import DenseBench.Kernel.Syr2k
import DenseBench.Kernel.Syrk
import DenseBench.Kernel.Trisolv
import DenseBench.Kernel.Trmm
import DenseBench.Proofs.Dense.Requirement
import DenseBench.Proofs.Kernel.Safety.Correlation

/-!
# What the kernels require of their arrays

A kernel takes its loop bounds from some of its arrays and never compares them with the others.  For
arrays of any extents the conditions here say whether it comes to its end or takes an index out of
an array.  An array that no step reaches, because some range is empty, may have any extents.
-/

namespace DenseBench
namespace Kernel

variable {α : Type} {rows cols : Nat}

namespace Gemm

variable [Add α] [Mul α] {alpha beta : α} {a b : Mat α}

/-- Adding a multiple of row `k` of `b` to row `i`. -/
theorem requires_addRow {c : Mat α} (c_shape : c.HasShape rows cols) (i k : Nat) :
    Requires
      (cols = 0 ∨ i < rows ∧ (i < a.rows ∧ k < a.cols) ∧ k < b.rows ∧ cols ≤ b.cols)
      (sweep 0 cols c fun j c => do
        let term := alpha * (← a.read i k) * (← b.read k j)
        c.modify i j (· + term))
      (Mat.HasShape rows cols) := by
  let element (j : Nat) : Prop :=
    (i < a.rows ∧ k < a.cols) ∧ (k < b.rows ∧ j < b.cols) ∧ i < rows ∧ j < cols
  apply requires_sweep_last (Mat.HasShape rows cols) element c_shape
  · grind
  · grind
  · intro j c _ _ c_shape
    refine (a.hasShape_self.requires_read i k).bind fun _ _ => ?_
    refine (b.hasShape_self.requires_read k j).bind fun _ _ => ?_
    exact c_shape.requires_modify i j _

theorem requires_kernel (c : Mat α) :
    Requires
      (a.rows = 0 ∨ c.cols = 0 ∨
        a.rows ≤ c.rows ∧ (a.cols = 0 ∨ a.cols ≤ b.rows ∧ c.cols ≤ b.cols))
      (kernel alpha beta ⟨c, a, b⟩) fun _ => True := by
  let row (i : Nat) : Prop :=
    c.cols = 0 ∨ i < c.rows ∧ (a.cols = 0 ∨ i < a.rows ∧ a.cols ≤ b.rows ∧ c.cols ≤ b.cols)
  refine Requires.map (requires_sweep_last (Mat.HasShape c.rows c.cols) row c.hasShape_self
    ?_ ?_ ?_) fun c _ => .pure trivial
  · grind
  · grind
  · intro i c' _ _ c_shape
    -- the row is scaled, then it gathers one multiple of a row of `b` after the other
    refine Requires.iff ((c_shape.requires_modifyFront i c.cols (· * beta)).bind fun c' c_shape =>
      requires_sweep_last _ _ c_shape ?_ Iff.rfl fun k c' _ _ c_shape =>
        requires_addRow c_shape i k) ?_
    · grind
    · grind

end Gemm

namespace Symm

variable [Zero α] [Add α] [Mul α] {alpha beta : α} {a b : Mat α}

/-- The products that element `i`, `j` makes with the rows above it. -/
theorem requires_above {c : Mat α} (c_shape : c.HasShape rows cols) (i j : Nat) :
    Requires
      (i = 0 ∨ (i < a.rows ∧ i ≤ a.cols) ∧ (i < b.rows ∧ j < b.cols) ∧ i ≤ rows ∧ j < cols)
      (sweep 0 i (c, (0 : α)) fun k (c, sum) => do
        let term := alpha * (← b.read i j) * (← a.read i k)
        let c ← c.modify k j (· + term)
        let sum := sum + (← b.read k j) * (← a.read i k)
        return (c, sum))
      (fun state => state.1.HasShape rows cols) := by
  let term (k : Nat) : Prop :=
    (i < b.rows ∧ j < b.cols) ∧ (i < a.rows ∧ k < a.cols) ∧ (k < rows ∧ j < cols) ∧
      (k < b.rows ∧ j < b.cols) ∧ i < a.rows ∧ k < a.cols
  apply requires_sweep_last (fun state : Mat α × α => state.1.HasShape rows cols) term c_shape
  · grind
  · grind
  · rintro k ⟨c, sum⟩ _ _ c_shape
    refine (b.hasShape_self.requires_read i j).bind fun _ _ => ?_
    refine (a.hasShape_self.requires_read i k).bind fun _ _ => ?_
    refine (Mat.HasShape.requires_modify c_shape k j _).bind fun c c_shape => ?_
    refine (b.hasShape_self.requires_read k j).bind fun _ _ => ?_
    exact (a.hasShape_self.requires_read i k).map fun _ _ => .pure c_shape

theorem requires_kernel (c : Mat α) :
    Requires
      (c.rows = 0 ∨ c.cols = 0 ∨
        (c.rows ≤ a.rows ∧ c.rows ≤ a.cols) ∧ c.rows ≤ b.rows ∧ c.cols ≤ b.cols)
      (kernel alpha beta ⟨c, a, b⟩) fun _ => True := by
  let element (i j : Nat) : Prop :=
    (i < a.rows ∧ i < a.cols) ∧ (i < b.rows ∧ j < b.cols) ∧ i < c.rows ∧ j < c.cols
  let row (i : Nat) : Prop := c.cols ≤ 0 ∨ element i (c.cols - 1)
  refine Requires.map (requires_sweep_last (Mat.HasShape c.rows c.cols) row c.hasShape_self
    ?_ ?_ ?_) fun c _ => .pure trivial
  · grind
  · grind
  · intro i c' _ _ c_shape
    apply requires_sweep_last (Mat.HasShape c.rows c.cols) (element i) c_shape
    · grind
    · exact Iff.rfl
    · intro j c' _ _ c_shape
      refine Requires.iff ((requires_above c_shape i j).bind fun state c_shape =>
        (b.hasShape_self.requires_read i j).bind fun _ _ =>
          (a.hasShape_self.requires_read i i).bind fun _ _ => c_shape.requires_modify i j _) ?_
      grind

end Symm

namespace Trmm

variable [Add α] [Mul α] {alpha : α} {a : Mat α}

/-- The products that element `i`, `j` gathers from the rows below it. -/
theorem requires_below {b : Mat α} (b_shape : b.HasShape rows cols) (i j : Nat) :
    Requires
      (rows ≤ i + 1 ∨ (rows ≤ a.rows ∧ i < a.cols) ∧ j < cols)
      (sweep (i + 1) rows b fun k b => do
        let term := (← a.read k i) * (← b.read k j)
        b.modify i j (· + term))
      (Mat.HasShape rows cols) := by
  let term (k : Nat) : Prop :=
    (k < a.rows ∧ i < a.cols) ∧ (k < rows ∧ j < cols) ∧ i < rows ∧ j < cols
  apply requires_sweep_last (Mat.HasShape rows cols) term b_shape
  · grind
  · grind
  · intro k b _ _ b_shape
    refine (a.hasShape_self.requires_read k i).bind fun _ _ => ?_
    exact (b_shape.requires_read k j).bind fun _ _ => b_shape.requires_modify i j _

/-- Row `i` reads column `i` of `a` below the diagonal, so the last row reads nothing and it is the
row before it that reaches the furthest. -/
theorem requires_kernel (b : Mat α) :
    Requires
      (b.cols = 0 ∨ b.rows ≤ 1 ∨ b.rows ≤ a.rows ∧ b.rows - 1 ≤ a.cols)
      (kernel alpha ⟨a, b⟩) fun _ => True := by
  let row (i : Nat) : Prop := b.cols = 0 ∨ b.rows ≤ i + 1 ∨ b.rows ≤ a.rows ∧ i < a.cols
  refine Requires.map (Requires.iff (requires_sweep (Mat.HasShape b.rows b.cols) row
    b.hasShape_self ?_) ?_) fun b _ => .pure trivial
  · intro i b' _ upper b_shape
    refine Requires.iff (requires_sweep_last _ _ b_shape ?_ Iff.rfl fun j b' _ _ b_shape =>
      (requires_below b_shape i j).bind fun b' b_shape => b_shape.requires_modify i j _) ?_
    · grind
    · grind
  · constructor
    · intro all
      by_cases some_below : 1 < b.rows
      · have furthest : row (b.rows - 2) := all (b.rows - 2) (by omega) (by omega)
        grind
      · omega
    · intro holds i _ upper
      grind

end Trmm

namespace Syrk

variable [Add α] [Mul α] {alpha beta : α} {a : Mat α}

/-- Adding the products of row `i` of `a` with the rows up to it, at column `k`. -/
theorem requires_addProducts {c : Mat α} (c_shape : c.HasShape rows cols) (i k : Nat) :
    Requires ((i < a.rows ∧ k < a.cols) ∧ i < rows ∧ i < cols)
      (sweep 0 (i + 1) c fun j c => do
        let term := alpha * (← a.read i k) * (← a.read j k)
        c.modify i j (· + term))
      (Mat.HasShape rows cols) := by
  let element (j : Nat) : Prop :=
    (i < a.rows ∧ k < a.cols) ∧ (j < a.rows ∧ k < a.cols) ∧ i < rows ∧ j < cols
  apply requires_sweep_last (Mat.HasShape rows cols) element c_shape
  · grind
  · grind
  · intro j c _ _ c_shape
    refine (a.hasShape_self.requires_read i k).bind fun _ _ => ?_
    exact (a.hasShape_self.requires_read j k).bind fun _ _ => c_shape.requires_modify i j _

theorem requires_kernel (c : Mat α) :
    Requires (a.rows = 0 ∨ a.rows ≤ c.rows ∧ a.rows ≤ c.cols)
      (kernel alpha beta ⟨c, a⟩) fun _ => True := by
  let row (i : Nat) : Prop := (i < c.rows ∧ i < c.cols) ∧ (a.cols = 0 ∨ i < a.rows)
  refine Requires.map (requires_sweep_last (Mat.HasShape c.rows c.cols) row c.hasShape_self
    ?_ ?_ ?_) fun c _ => .pure trivial
  · grind
  · grind
  · intro i c' _ _ c_shape
    refine Requires.iff ((c_shape.requires_modifyFront i (i + 1) (· * beta)).bind fun c' c_shape =>
      requires_sweep_last _ _ c_shape ?_ Iff.rfl fun k c' _ _ c_shape =>
        requires_addProducts c_shape i k) ?_
    · grind
    · grind

end Syrk

namespace Syr2k

variable [Add α] [Mul α] {alpha beta : α} {a b : Mat α}

/-- Adding the products of the rows `i` with the rows up to them, at column `k`. -/
theorem requires_addProducts {c : Mat α} (c_shape : c.HasShape rows cols) (i k : Nat) :
    Requires
      ((i < a.rows ∧ k < a.cols) ∧ (i < b.rows ∧ k < b.cols) ∧ i < rows ∧ i < cols)
      (sweep 0 (i + 1) c fun j c => do
        let term := (← a.read j k) * alpha * (← b.read i k) +
          (← b.read j k) * alpha * (← a.read i k)
        c.modify i j (· + term))
      (Mat.HasShape rows cols) := by
  let element (j : Nat) : Prop :=
    (j < a.rows ∧ k < a.cols) ∧ (i < b.rows ∧ k < b.cols) ∧ (j < b.rows ∧ k < b.cols) ∧
      (i < a.rows ∧ k < a.cols) ∧ i < rows ∧ j < cols
  apply requires_sweep_last (Mat.HasShape rows cols) element c_shape
  · grind
  · grind
  · intro j c _ _ c_shape
    refine (a.hasShape_self.requires_read j k).bind fun _ _ => ?_
    refine (b.hasShape_self.requires_read i k).bind fun _ _ => ?_
    refine (b.hasShape_self.requires_read j k).bind fun _ _ => ?_
    exact (a.hasShape_self.requires_read i k).bind fun _ _ => c_shape.requires_modify i j _

theorem requires_kernel (c : Mat α) :
    Requires
      (a.rows = 0 ∨ (a.rows ≤ c.rows ∧ a.rows ≤ c.cols) ∧
        (a.cols = 0 ∨ a.rows ≤ b.rows ∧ a.cols ≤ b.cols))
      (kernel alpha beta ⟨c, a, b⟩) fun _ => True := by
  let row (i : Nat) : Prop :=
    (i < c.rows ∧ i < c.cols) ∧ (a.cols = 0 ∨ i < a.rows ∧ i < b.rows ∧ a.cols ≤ b.cols)
  refine Requires.map (requires_sweep_last (Mat.HasShape c.rows c.cols) row c.hasShape_self
    ?_ ?_ ?_) fun c _ => .pure trivial
  · grind
  · grind
  · intro i c' _ _ c_shape
    refine Requires.iff ((c_shape.requires_modifyFront i (i + 1) (· * beta)).bind fun c' c_shape =>
      requires_sweep_last _ _ c_shape ?_ Iff.rfl fun k c' _ _ c_shape =>
        requires_addProducts c_shape i k) ?_
    · grind
    · grind

end Syr2k

namespace Trisolv

variable {l : Mat α} {b : Vec α}

/-- Taking the products with the elements before `i` from element `i`. -/
theorem requires_eliminate [Mul α] [Sub α] {size : Nat} {x : Vec α} (x_size : x.HasSize size)
    (i : Nat) :
    Requires (i = 0 ∨ (i < l.rows ∧ i ≤ l.cols) ∧ i < size)
      (sweep 0 i x fun j x => do
        let term := (← l.read i j) * (← x.read j)
        x.modify i (· - term))
      (Vec.HasSize size) := by
  let term (j : Nat) : Prop := (i < l.rows ∧ j < l.cols) ∧ j < size ∧ i < size
  apply requires_sweep_last (Vec.HasSize size) term x_size
  · grind
  · grind
  · intro j x _ _ x_size
    refine (l.hasShape_self.requires_read i j).bind fun _ _ => ?_
    exact (x_size.requires_read j).bind fun _ _ => x_size.requires_modify i _

theorem requires_kernel [Mul α] [Sub α] [Div α] (x : Vec α) :
    Requires (l.rows = 0 ∨ l.rows ≤ l.cols ∧ l.rows ≤ x.size ∧ l.rows ≤ b.size)
      (kernel ⟨l, x, b⟩) fun _ => True := by
  let row (i : Nat) : Prop := (i < l.rows ∧ i < l.cols) ∧ i < x.size ∧ i < b.size
  refine Requires.map (requires_sweep_last (Vec.HasSize x.size) row x.hasSize_self ?_ ?_ ?_)
    fun x _ => .pure trivial
  · grind
  · grind
  · intro i x' _ _ x_size
    refine Requires.iff ((b.hasSize_self.requires_read i).bind fun _ _ =>
      (x_size.requires_write i _).bind fun x' x_size =>
        (requires_eliminate x_size i).bind fun x' x_size =>
          (l.hasShape_self.requires_read i i).bind fun _ _ => x_size.requires_modify i _) ?_
    grind

end Trisolv

namespace Cholesky

variable {sqrt : α → α} {a : Mat α}

/-- Taking the products of the first `bound` elements of the rows `i` and `j` from an element of
row `i`. -/
theorem requires_eliminate [Mul α] [Sub α] (shape : a.HasShape rows cols) (i j k bound : Nat) :
    Requires
      (bound = 0 ∨ (i < rows ∧ bound ≤ cols) ∧ j < rows ∧ k < cols)
      (sweep 0 bound a fun t a => do
        let term := (← a.read i t) * (← a.read j t)
        a.modify i k (· - term))
      (Mat.HasShape rows cols) := by
  let term (t : Nat) : Prop :=
    (i < rows ∧ t < cols) ∧ (j < rows ∧ t < cols) ∧ i < rows ∧ k < cols
  apply requires_sweep_last (Mat.HasShape rows cols) term shape
  · grind
  · grind
  · intro t a _ _ shape
    refine (shape.requires_read i t).bind fun _ _ => ?_
    exact (shape.requires_read j t).bind fun _ _ => shape.requires_modify i k _

theorem requires_kernel [Mul α] [Sub α] [Div α] :
    Requires (a.rows ≤ a.cols) (kernel sqrt ⟨a⟩) fun _ => True := by
  let diagonal (i : Nat) : Prop := i < a.rows ∧ i < a.cols
  refine Requires.map (requires_sweep_last (Mat.HasShape a.rows a.cols) diagonal a.hasShape_self
    ?_ ?_ ?_) fun a _ => .pure trivial
  · grind
  · grind
  · intro i a' _ _ shape
    refine Requires.iff (Requires.bind
      (requires_sweep_last _ _ shape ?_ Iff.rfl fun j a' _ _ shape =>
        (requires_eliminate shape i j j j).bind fun a' shape =>
          (shape.requires_read j j).bind fun _ _ => shape.requires_modify i j _)
      fun a' shape =>
        (requires_eliminate shape i i i i).bind fun a' shape => shape.requires_modify i i sqrt) ?_
    · grind
    · grind

end Cholesky

namespace Correlation

variable {data corr : Mat α} {extent : Nat}

/-- Writing the correlations of column `i` with itself and with the columns after it. -/
theorem requires_correlate [Zero α] [One α] [Add α] [Mul α] (shape : data.HasShape rows extent)
    {height width : Nat} (corr_shape : corr.HasShape height width) {i : Nat}
    (before : i + 1 < extent) :
    Requires (extent ≤ height ∧ extent ≤ width)
      (do
        let corr ← corr.write i i 1
        sweep (i + 1) extent corr fun j corr => do
          let sum ← sweep 0 data.rows (0 : α) fun k sum => do
            return sum + (← data.read k i) * (← data.read k j)
          let corr ← corr.write i j sum
          corr.write j i sum)
      (Mat.HasShape height width) := by
  let both (j : Nat) : Prop := (i < height ∧ j < width) ∧ j < height ∧ i < width
  refine Requires.iff ((corr_shape.requires_write i i 1).bind fun corr corr_shape =>
    requires_sweep_last (Mat.HasShape height width) both corr_shape ?_ Iff.rfl ?_) ?_
  · grind
  · intro j corr _ col corr_shape
    refine Yields.bind_requires (yields_sweep (fun _ => True) trivial ?_) fun sum _ => ?_
    · intro k sum _ row _
      have observed : k < rows := shape.rows ▸ row
      refine (shape.read observed (Nat.lt_of_succ_lt before)).bind fun _ _ => ?_
      exact (shape.read observed col).bind fun _ _ => .pure trivial
    · exact (corr_shape.requires_write i j sum).bind fun corr corr_shape =>
        corr_shape.requires_write j i sum
  · grind

/-- Without columns nothing is written.  Otherwise every step writes into the last column. -/
theorem requires_products [Zero α] [One α] [Add α] [Mul α] (subtraction : Subtraction)
    (shape : data.HasShape rows extent) :
    Requires (extent = 0 ∨ extent ≤ corr.rows ∧ extent ≤ corr.cols)
      (products subtraction data corr) (Mat.HasShape corr.rows corr.cols) := by
  simp only [products, shape.cols]
  split
  next none =>
    have ended : Requires True (.ok corr) (Mat.HasShape corr.rows corr.cols) :=
      .of_yields (.pure corr.hasShape_self)
    exact ended.iff ⟨fun _ => .inl none, fun _ => trivial⟩
  next filled =>
    have some_col : 1 ≤ extent := Nat.one_le_iff_ne_zero.mpr filled
    refine (yields_difference subtraction some_col).bind_requires fun last last_eq => ?_
    subst last_eq
    refine Requires.iff (Requires.bind (requires_sweep_last (Mat.HasShape corr.rows corr.cols)
      (fun _ => extent ≤ corr.rows ∧ extent ≤ corr.cols) corr.hasShape_self ?_ Iff.rfl ?_)
      fun corr corr_shape => corr_shape.requires_write (extent - 1) (extent - 1) 1) ?_
    · exact fun _ _ _ reaches => reaches
    · intro i corr _ before corr_shape
      exact requires_correlate shape corr_shape (by omega)
    · omega

theorem requires_kernel [Zero α] [One α] [Add α] [Sub α] [Mul α] [Div α] [LE α] [DecidableLE α]
    (sqrt : α → α) (eps count : α) (subtraction : Subtraction) :
    Requires (data.cols = 0 ∨ data.cols ≤ corr.rows ∧ data.cols ≤ corr.cols)
      (kernel sqrt eps ⟨count, data, corr⟩ subtraction) fun _ => True := by
  have shape : data.HasShape data.rows data.cols := data.hasShape_self
  refine (yields_means count shape).bind_requires fun mean mean_size => ?_
  refine (yields_deviations sqrt eps count shape mean_size).bind_requires fun _ deviation_size => ?_
  refine (yields_normalise _ shape mean_size deviation_size).bind_requires fun data shape => ?_
  exact (requires_products subtraction shape).map fun _ _ => .pure trivial

end Correlation

/-- For arrays of any extents and contents: a kernel ends if the extents suffice for the steps that
its loop bounds make it take, and otherwise an index is out of bounds. -/
theorem extents_decide [Zero α] [One α] [Add α] [Sub α] [Mul α] [Div α] [LE α] [DecidableLE α]
    (sqrt : α → α) (alpha beta eps count : α) (subtraction : Subtraction) :
    (∀ c a b : Mat α,
      FaultsUnless
        (a.rows = 0 ∨ c.cols = 0 ∨ a.rows ≤ c.rows ∧ (a.cols = 0 ∨ b.AtLeast a.cols c.cols))
        (Gemm.kernel alpha beta ⟨c, a, b⟩)) ∧
    (∀ c a b : Mat α,
      FaultsUnless
        (c.rows = 0 ∨ c.cols = 0 ∨ a.AtLeast c.rows c.rows ∧ b.AtLeast c.rows c.cols)
        (Symm.kernel alpha beta ⟨c, a, b⟩)) ∧
    (∀ a b : Mat α,
      FaultsUnless (b.cols = 0 ∨ b.rows ≤ 1 ∨ a.AtLeast b.rows (b.rows - 1))
        (Trmm.kernel alpha ⟨a, b⟩)) ∧
    (∀ c a : Mat α,
      FaultsUnless (a.rows = 0 ∨ c.AtLeast a.rows a.rows) (Syrk.kernel alpha beta ⟨c, a⟩)) ∧
    (∀ c a b : Mat α,
      FaultsUnless
        (a.rows = 0 ∨ c.AtLeast a.rows a.rows ∧ (a.cols = 0 ∨ b.AtLeast a.rows a.cols))
        (Syr2k.kernel alpha beta ⟨c, a, b⟩)) ∧
    (∀ (l : Mat α) (x b : Vec α),
      FaultsUnless (l.rows = 0 ∨ l.rows ≤ l.cols ∧ l.rows ≤ x.size ∧ l.rows ≤ b.size)
        (Trisolv.kernel ⟨l, x, b⟩)) ∧
    (∀ a : Mat α, FaultsUnless (a.rows ≤ a.cols) (Cholesky.kernel sqrt ⟨a⟩)) ∧
    (∀ data corr : Mat α,
      FaultsUnless (data.cols = 0 ∨ corr.AtLeast data.cols data.cols)
        (Correlation.kernel sqrt eps ⟨count, data, corr⟩ subtraction)) := by
  refine ⟨?_, ?_, ?_, ?_, ?_, ?_, ?_, ?_⟩
  · exact fun c a b => (Gemm.requires_kernel c).faultsUnless
  · exact fun c a b => (Symm.requires_kernel c).faultsUnless
  · exact fun a b => (Trmm.requires_kernel b).faultsUnless
  · exact fun c a => (Syrk.requires_kernel c).faultsUnless
  · exact fun c a b => (Syr2k.requires_kernel c).faultsUnless
  · exact fun l x b => (Trisolv.requires_kernel x).faultsUnless
  · exact fun a => Cholesky.requires_kernel.faultsUnless
  · intro data corr
    exact (Correlation.requires_kernel sqrt eps count subtraction).faultsUnless

/-- The only row reads nothing of the triangular factor; of two rows, the first reads an element. -/
example :
    Trmm.kernel 2 ⟨.replicate 0 0 1, .replicate 1 2 (3 : ℤ)⟩ =
        .ok ⟨.replicate 0 0 1, .replicate 1 2 6⟩ ∧
      Trmm.kernel 2 ⟨.replicate 2 0 1, .replicate 2 2 (3 : ℤ)⟩ = .error .indexOutOfBounds :=
  ⟨rfl, rfl⟩

end Kernel
end DenseBench
