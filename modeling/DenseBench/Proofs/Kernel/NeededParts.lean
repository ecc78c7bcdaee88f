import DenseBench.Proofs.Dense.Parts
import DenseBench.Proofs.Dense.Shape
import DenseBench.Proofs.Kernel.ChainedProducts
import DenseBench.Proofs.Kernel.Factorisation
import DenseBench.Proofs.Kernel.FibreProducts
import DenseBench.Proofs.Kernel.RankUpdate
import DenseBench.Proofs.Kernel.Substitution
import DenseBench.Proofs.Kernel.SymmetricProduct
import DenseBench.Proofs.Kernel.TriangularProduct
import DenseBench.Proofs.Kernel.UpdatedProducts
import DenseBench.Proofs.Kernel.VectorProducts

/-!
# The needed parts of the arrays

The loop bounds of a kernel are extents of some of its arrays.  An axis that gives no bound may be
longer than the loops go, and then the kernel does to the parts within the bounds what it does to
arrays that have only these parts.  What lies outside is left alone, but for the two results that
are cleared as a whole.
-/

namespace DenseBench
namespace Kernel

/-- How far a kernel goes in its arrays. -/
structure Parts (σ : Type) where
  /-- The arrays have all elements that the loop bounds lead to. -/
  Reach : σ → Prop
  /-- The arrays without the elements beyond the loop bounds. -/
  crop : σ → σ
  /-- The arrays after a call, made of the arrays before it and of cropped arrays after a call. -/
  paste : σ → σ → σ

/-- A call does to arrays that are large enough what it does to their needed parts alone. -/
def ActsOnParts {σ : Type} (kernel : σ → Checked σ) (parts : Parts σ) : Prop :=
  ∀ arrays, parts.Reach arrays → ∃ after,
    kernel (parts.crop arrays) = .ok after ∧ kernel arrays = .ok (parts.paste arrays after)

variable {α : Type}

section Products

variable [Zero α] [Add α] [Mul α]

/-- `A` gives the rows of `C` and the rows of `B`, and `C` gives the columns of `B`. -/
def Gemm.parts : Parts (Gemm.Arrays α) where
  Reach := fun ⟨c, a, b⟩ => a.rows ≤ c.rows ∧ b.AtLeast a.cols c.cols
  crop := fun ⟨c, a, b⟩ => ⟨c.crop a.rows c.cols, a, b.crop a.cols c.cols⟩
  paste := fun ⟨c, a, b⟩ after => ⟨c.paste after.c, a, b⟩

theorem Gemm.actsOnParts (alpha beta : α) : ActsOnParts (Gemm.kernel alpha beta) Gemm.parts := by
  rintro ⟨c, a, b⟩ reach
  obtain ⟨rows, nj, c, rfl⟩ := c.exists_ofFn
  obtain ⟨ni, nk, a, rfl⟩ := a.exists_ofFn
  obtain ⟨inner, cols, b, rfl⟩ := b.exists_ofFn
  simp only [parts, Mat.AtLeast, Mat.rows_ofFn, Mat.cols_ofFn] at reach ⊢
  obtain ⟨c_tall, b_tall, b_wide⟩ := reach
  rw [Mat.crop_of_le c_tall le_rfl, Mat.crop_of_le b_tall b_wide]
  refine ⟨_, kernel_ofFn alpha beta c a b le_rfl le_rfl le_rfl, ?_⟩
  rw [kernel_ofFn alpha beta c a b c_tall b_tall b_wide, Mat.paste_withRows]

/-- Each of the three factors gives an extent or two to the ones after it. -/
def TwoProducts.parts : Parts (TwoProducts.Arrays α) where
  Reach := fun ⟨a, b, c, d, tmp⟩ =>
    a.cols ≤ b.rows ∧ b.cols ≤ c.rows ∧ d.AtLeast a.rows c.cols ∧ tmp.AtLeast a.rows b.cols
  crop := fun ⟨a, b, c, d, tmp⟩ =>
    ⟨a, b.crop a.cols b.cols, c.crop b.cols c.cols, d.crop a.rows c.cols, tmp.crop a.rows b.cols⟩
  paste := fun ⟨a, b, c, d, tmp⟩ after => ⟨a, b, c, d.paste after.d, tmp.paste after.tmp⟩

theorem TwoProducts.actsOnParts (alpha beta : α) :
    ActsOnParts (TwoProducts.kernel alpha beta) TwoProducts.parts := by
  rintro ⟨a, b, c, d, tmp⟩ reach
  obtain ⟨ni, nk, a, rfl⟩ := a.exists_ofFn
  obtain ⟨b_rows, nj, b, rfl⟩ := b.exists_ofFn
  obtain ⟨c_rows, nl, c, rfl⟩ := c.exists_ofFn
  obtain ⟨d_rows, d_cols, d, rfl⟩ := d.exists_ofFn
  obtain ⟨rows, cols, tmp, rfl⟩ := tmp.exists_ofFn
  simp only [parts, Mat.AtLeast, Mat.rows_ofFn, Mat.cols_ofFn] at reach ⊢
  obtain ⟨b_tall, c_tall, ⟨d_tall, d_wide⟩, tmp_tall, tmp_wide⟩ := reach
  rw [Mat.crop_of_le b_tall le_rfl, Mat.crop_of_le c_tall le_rfl, Mat.crop_of_le d_tall d_wide,
    Mat.crop_of_le tmp_tall tmp_wide]
  refine ⟨_, kernel_ofFn alpha beta a b c d tmp le_rfl le_rfl le_rfl le_rfl le_rfl le_rfl, ?_⟩
  rw [kernel_ofFn alpha beta a b c d tmp b_tall c_tall d_tall d_wide tmp_tall tmp_wide,
    Mat.paste_withRows, Mat.paste_withRows]

/-- `C` gives both extents. -/
def Symm.parts : Parts (Symm.Arrays α) where
  Reach := fun ⟨c, a, b⟩ => a.AtLeast c.rows c.rows ∧ b.AtLeast c.rows c.cols
  crop := fun ⟨c, a, b⟩ => ⟨c, a.crop c.rows c.rows, b.crop c.rows c.cols⟩
  paste := fun ⟨_, a, b⟩ after => ⟨after.c, a, b⟩

theorem Symm.actsOnParts (alpha beta : α) : ActsOnParts (Symm.kernel alpha beta) Symm.parts := by
  rintro ⟨c, a, b⟩ reach
  obtain ⟨m, n, c, rfl⟩ := c.exists_ofFn
  obtain ⟨p, q, a, rfl⟩ := a.exists_ofFn
  obtain ⟨rows, cols, b, rfl⟩ := b.exists_ofFn
  simp only [parts, Mat.AtLeast, Mat.rows_ofFn, Mat.cols_ofFn] at reach ⊢
  obtain ⟨⟨a_tall, a_wide⟩, b_tall, b_wide⟩ := reach
  rw [Mat.crop_of_le a_tall a_wide, Mat.crop_of_le b_tall b_wide]
  refine ⟨_, kernel_ofFn alpha beta c a b le_rfl le_rfl le_rfl le_rfl, ?_⟩
  rw [kernel_ofFn alpha beta c a b a_tall a_wide b_tall b_wide]

/-- `B` gives both extents.  The last column of the triangle is not needed, as only elements below
the diagonal are. -/
def Trmm.parts : Parts (Trmm.Arrays α) where
  Reach := fun ⟨a, b⟩ => a.AtLeast b.rows (b.rows - 1)
  crop := fun ⟨a, b⟩ => ⟨a.crop b.rows (b.rows - 1), b⟩
  paste := fun ⟨a, _⟩ after => ⟨a, after.b⟩

theorem Trmm.actsOnParts (alpha : α) : ActsOnParts (Trmm.kernel alpha) Trmm.parts := by
  rintro ⟨a, b⟩ reach
  obtain ⟨p, q, a, rfl⟩ := a.exists_ofFn
  obtain ⟨m, n, b, rfl⟩ := b.exists_ofFn
  simp only [parts, Mat.AtLeast, Mat.rows_ofFn, Mat.cols_ofFn] at reach ⊢
  obtain ⟨tall, wide⟩ := reach
  rw [Mat.crop_of_le tall wide]
  refine ⟨_, kernel_ofFn alpha a b le_rfl le_rfl, ?_⟩
  rw [kernel_ofFn alpha a b tall wide]

/-- `A` gives both extents. -/
def Syrk.parts : Parts (Syrk.Arrays α) where
  Reach := fun ⟨c, a⟩ => c.AtLeast a.rows a.rows
  crop := fun ⟨c, a⟩ => ⟨c.crop a.rows a.rows, a⟩
  paste := fun ⟨c, a⟩ after => ⟨c.paste after.c, a⟩

theorem Syrk.actsOnParts (alpha beta : α) : ActsOnParts (Syrk.kernel alpha beta) Syrk.parts := by
  rintro ⟨c, a⟩ reach
  obtain ⟨rows, cols, c, rfl⟩ := c.exists_ofFn
  obtain ⟨n, m, a, rfl⟩ := a.exists_ofFn
  simp only [parts, Mat.AtLeast, Mat.rows_ofFn, Mat.cols_ofFn] at reach ⊢
  obtain ⟨tall, wide⟩ := reach
  rw [Mat.crop_of_le tall wide]
  refine ⟨_, kernel_ofFn alpha beta c a le_rfl le_rfl, ?_⟩
  rw [kernel_ofFn alpha beta c a tall wide, Mat.paste_staircase]

/-- `A` gives both extents. -/
def Syr2k.parts : Parts (Syr2k.Arrays α) where
  Reach := fun ⟨c, a, b⟩ => c.AtLeast a.rows a.rows ∧ b.AtLeast a.rows a.cols
  crop := fun ⟨c, a, b⟩ => ⟨c.crop a.rows a.rows, a, b.crop a.rows a.cols⟩
  paste := fun ⟨c, a, b⟩ after => ⟨c.paste after.c, a, b⟩

theorem Syr2k.actsOnParts (alpha beta : α) :
    ActsOnParts (Syr2k.kernel alpha beta) Syr2k.parts := by
  rintro ⟨c, a, b⟩ reach
  obtain ⟨rows, cols, c, rfl⟩ := c.exists_ofFn
  obtain ⟨n, m, a, rfl⟩ := a.exists_ofFn
  obtain ⟨p, q, b, rfl⟩ := b.exists_ofFn
  simp only [parts, Mat.AtLeast, Mat.rows_ofFn, Mat.cols_ofFn] at reach ⊢
  obtain ⟨⟨c_tall, c_wide⟩, b_tall, b_wide⟩ := reach
  rw [Mat.crop_of_le c_tall c_wide, Mat.crop_of_le b_tall b_wide]
  refine ⟨_, kernel_ofFn alpha beta c a b le_rfl le_rfl le_rfl le_rfl, ?_⟩
  rw [kernel_ofFn alpha beta c a b c_tall c_wide b_tall b_wide, Mat.paste_staircase]

/-- The rows of `A` give the order. -/
def Mvt.parts : Parts (Mvt.Arrays α) where
  Reach := fun ⟨a, x1, x2, y1, y2⟩ =>
    a.rows ≤ a.cols ∧ a.rows ≤ x1.size ∧ a.rows ≤ x2.size ∧ a.rows ≤ y1.size ∧ a.rows ≤ y2.size
  crop := fun ⟨a, x1, x2, y1, y2⟩ =>
    ⟨a.crop a.rows a.rows, x1.crop a.rows, x2.crop a.rows, y1.crop a.rows, y2.crop a.rows⟩
  paste := fun ⟨a, x1, x2, y1, y2⟩ after => ⟨a, x1.paste after.x1, x2.paste after.x2, y1, y2⟩

theorem Mvt.actsOnParts : ActsOnParts (Mvt.kernel (α := α)) Mvt.parts := by
  rintro ⟨a, x1, x2, y1, y2⟩ reach
  obtain ⟨n, cols, a, rfl⟩ := a.exists_ofFn
  obtain ⟨k, x1, rfl⟩ := x1.exists_ofFn
  obtain ⟨l, x2, rfl⟩ := x2.exists_ofFn
  obtain ⟨p, y1, rfl⟩ := y1.exists_ofFn
  obtain ⟨q, y2, rfl⟩ := y2.exists_ofFn
  simp only [parts, Mat.rows_ofFn, Mat.cols_ofFn, Vec.size_ofFn] at reach ⊢
  obtain ⟨wide, x1_long, x2_long, y1_long, y2_long⟩ := reach
  rw [Mat.crop_of_le le_rfl wide, Vec.crop_of_le x1_long, Vec.crop_of_le x2_long,
    Vec.crop_of_le y1_long, Vec.crop_of_le y2_long]
  refine ⟨_, kernel_ofFn a x1 x2 y1 y2 le_rfl le_rfl le_rfl le_rfl le_rfl, ?_⟩
  rw [kernel_ofFn a x1 x2 y1 y2 wide x1_long x2_long y1_long y2_long, Vec.paste_withFront,
    Vec.paste_withFront]

/-- The rows of `A` give the order. -/
def Gemver.parts : Parts (Gemver.Arrays α) where
  Reach := fun ⟨a, u1, v1, u2, v2, w, x, y, z⟩ =>
    a.rows ≤ a.cols ∧ a.rows ≤ u1.size ∧ a.rows ≤ v1.size ∧ a.rows ≤ u2.size ∧ a.rows ≤ v2.size ∧
      a.rows ≤ w.size ∧ a.rows ≤ x.size ∧ a.rows ≤ y.size ∧ a.rows ≤ z.size
  crop := fun ⟨a, u1, v1, u2, v2, w, x, y, z⟩ =>
    ⟨a.crop a.rows a.rows, u1.crop a.rows, v1.crop a.rows, u2.crop a.rows, v2.crop a.rows,
      w.crop a.rows, x.crop a.rows, y.crop a.rows, z.crop a.rows⟩
  paste := fun ⟨a, u1, v1, u2, v2, w, x, y, z⟩ after =>
    ⟨a.paste after.a, u1, v1, u2, v2, w.paste after.w, x.paste after.x, y, z⟩

theorem Gemver.actsOnParts (alpha beta : α) :
    ActsOnParts (Gemver.kernel alpha beta) Gemver.parts := by
  rintro ⟨a, u1, v1, u2, v2, w, x, y, z⟩ reach
  obtain ⟨n, cols, a, rfl⟩ := a.exists_ofFn
  obtain ⟨k₁, u1, rfl⟩ := u1.exists_ofFn
  obtain ⟨l₁, v1, rfl⟩ := v1.exists_ofFn
  obtain ⟨k₂, u2, rfl⟩ := u2.exists_ofFn
  obtain ⟨l₂, v2, rfl⟩ := v2.exists_ofFn
  obtain ⟨p, w, rfl⟩ := w.exists_ofFn
  obtain ⟨q, x, rfl⟩ := x.exists_ofFn
  obtain ⟨r, y, rfl⟩ := y.exists_ofFn
  obtain ⟨s, z, rfl⟩ := z.exists_ofFn
  simp only [parts, Mat.rows_ofFn, Mat.cols_ofFn, Vec.size_ofFn] at reach ⊢
  obtain ⟨wide, u1_long, v1_long, u2_long, v2_long, w_long, x_long, y_long, z_long⟩ := reach
  rw [Mat.crop_of_le le_rfl wide, Vec.crop_of_le u1_long, Vec.crop_of_le v1_long,
    Vec.crop_of_le u2_long, Vec.crop_of_le v2_long, Vec.crop_of_le w_long, Vec.crop_of_le x_long,
    Vec.crop_of_le y_long, Vec.crop_of_le z_long]
  refine ⟨_, kernel_ofFn alpha beta a u1 v1 u2 v2 w x y z le_rfl le_rfl le_rfl le_rfl le_rfl le_rfl
    le_rfl le_rfl le_rfl, ?_⟩
  rw [kernel_ofFn alpha beta a u1 v1 u2 v2 w x y z wide u1_long v1_long u2_long v2_long w_long
    x_long y_long z_long, Mat.paste_withRows, Vec.paste_withFront, Vec.paste_withFront]

/-- The rows of `A` give the order. -/
def Gesummv.parts : Parts (Gesummv.Arrays α) where
  Reach := fun ⟨a, b, x, tmp, y⟩ =>
    a.rows ≤ a.cols ∧ b.AtLeast a.rows a.rows ∧ a.rows ≤ x.size ∧ a.rows ≤ tmp.size ∧
      a.rows ≤ y.size
  crop := fun ⟨a, b, x, tmp, y⟩ =>
    ⟨a.crop a.rows a.rows, b.crop a.rows a.rows, x.crop a.rows, tmp.crop a.rows, y.crop a.rows⟩
  paste := fun ⟨a, b, x, tmp, y⟩ after => ⟨a, b, x, tmp.paste after.tmp, y.paste after.y⟩

theorem Gesummv.actsOnParts (alpha beta : α) :
    ActsOnParts (Gesummv.kernel alpha beta) Gesummv.parts := by
  rintro ⟨a, b, x, tmp, y⟩ reach
  obtain ⟨n, a_cols, a, rfl⟩ := a.exists_ofFn
  obtain ⟨b_rows, b_cols, b, rfl⟩ := b.exists_ofFn
  obtain ⟨k, x, rfl⟩ := x.exists_ofFn
  obtain ⟨l, tmp, rfl⟩ := tmp.exists_ofFn
  obtain ⟨p, y, rfl⟩ := y.exists_ofFn
  simp only [parts, Mat.AtLeast, Mat.rows_ofFn, Mat.cols_ofFn, Vec.size_ofFn] at reach ⊢
  obtain ⟨a_wide, ⟨b_tall, b_wide⟩, x_long, tmp_long, y_long⟩ := reach
  rw [Mat.crop_of_le le_rfl a_wide, Mat.crop_of_le b_tall b_wide, Vec.crop_of_le x_long,
    Vec.crop_of_le tmp_long, Vec.crop_of_le y_long]
  refine ⟨_, kernel_ofFn alpha beta a b x tmp y le_rfl le_rfl le_rfl le_rfl le_rfl le_rfl, ?_⟩
  rw [kernel_ofFn alpha beta a b x tmp y a_wide b_tall b_wide x_long tmp_long y_long,
    Vec.paste_withFront, Vec.paste_withFront]

/-- `A` gives all extents. -/
def Doitgen.parts : Parts (Doitgen.Arrays α) where
  Reach := fun ⟨a, c4, sum⟩ => c4.AtLeast a.cols a.cols ∧ a.cols ≤ sum.size
  crop := fun ⟨a, c4, sum⟩ => ⟨a, c4.crop a.cols a.cols, sum.crop a.cols⟩
  paste := fun ⟨_, c4, sum⟩ after => ⟨after.a, c4, sum.paste after.sum⟩

theorem Doitgen.actsOnParts : ActsOnParts (Doitgen.kernel (α := α)) Doitgen.parts := by
  rintro ⟨a, c4, sum⟩ reach
  obtain ⟨nr, nq, np, a, rfl⟩ := a.exists_ofFn
  obtain ⟨rows, cols, c4, rfl⟩ := c4.exists_ofFn
  obtain ⟨size, sum, rfl⟩ := sum.exists_ofFn
  simp only [parts, Mat.AtLeast, Cube.cols_ofFn, Mat.rows_ofFn, Mat.cols_ofFn,
    Vec.size_ofFn] at reach ⊢
  obtain ⟨⟨tall, wide⟩, long⟩ := reach
  rw [Mat.crop_of_le tall wide, Vec.crop_of_le long]
  refine ⟨_, kernel_ofFn a c4 sum le_rfl le_rfl le_rfl, ?_⟩
  rw [kernel_ofFn a c4 sum tall wide long, Vec.paste_withFront]

/-- `A` gives both extents.  The elements of `y` that have no column are cleared with the others. -/
def Atax.parts : Parts (Atax.Arrays α) where
  Reach := fun ⟨a, x, y, tmp⟩ => a.cols ≤ x.size ∧ a.cols ≤ y.size ∧ a.rows ≤ tmp.size
  crop := fun ⟨a, x, y, tmp⟩ => ⟨a, x.crop a.cols, y.crop a.cols, tmp.crop a.rows⟩
  paste := fun ⟨a, x, y, tmp⟩ after =>
    ⟨a, x, (Vec.zeros y.size).paste after.y, tmp.paste after.tmp⟩

theorem Atax.actsOnParts : ActsOnParts (Atax.kernel (α := α)) Atax.parts := by
  rintro ⟨a, x, y, tmp⟩ reach
  obtain ⟨m, n, a, rfl⟩ := a.exists_ofFn
  obtain ⟨p, x, rfl⟩ := x.exists_ofFn
  obtain ⟨q, y, rfl⟩ := y.exists_ofFn
  obtain ⟨s, tmp, rfl⟩ := tmp.exists_ofFn
  simp only [parts, Mat.rows_ofFn, Mat.cols_ofFn, Vec.size_ofFn, Vec.zeros_eq_ofFn] at reach ⊢
  obtain ⟨x_long, y_long, tmp_long⟩ := reach
  rw [Vec.crop_of_le x_long, Vec.crop_of_le y_long, Vec.crop_of_le tmp_long]
  refine ⟨_, kernel_ofFn a x y tmp le_rfl le_rfl le_rfl, ?_⟩
  rw [kernel_ofFn a x y tmp x_long y_long tmp_long, Vec.paste_withFront, Vec.paste_withFront]

/-- `A` gives both extents.  The elements of `s` that have no column are cleared with the others. -/
def Bicg.parts : Parts (Bicg.Arrays α) where
  Reach := fun ⟨a, r, p, s, q⟩ =>
    a.rows ≤ r.size ∧ a.cols ≤ p.size ∧ a.cols ≤ s.size ∧ a.rows ≤ q.size
  crop := fun ⟨a, r, p, s, q⟩ =>
    ⟨a, r.crop a.rows, p.crop a.cols, s.crop a.cols, q.crop a.rows⟩
  paste := fun ⟨a, r, p, s, q⟩ after =>
    ⟨a, r, p, (Vec.zeros s.size).paste after.s, q.paste after.q⟩

theorem Bicg.actsOnParts : ActsOnParts (Bicg.kernel (α := α)) Bicg.parts := by
  rintro ⟨a, r, p, s, q⟩ reach
  obtain ⟨n, m, a, rfl⟩ := a.exists_ofFn
  obtain ⟨k, r, rfl⟩ := r.exists_ofFn
  obtain ⟨l, p, rfl⟩ := p.exists_ofFn
  obtain ⟨t, s, rfl⟩ := s.exists_ofFn
  obtain ⟨u, q, rfl⟩ := q.exists_ofFn
  simp only [parts, Mat.rows_ofFn, Mat.cols_ofFn, Vec.size_ofFn, Vec.zeros_eq_ofFn] at reach ⊢
  obtain ⟨r_long, p_long, s_long, q_long⟩ := reach
  rw [Vec.crop_of_le r_long, Vec.crop_of_le p_long, Vec.crop_of_le s_long, Vec.crop_of_le q_long]
  refine ⟨_, kernel_ofFn a r p s q le_rfl le_rfl le_rfl le_rfl, ?_⟩
  rw [kernel_ofFn a r p s q r_long p_long s_long q_long, Vec.paste_withFront, Vec.paste_withFront]

end Products

section Solvers

variable [Zero α] [Mul α] [Sub α] [Div α]

/-- The rows of `L` give the order. -/
def Trisolv.parts : Parts (Trisolv.Arrays α) where
  Reach := fun ⟨l, x, b⟩ => l.rows ≤ l.cols ∧ l.rows ≤ x.size ∧ l.rows ≤ b.size
  crop := fun ⟨l, x, b⟩ => ⟨l.crop l.rows l.rows, x.crop l.rows, b.crop l.rows⟩
  paste := fun ⟨l, x, b⟩ after => ⟨l, x.paste after.x, b⟩

theorem Trisolv.actsOnParts : ActsOnParts (Trisolv.kernel (α := α)) Trisolv.parts := by
  rintro ⟨l, x, b⟩ reach
  obtain ⟨n, q, l, rfl⟩ := l.exists_ofFn
  obtain ⟨p, x, rfl⟩ := x.exists_ofFn
  obtain ⟨s, b, rfl⟩ := b.exists_ofFn
  simp only [parts, Mat.rows_ofFn, Mat.cols_ofFn, Vec.size_ofFn] at reach ⊢
  obtain ⟨wide, x_long, b_long⟩ := reach
  rw [Mat.crop_of_le le_rfl wide, Vec.crop_of_le x_long, Vec.crop_of_le b_long]
  obtain ⟨y, solved⟩ := exists_solved n l b
  refine ⟨_, kernel_ofFn x solved le_rfl le_rfl le_rfl, ?_⟩
  rw [kernel_ofFn x solved wide x_long b_long, Vec.paste_withFront]

/-- The rows of `A` give the order. -/
def Cholesky.parts : Parts (Cholesky.Arrays α) where
  Reach := fun ⟨a⟩ => a.rows ≤ a.cols
  crop := fun ⟨a⟩ => ⟨a.crop a.rows a.rows⟩
  paste := fun ⟨a⟩ after => ⟨a.paste after.a⟩

theorem Cholesky.actsOnParts (sqrt : α → α) :
    ActsOnParts (Cholesky.kernel sqrt) Cholesky.parts := by
  rintro ⟨a⟩ reach
  obtain ⟨n, q, a, rfl⟩ := a.exists_ofFn
  simp only [parts, Mat.rows_ofFn, Mat.cols_ofFn] at reach ⊢
  rw [Mat.crop_of_le le_rfl reach]
  obtain ⟨l, factored⟩ := exists_factored sqrt n a
  refine ⟨_, kernel_ofFn factored le_rfl, ?_⟩
  rw [kernel_ofFn factored reach, Mat.paste_of_agree]
  intro i j row _ outside
  exact lowered_of_lt (by omega)

end Solvers

/-- An axis that gives no loop bound may be longer than the loops go.  The needed parts then become
what they become on their own, and what is outside them stays as it was or, in the result of a
product with a transpose, is cleared.  All of this holds bit for bit, as no law of the operations is
used. -/
theorem oversized_arrays [Zero α] [Add α] [Sub α] [Mul α] [Div α] (sqrt : α → α) (alpha beta : α) :
    ActsOnParts (Gemm.kernel alpha beta) Gemm.parts ∧
    ActsOnParts (TwoProducts.kernel alpha beta) TwoProducts.parts ∧
    ActsOnParts (Symm.kernel alpha beta) Symm.parts ∧
    ActsOnParts (Trmm.kernel alpha) Trmm.parts ∧
    ActsOnParts (Syrk.kernel alpha beta) Syrk.parts ∧
    ActsOnParts (Syr2k.kernel alpha beta) Syr2k.parts ∧
    ActsOnParts Trisolv.kernel (Trisolv.parts (α := α)) ∧
    ActsOnParts (Cholesky.kernel sqrt) Cholesky.parts ∧
    ActsOnParts Mvt.kernel (Mvt.parts (α := α)) ∧
    ActsOnParts (Gemver.kernel alpha beta) Gemver.parts ∧
    ActsOnParts (Gesummv.kernel alpha beta) Gesummv.parts ∧
    ActsOnParts Doitgen.kernel (Doitgen.parts (α := α)) ∧
    ActsOnParts Atax.kernel (Atax.parts (α := α)) ∧
    ActsOnParts Bicg.kernel (Bicg.parts (α := α)) := by
  refine ⟨?_, ?_, ?_, ?_, ?_, ?_, ?_, ?_, ?_, ?_, ?_, ?_, ?_, ?_⟩
  · exact Gemm.actsOnParts alpha beta
  · exact TwoProducts.actsOnParts alpha beta
  · exact Symm.actsOnParts alpha beta
  · exact Trmm.actsOnParts alpha
  · exact Syrk.actsOnParts alpha beta
  · exact Syr2k.actsOnParts alpha beta
  · exact Trisolv.actsOnParts
  · exact Cholesky.actsOnParts sqrt
  · exact Mvt.actsOnParts
  · exact Gemver.actsOnParts alpha beta
  · exact Gesummv.actsOnParts alpha beta
  · exact Doitgen.actsOnParts
  · exact Atax.actsOnParts
  · exact Bicg.actsOnParts

/-- A product with nines and fives around the needed parts, and a product with a matrix and its
transpose whose result has one element too many. -/
theorem oversized_arrays_of_integers :
    (Gemm.parts (α := ℤ)).Reach
      ⟨.ofMatrix !![1, 1; 5, 5], .ofMatrix !![1, 2], .ofMatrix !![1, 2, 9; 3, 4, 9; 9, 9, 9]⟩ ∧
    Gemm.kernel 1 (2 : ℤ)
        ⟨.ofMatrix !![1, 1; 5, 5], .ofMatrix !![1, 2], .ofMatrix !![1, 2, 9; 3, 4, 9; 9, 9, 9]⟩ =
      .ok ⟨.ofMatrix !![9, 12; 5, 5], .ofMatrix !![1, 2],
        .ofMatrix !![1, 2, 9; 3, 4, 9; 9, 9, 9]⟩ ∧
    (Atax.parts (α := ℤ)).Reach
      ⟨.ofMatrix !![1, 2; 3, 4], .ofVector ![1, 1, 9], .ofVector ![5, 5, 5], .ofVector ![8, 8, 8]⟩ ∧
    Atax.kernel (α := ℤ)
        ⟨.ofMatrix !![1, 2; 3, 4], .ofVector ![1, 1, 9], .ofVector ![5, 5, 5],
          .ofVector ![8, 8, 8]⟩ =
      .ok ⟨.ofMatrix !![1, 2; 3, 4], .ofVector ![1, 1, 9], .ofVector ![24, 34, 0],
        .ofVector ![3, 7, 8]⟩ := by
  obtain ⟨gemm, -, -, -, -, -, -, -, -, -, -, -, atax, -⟩ := oversized_arrays id (1 : ℤ) 2
  refine ⟨⟨by decide, by decide⟩, ?_, ⟨by decide, by decide, by decide⟩, ?_⟩
  · obtain ⟨after, alone, whole⟩ := gemm
      ⟨.ofMatrix !![1, 1; 5, 5], .ofMatrix !![1, 2], .ofMatrix !![1, 2, 9; 3, 4, 9; 9, 9, 9]⟩
      ⟨by decide, by decide⟩
    have multiplied : Gemm.kernel 1 2 ⟨.ofMatrix !![1, 1], .ofMatrix !![1, 2],
        .ofMatrix !![1, 2; 3, (4 : ℤ)]⟩ =
      .ok ⟨.ofMatrix !![9, 12], .ofMatrix !![1, 2], .ofMatrix !![1, 2; 3, 4]⟩ := rfl
    obtain rfl := Except.ok.inj (alone.symm.trans multiplied)
    exact whole
  · obtain ⟨after, alone, whole⟩ := atax
      ⟨.ofMatrix !![1, 2; 3, 4], .ofVector ![1, 1, 9], .ofVector ![5, 5, 5], .ofVector ![8, 8, 8]⟩
      ⟨by decide, by decide, by decide⟩
    have multiplied : Atax.kernel ⟨.ofMatrix !![1, 2; 3, (4 : ℤ)], .ofVector ![1, 1],
        .ofVector ![5, 5], .ofVector ![8, 8]⟩ =
      .ok ⟨.ofMatrix !![1, 2; 3, 4], .ofVector ![1, 1], .ofVector ![24, 34],
        .ofVector ![3, 7]⟩ := rfl
    obtain rfl := Except.ok.inj (alone.symm.trans multiplied)
    exact whole

end Kernel
end DenseBench
