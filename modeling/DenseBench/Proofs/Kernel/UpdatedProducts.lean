import DenseBench.Kernel.Gemver
import DenseBench.Proofs.Dense.Elements
import DenseBench.Proofs.Dense.Entries
import DenseBench.Proofs.Dense.Matrix
import DenseBench.Proofs.Kernel.VectorProducts
import DenseBench.Proofs.Success

/-!
# Products with an updated matrix

Four loop nests work one after the other: the matrix is updated, its transpose is applied to one
vector, the result is shifted, and the matrix is applied to what came out.  Each of them finds the
finished result of those before it, and the two products are added to whatever their outputs held.
-/

namespace DenseBench
namespace Kernel
namespace Gemver

open Success

variable {n : Nat}

section Order

variable {α : Type} [Add α] [Mul α]

/-- The entry in row `i` and column `j` of the updated matrix. -/
def updated (a : Nat → Nat → α) (u1 v1 u2 v2 : Nat → α) (i j : Nat) : α :=
  a i j + (u1 i * v1 j + u2 i * v2 j)

/-- Element `i` of the shifted product of the transpose with `y`, on top of `x`. -/
def shifted (beta : α) (n : Nat) (a : Nat → Nat → α) (x y z : Nat → α) (i : Nat) : α :=
  mulVecOnto n (x i) (fun i j => beta * a j i) y i + z i

/-- Element `i` of the product of the matrix with `x`, on top of `w`. -/
def applied (alpha : α) (n : Nat) (a : Nat → Nat → α) (w x : Nat → α) (i : Nat) : α :=
  mulVecOnto n (w i) (fun i j => alpha * a i j) x i

/-- The matrix may have more columns than rows, and the vectors may be longer. -/
theorem kernel_ofFn (alpha beta : α) {cols k₁ l₁ k₂ l₂ p q r s : Nat} (a : Nat → Nat → α)
    (u1 v1 u2 v2 w x y z : Nat → α) (wide : n ≤ cols) (u1_long : n ≤ k₁) (v1_long : n ≤ l₁)
    (u2_long : n ≤ k₂) (v2_long : n ≤ l₂) (w_long : n ≤ p) (x_long : n ≤ q) (y_long : n ≤ r)
    (z_long : n ≤ s) :
    let a' := updated a u1 v1 u2 v2
    let x' := shifted beta n a' x y z
    kernel alpha beta ⟨.ofFn n cols a, .ofFn k₁ u1, .ofFn l₁ v1, .ofFn k₂ u2, .ofFn l₂ v2,
        .ofFn p w, .ofFn q x, .ofFn r y, .ofFn s z⟩ =
      .ok ⟨.ofFn n cols (Mat.withRows a n n a'), .ofFn k₁ u1, .ofFn l₁ v1, .ofFn k₂ u2,
        .ofFn l₂ v2, .ofFn p (Vec.withFront w n (applied alpha n a' w x')),
        .ofFn q (Vec.withFront x n x'), .ofFn r y, .ofFn s z⟩ := by
  intro a' x'
  simp only [kernel, Mat.rows_ofFn]
  let product (i : Nat) : α := mulVecOnto n (x i) (fun i j => beta * a' j i) y i
  have a_here {i j : Nat} (row : i < n) (col : j < n) :
      (Mat.ofFn n cols (Mat.withRows a n n a')).read i j = .ok (a' i j) := by
    rw [Mat.read_of_lt row (by omega), Mat.withRows_of_lt row col]
  refine bind_eq_ok_iff.mpr ⟨.ofFn n cols (Mat.withRows a n n a'), ?update,
    bind_eq_ok_iff.mpr ⟨.ofFn q (Vec.withFront x n product), ?transposed,
      bind_eq_ok_iff.mpr ⟨.ofFn q (Vec.withFront x n x'), ?shift,
        bind_eq_ok_iff.mpr ⟨_, ?direct, rfl⟩⟩⟩⟩
  case update =>
    apply Mat.sweep_withRows a'
    intro i row
    apply Mat.sweep_modify_row (fun j => (· + (u1 i * v1 j + u2 i * v2 j))) row wide
    · intro j _
      exact Mat.withRows_of_le (.inl (Nat.le_refl i))
    · intro j g col
      rw [Vec.read_of_lt (by omega), Vec.read_of_lt (by omega), Vec.read_of_lt (by omega),
        Vec.read_of_lt (by omega)]
      rfl
  case transposed =>
    apply Vec.sweep_accumulate_elements (fun i j => beta * a' j i * y j) x_long
    intro i j g row col
    rw [a_here col row, Vec.read_of_lt (by omega)]
    rfl
  case shift =>
    apply Vec.sweep_modify_front (fun i => (· + z i)) x_long
    intro i g row
    rw [Vec.read_of_lt (by omega)]
    rfl
  case direct =>
    apply Vec.sweep_accumulate_elements (fun i j => alpha * a' i j * x' j) w_long
    intro i j g row col
    rw [a_here row col, Vec.read_of_lt (by omega), Vec.withFront_of_lt col]
    rfl

theorem kernel_ofBlock (alpha beta : α) (a : Nat → Nat → α) (u1 v1 u2 v2 w x y z : Nat → α) :
    let a' := updated a u1 v1 u2 v2
    let x' := shifted beta n a' x y z
    kernel alpha beta ⟨.ofMatrix (Mat.block n n a), .ofVector (Vec.front n u1),
        .ofVector (Vec.front n v1), .ofVector (Vec.front n u2), .ofVector (Vec.front n v2),
        .ofVector (Vec.front n w), .ofVector (Vec.front n x), .ofVector (Vec.front n y),
        .ofVector (Vec.front n z)⟩ =
      .ok ⟨.ofMatrix (Mat.block n n a'), .ofVector (Vec.front n u1), .ofVector (Vec.front n v1),
        .ofVector (Vec.front n u2), .ofVector (Vec.front n v2),
        .ofVector (Vec.front n (applied alpha n a' w x')), .ofVector (Vec.front n x'),
        .ofVector (Vec.front n y), .ofVector (Vec.front n z)⟩ := by
  simp only [Mat.ofMatrix_block, Vec.ofVector_front]
  rw [kernel_ofFn alpha beta a u1 v1 u2 v2 w x y z le_rfl le_rfl le_rfl le_rfl le_rfl le_rfl le_rfl
    le_rfl le_rfl, Mat.ofFn_withRows, Vec.ofFn_withFront, Vec.ofFn_withFront]

end Order

section Ring

variable {R : Type} [CommRing R]

theorem block_updated (a : Nat → Nat → R) (u1 v1 u2 v2 : Nat → R) :
    Mat.block n n (updated a u1 v1 u2 v2) =
      Mat.block n n a + Matrix.vecMulVec (Vec.front n u1) (Vec.front n v1) +
        Matrix.vecMulVec (Vec.front n u2) (Vec.front n v2) := by
  ext i j
  exact (add_assoc _ _ _).symm

theorem front_shifted (beta : R) (a : Nat → Nat → R) (y z : Nat → R) :
    Vec.front n (shifted beta n a (fun _ => 0) y z) =
      beta • (Mat.block n n a).transpose.mulVec (Vec.front n y) + Vec.front n z := by
  have product := front_mulVecOnto (m := n) (n := n) (fun i j => beta * a j i) y
  rw [← Matrix.smul_mulVec, Mat.transpose_block, Mat.smul_block, ← product]
  rfl

theorem front_applied (alpha : R) (a : Nat → Nat → R) (x : Nat → R) :
    Vec.front n (applied alpha n a (fun _ => 0) x) =
      alpha • (Mat.block n n a).mulVec (Vec.front n x) := by
  have product := front_mulVecOnto (m := n) (n := n) (fun i j => alpha * a i j) x
  rw [← Matrix.smul_mulVec, Mat.smul_block, ← product]
  rfl

end Ring

/-- The matrix takes up both products of columns and rows; the transposed product and the shift are
made with the updated matrix, and the direct product with the vector that they leave.  Both products
are added to the old outputs in ascending order, with the operations in this order and whatever laws
they obey.  Over a commutative ring, from cleared outputs, these are the update and the two products
of the matrix. -/
theorem kernel_stages :
    (∀ {α : Type} [Add α] [Mul α] (alpha beta : α) {n : Nat} (a : Matrix (Fin n) (Fin n) α)
        (u1 v1 u2 v2 w x y z : Fin n → α),
      ∃ (a' : Matrix (Fin n) (Fin n) α) (x' w' : Fin n → α),
        kernel alpha beta ⟨.ofMatrix a, .ofVector u1, .ofVector v1, .ofVector u2, .ofVector v2,
            .ofVector w, .ofVector x, .ofVector y, .ofVector z⟩ =
          .ok ⟨.ofMatrix a', .ofVector u1, .ofVector v1, .ofVector u2, .ofVector v2, .ofVector w',
            .ofVector x', .ofVector y, .ofVector z⟩ ∧
        (∀ i j, a' i j = a i j + (u1 i * v1 j + u2 i * v2 j)) ∧
        (∀ i, x' i = Fin.foldl n (fun sum j => sum + beta * a' j i * y j) (x i) + z i) ∧
        ∀ i, w' i = Fin.foldl n (fun sum j => sum + alpha * a' i j * x' j) (w i)) ∧
    (∀ {R : Type} [CommRing R] (alpha beta : R) {n : Nat} (a : Matrix (Fin n) (Fin n) R)
        (u1 v1 u2 v2 y z : Fin n → R),
      let a' := a + Matrix.vecMulVec u1 v1 + Matrix.vecMulVec u2 v2
      let x' := beta • a'.transpose.mulVec y + z
      kernel alpha beta ⟨.ofMatrix a, .ofVector u1, .ofVector v1, .ofVector u2, .ofVector v2,
          .zeros n, .zeros n, .ofVector y, .ofVector z⟩ =
        .ok ⟨.ofMatrix a', .ofVector u1, .ofVector v1, .ofVector u2, .ofVector v2,
          .ofVector (alpha • a'.mulVec x'), .ofVector x', .ofVector y, .ofVector z⟩) := by
  constructor
  · intro α _ _ alpha beta n a u1 v1 u2 v2 w x y z
    have inhabited : Nonempty α := ⟨alpha⟩
    obtain ⟨a, rfl⟩ := Mat.exists_eq_block a
    obtain ⟨u1, rfl⟩ := Vec.exists_eq_front u1
    obtain ⟨v1, rfl⟩ := Vec.exists_eq_front v1
    obtain ⟨u2, rfl⟩ := Vec.exists_eq_front u2
    obtain ⟨v2, rfl⟩ := Vec.exists_eq_front v2
    obtain ⟨w, rfl⟩ := Vec.exists_eq_front w
    obtain ⟨x, rfl⟩ := Vec.exists_eq_front x
    obtain ⟨y, rfl⟩ := Vec.exists_eq_front y
    obtain ⟨z, rfl⟩ := Vec.exists_eq_front z
    refine ⟨_, _, _, kernel_ofBlock alpha beta a u1 v1 u2 v2 w x y z, ?_, ?_, ?_⟩
    · intro i j
      rfl
    · intro i
      exact congrArg (· + z i) accumulate_eq_foldl
    · intro i
      exact accumulate_eq_foldl
  · intro R _ alpha beta n a u1 v1 u2 v2 y z a' x'
    obtain ⟨a, rfl⟩ := Mat.exists_eq_block a
    obtain ⟨u1, rfl⟩ := Vec.exists_eq_front u1
    obtain ⟨v1, rfl⟩ := Vec.exists_eq_front v1
    obtain ⟨u2, rfl⟩ := Vec.exists_eq_front u2
    obtain ⟨v2, rfl⟩ := Vec.exists_eq_front v2
    obtain ⟨y, rfl⟩ := Vec.exists_eq_front y
    obtain ⟨z, rfl⟩ := Vec.exists_eq_front z
    have cleared : (Vec.zeros n : Vec R) = .ofVector (Vec.front n fun _ => 0) :=
      Vec.zeros_eq_ofFn n
    rw [cleared, kernel_ofBlock, front_applied, front_shifted, block_updated]

end Gemver
end Kernel
end DenseBench
