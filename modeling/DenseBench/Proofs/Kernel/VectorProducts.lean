import DenseBench.Kernel.Atax
import DenseBench.Kernel.Bicg
import DenseBench.Kernel.Gesummv
import DenseBench.Kernel.Mvt
import DenseBench.Proofs.Dense.Elements
import DenseBench.Proofs.Dense.Entries
import DenseBench.Proofs.Dense.Matrix
import DenseBench.Proofs.Success
import Mathlib.LinearAlgebra.Matrix.Notation

/-!
# Products of matrices and vectors

An element of a product is gathered from a row of the matrix, or every row is scattered over all
elements of the product with the transpose.  Either way an element takes up its terms in ascending
order, so the kernels form the same vectors, up to the order of the two factors of a term.
-/

namespace DenseBench
namespace Kernel

open Success

variable {m n : Nat}

section Product

variable {α : Type} [Add α] [Mul α] {inner : Nat} {start : α} {a : Nat → Nat → α} {x : Nat → α}

/-- Element `i` of the product of `a` with the vector `x`, its terms added to `start` in order. -/
def mulVecOnto (inner : Nat) (start : α) (a : Nat → Nat → α) (x : Nat → α) (i : Nat) : α :=
  accumulate (· + ·) 0 inner start fun k => a i k * x k

/-- Element `j` of the product of the vector `x` with `a`, its terms added to `start` in order. -/
def vecMulOnto (inner : Nat) (start : α) (x : Nat → α) (a : Nat → Nat → α) (j : Nat) : α :=
  accumulate (· + ·) 0 inner start fun k => x k * a k j

theorem mulVecOnto_zero : mulVecOnto 0 start a x = fun _ => start :=
  funext fun _ => accumulate_of_le (Nat.le_refl 0)

theorem mulVecOnto_succ :
    mulVecOnto (inner + 1) start a x = fun i => mulVecOnto inner start a x i + a i inner * x inner :=
  funext fun _ => accumulate_succ (Nat.zero_le inner)

/-- Where multiplication commutes, a vector meets a matrix as the transpose meets the vector. -/
theorem vecMulOnto_eq_mulVecOnto (commutes : ∀ x y : α, x * y = y * x) :
    vecMulOnto inner start x a = mulVecOnto inner start (fun i j => a j i) x :=
  funext fun _ => accumulate_congr fun _ _ _ => commutes _ _

/-- Add the products of the first `count` columns of row `i` to element `i`. -/
def gather (count : Nat) (a : Mat α) (x : Vec α) (i : Nat) (v : Vec α) : Checked (Vec α) :=
  sweep 0 count v fun j v => do
    let term := (← a.read i j) * (← x.read j)
    v.modify i (· + term)

theorem gather_written {rows cols p size i : Nat} {f : Nat → α} (start : α) (row : i < rows)
    (inside : i < size) (wide : inner ≤ cols) (long : inner ≤ p) :
    gather inner (.ofFn rows cols a) (.ofFn p x) i (.ofFn size (Function.update f i start)) =
      .ok (.ofFn size (Function.update f i (mulVecOnto inner start a x i))) := by
  apply Vec.sweep_accumulate_written start (fun j => a i j * x j) inside
  intro j g within
  rw [Mat.read_of_lt row (by omega), Vec.read_of_lt (by omega)]
  rfl

/-- Row after row is gathered, each element from `start` on. -/
theorem gather_front {rows cols p size : Nat} {f : Nat → α} (start : α) (tall : n ≤ rows)
    (wide : inner ≤ cols) (x_long : inner ≤ p) (long : n ≤ size) :
    (sweep 0 n (.ofFn size f) fun i v =>
      v.write i start >>= gather inner (.ofFn rows cols a) (.ofFn p x) i) =
      .ok (.ofFn size (Vec.withFront f n (mulVecOnto inner start a x))) := by
  apply Vec.sweep_withFront
  intro i row
  have inside : i < size := Nat.lt_of_lt_of_le row long
  rw [Vec.write_of_lt inside]
  exact gather_written start (Nat.lt_of_lt_of_le row tall) inside wide x_long

/-- Add the products of element `i` with the first `count` columns of row `i` to the elements. -/
def scatter (count : Nat) (x : Vec α) (a : Mat α) (i : Nat) (v : Vec α) : Checked (Vec α) :=
  sweep 0 count v fun j v => do
    let term := (← x.read i) * (← a.read i j)
    v.modify j (· + term)

/-- Row after row is scattered, and every element takes up its terms in order. -/
theorem scatter_front {rows cols p size : Nat} {f : Nat → α} (start : α) (tall : inner ≤ rows)
    (wide : n ≤ cols) (x_long : inner ≤ p) (long : n ≤ size) :
    sweep 0 inner (.ofFn size (Vec.withFront f n fun _ => start))
        (scatter n (.ofFn p x) (.ofFn rows cols a)) =
      .ok (.ofFn size (Vec.withFront f n (vecMulOnto inner start x a))) := by
  apply Vec.sweep_accumulate_front (fun j i => x i * a i j) long
  intro i j g row col
  rw [Vec.read_of_lt (by omega), Mat.read_of_lt (by omega) (by omega)]
  rfl

end Product

section Ring

variable {R : Type} [CommRing R]

theorem front_mulVecOnto (a : Nat → Nat → R) (x : Nat → R) :
    Vec.front m (mulVecOnto n 0 a x) = (Mat.block m n a).mulVec (Vec.front n x) :=
  funext fun i => Vec.accumulate_front fun k => a i k * x k

theorem front_vecMulOnto (x : Nat → R) (a : Nat → Nat → R) :
    Vec.front n (vecMulOnto m 0 x a) = Matrix.vecMul (Vec.front m x) (Mat.block m n a) :=
  funext fun j => Vec.accumulate_front fun k => x k * a k j

end Ring

namespace Atax

section Order

variable {α : Type} [Zero α] [Add α] [Mul α]

/-- The vectors may be longer than the matrix needs; what is left over of the result is cleared. -/
theorem kernel_ofFn {p q s : Nat} (a : Nat → Nat → α) (x y tmp : Nat → α) (x_long : n ≤ p)
    (y_long : n ≤ q) (tmp_long : m ≤ s) :
    let product := mulVecOnto n 0 a x
    kernel ⟨.ofFn m n a, .ofFn p x, .ofFn q y, .ofFn s tmp⟩ =
      .ok ⟨.ofFn m n a, .ofFn p x,
        .ofFn q (Vec.withFront (fun _ => 0) n (mulVecOnto m 0 (fun i j => a j i) product)),
        .ofFn s (Vec.withFront tmp m product)⟩ := by
  intro product
  simp only [kernel, Mat.rows_ofFn, Mat.cols_ofFn, Vec.fill_eq_ofFn, Vec.size_ofFn]
  -- after `i` rows the first `i` elements of the product are known and handed on
  let stage (i : Nat) : Vec α × Vec α :=
    (.ofFn q (Vec.withFront (fun _ => 0) n (mulVecOnto i 0 (fun i j => a j i) product)),
      .ofFn s (Vec.withFront tmp i product))
  refine bind_eq_ok_iff.mpr ⟨stage m, ?_, rfl⟩
  apply sweep_stages stage (Nat.zero_le m)
  · simp only [stage, mulVecOnto_zero, Vec.withFront_self, Vec.withFront_zero]
  · intro i _ row
    have inside : i < s := Nat.lt_of_lt_of_le row tmp_long
    simp only [stage]
    rw [Vec.write_of_lt inside, ok_bind]
    refine bind_eq_ok_iff.mpr ⟨_, gather_written 0 row inside le_rfl x_long, ?_⟩
    rw [Vec.update_withFront, mulVecOnto_succ]
    refine bind_eq_ok_iff.mpr
      ⟨_, Vec.sweep_modify_front (fun j => (· + a i j * product i)) y_long ?_, rfl⟩
    intro j g col
    rw [Mat.read_of_lt row col, Vec.read_of_lt inside, Vec.withFront_of_lt (Nat.lt_succ_self i)]
    rfl

theorem kernel_ofBlock (a : Nat → Nat → α) (x y tmp : Nat → α) :
    let product := mulVecOnto n 0 a x
    kernel ⟨.ofMatrix (Mat.block m n a), .ofVector (Vec.front n x), .ofVector (Vec.front n y),
        .ofVector (Vec.front m tmp)⟩ =
      .ok ⟨.ofMatrix (Mat.block m n a), .ofVector (Vec.front n x),
        .ofVector (Vec.front n (mulVecOnto m 0 (fun i j => a j i) product)),
        .ofVector (Vec.front m product)⟩ := by
  simp only [Mat.ofMatrix_block, Vec.ofVector_front]
  rw [kernel_ofFn a x y tmp le_rfl le_rfl le_rfl, Vec.ofFn_withFront, Vec.ofFn_withFront]

end Order

theorem kernel_ofMatrix {R : Type} [CommRing R] (a : Matrix (Fin m) (Fin n) R) (x y : Fin n → R)
    (tmp : Fin m → R) :
    kernel ⟨.ofMatrix a, .ofVector x, .ofVector y, .ofVector tmp⟩ =
      .ok ⟨.ofMatrix a, .ofVector x, .ofVector (a.transpose.mulVec (a.mulVec x)),
        .ofVector (a.mulVec x)⟩ := by
  obtain ⟨a, rfl⟩ := Mat.exists_eq_block a
  obtain ⟨x, rfl⟩ := Vec.exists_eq_front x
  obtain ⟨y, rfl⟩ := Vec.exists_eq_front y
  obtain ⟨tmp, rfl⟩ := Vec.exists_eq_front tmp
  rw [kernel_ofBlock, front_mulVecOnto, front_mulVecOnto, Mat.transpose_block]

end Atax

namespace Bicg

section Order

variable {α : Type} [Zero α] [Add α] [Mul α]

/-- The vectors may be longer than the matrix needs; what is left over of the transposed product is
cleared. -/
theorem kernel_ofFn {k l p q : Nat} (a : Nat → Nat → α) (r x s y : Nat → α) (r_long : n ≤ k)
    (x_long : m ≤ l) (s_long : m ≤ p) (y_long : n ≤ q) :
    kernel ⟨.ofFn n m a, .ofFn k r, .ofFn l x, .ofFn p s, .ofFn q y⟩ =
      .ok ⟨.ofFn n m a, .ofFn k r, .ofFn l x,
        .ofFn p (Vec.withFront (fun _ => 0) m (vecMulOnto n 0 r a)),
        .ofFn q (Vec.withFront y n (mulVecOnto m 0 a x))⟩ := by
  simp only [kernel, Mat.rows_ofFn, Mat.cols_ofFn, Vec.fill_eq_ofFn, Vec.size_ofFn]
  have scattered := scatter_front (f := fun _ => 0) (x := r) (a := a) (0 : α) (Nat.le_refl n)
    (Nat.le_refl m) r_long s_long
  rw [Vec.withFront_self] at scattered
  have gathered := gather_front (f := y) (a := a) (x := x) (0 : α) (Nat.le_refl n)
    (Nat.le_refl m) x_long y_long
  -- neither product looks at the other one, so each step makes a step of both
  refine bind_eq_ok_iff.mpr ⟨_, sweep_pair (Nat.zero_le n) ?_ scattered gathered, rfl⟩
  intro i s y s' y' _ row left right
  obtain ⟨cleared, written, right⟩ := bind_eq_ok_iff.mp right
  rw [written, ok_bind]
  refine sweep_pair (Nat.zero_le m) ?_ left right
  intro j s y s' y' _ col left right
  have r_here : (Vec.ofFn k r).read i = .ok (r i) := Vec.read_of_lt (by omega)
  have a_here : (Mat.ofFn n m a).read i j = .ok (a i j) := Mat.read_of_lt row col
  have x_here : (Vec.ofFn l x).read j = .ok (x j) := Vec.read_of_lt (by omega)
  simp only [r_here, a_here, x_here, ok_bind] at left right ⊢
  rw [left, ok_bind, right]
  rfl

theorem kernel_ofBlock (a : Nat → Nat → α) (r x s y : Nat → α) :
    kernel ⟨.ofMatrix (Mat.block n m a), .ofVector (Vec.front n r), .ofVector (Vec.front m x),
        .ofVector (Vec.front m s), .ofVector (Vec.front n y)⟩ =
      .ok ⟨.ofMatrix (Mat.block n m a), .ofVector (Vec.front n r), .ofVector (Vec.front m x),
        .ofVector (Vec.front m (vecMulOnto n 0 r a)),
        .ofVector (Vec.front n (mulVecOnto m 0 a x))⟩ := by
  simp only [Mat.ofMatrix_block, Vec.ofVector_front]
  rw [kernel_ofFn a r x s y le_rfl le_rfl le_rfl le_rfl, Vec.ofFn_withFront, Vec.ofFn_withFront]

/-- The direct product does not look at the vector that meets the rows. -/
theorem kernel_direct (a : Nat → Nat → α) (x : Nat → α) (r q : Fin n → α) (s : Fin m → α) :
    ∃ s' : Fin m → α,
      kernel ⟨.ofMatrix (Mat.block n m a), .ofVector r, .ofVector (Vec.front m x), .ofVector s,
          .ofVector q⟩ =
        .ok ⟨.ofMatrix (Mat.block n m a), .ofVector r, .ofVector (Vec.front m x), .ofVector s',
          .ofVector (Vec.front n (mulVecOnto m 0 a x))⟩ := by
  obtain ⟨r, rfl⟩ := Vec.exists_eq_front r
  obtain ⟨q, rfl⟩ := Vec.exists_eq_front q
  obtain ⟨s, rfl⟩ := Vec.exists_eq_front s
  exact ⟨Vec.front m (vecMulOnto n 0 r a), kernel_ofBlock a r x s q⟩

end Order

theorem kernel_ofMatrix {R : Type} [CommRing R] (a : Matrix (Fin n) (Fin m) R) (r q : Fin n → R)
    (p s : Fin m → R) :
    kernel ⟨.ofMatrix a, .ofVector r, .ofVector p, .ofVector s, .ofVector q⟩ =
      .ok ⟨.ofMatrix a, .ofVector r, .ofVector p, .ofVector (a.transpose.mulVec r),
        .ofVector (a.mulVec p)⟩ := by
  obtain ⟨a, rfl⟩ := Mat.exists_eq_block a
  obtain ⟨r, rfl⟩ := Vec.exists_eq_front r
  obtain ⟨p, rfl⟩ := Vec.exists_eq_front p
  obtain ⟨s, rfl⟩ := Vec.exists_eq_front s
  obtain ⟨q, rfl⟩ := Vec.exists_eq_front q
  rw [kernel_ofBlock, front_mulVecOnto, front_vecMulOnto, Matrix.mulVec_transpose]

end Bicg

namespace Mvt

section Order

variable {α : Type} [Add α] [Mul α]

/-- The matrix may have more columns than rows, and the vectors may be longer. -/
theorem kernel_ofFn {cols k l p q : Nat} (a : Nat → Nat → α) (x1 x2 y1 y2 : Nat → α)
    (wide : n ≤ cols) (x1_long : n ≤ k) (x2_long : n ≤ l) (y1_long : n ≤ p) (y2_long : n ≤ q) :
    kernel ⟨.ofFn n cols a, .ofFn k x1, .ofFn l x2, .ofFn p y1, .ofFn q y2⟩ =
      .ok ⟨.ofFn n cols a, .ofFn k (Vec.withFront x1 n fun i => mulVecOnto n (x1 i) a y1 i),
        .ofFn l (Vec.withFront x2 n fun i => mulVecOnto n (x2 i) (fun i j => a j i) y2 i),
        .ofFn p y1, .ofFn q y2⟩ := by
  simp only [kernel, Mat.rows_ofFn]
  refine bind_eq_ok_iff.mpr
    ⟨_, Vec.sweep_accumulate_elements (fun i j => a i j * y1 j) x1_long ?direct,
      bind_eq_ok_iff.mpr
        ⟨_, Vec.sweep_accumulate_elements (fun i j => a j i * y2 j) x2_long ?transposed, rfl⟩⟩
  case direct =>
    intro i j g row col
    rw [Mat.read_of_lt row (by omega), Vec.read_of_lt (by omega)]
    rfl
  case transposed =>
    intro i j g row col
    rw [Mat.read_of_lt col (by omega), Vec.read_of_lt (by omega)]
    rfl

end Order

end Mvt

namespace Gesummv

section Order

variable {α : Type} [Zero α] [Add α] [Mul α]

/-- Row `i` of both matrices meets the vector in one sweep. -/
theorem gather_both {a_cols b_rows b_cols k l p i : Nat} {a b : Nat → Nat → α} {x f g : Nat → α}
    (row : i < n) (a_wide : n ≤ a_cols) (b_tall : n ≤ b_rows) (b_wide : n ≤ b_cols)
    (x_long : n ≤ k) (tmp_long : n ≤ l) (y_long : n ≤ p) :
    (sweep 0 n (Vec.ofFn l (Function.update f i 0), Vec.ofFn p (Function.update g i 0))
      fun j (tmp, y) => do
        let first := (← (Mat.ofFn n a_cols a).read i j) * (← (Vec.ofFn k x).read j)
        let tmp ← tmp.modify i (· + first)
        let second := (← (Mat.ofFn b_rows b_cols b).read i j) * (← (Vec.ofFn k x).read j)
        let y ← y.modify i (· + second)
        return (tmp, y)) =
      .ok (.ofFn l (Function.update f i (mulVecOnto n 0 a x i)),
        .ofFn p (Function.update g i (mulVecOnto n 0 b x i))) := by
  have b_row : i < b_rows := Nat.lt_of_lt_of_le row b_tall
  refine sweep_pair (Nat.zero_le n) ?_ (gather_written 0 row (by omega) a_wide x_long)
    (gather_written 0 b_row (by omega) b_wide x_long)
  intro j tmp y tmp' y' _ col left right
  have a_here : (Mat.ofFn n a_cols a).read i j = .ok (a i j) := Mat.read_of_lt row (by omega)
  have b_here : (Mat.ofFn b_rows b_cols b).read i j = .ok (b i j) :=
    Mat.read_of_lt b_row (by omega)
  have x_here : (Vec.ofFn k x).read j = .ok (x j) := Vec.read_of_lt (by omega)
  simp only [a_here, b_here, x_here, ok_bind] at left right ⊢
  rw [left, ok_bind, right]
  rfl

/-- The number of rows of the first matrix is what all arrays must reach. -/
theorem kernel_ofFn (alpha beta : α) {a_cols b_rows b_cols k l p : Nat} (a b : Nat → Nat → α)
    (x tmp y : Nat → α) (a_wide : n ≤ a_cols) (b_tall : n ≤ b_rows) (b_wide : n ≤ b_cols)
    (x_long : n ≤ k) (tmp_long : n ≤ l) (y_long : n ≤ p) :
    let first := mulVecOnto n 0 a x
    let second := mulVecOnto n 0 b x
    kernel alpha beta ⟨.ofFn n a_cols a, .ofFn b_rows b_cols b, .ofFn k x, .ofFn l tmp, .ofFn p y⟩ =
      .ok ⟨.ofFn n a_cols a, .ofFn b_rows b_cols b, .ofFn k x, .ofFn l (Vec.withFront tmp n first),
        .ofFn p (Vec.withFront y n fun i => alpha * first i + beta * second i)⟩ := by
  intro first second
  simp only [kernel, Mat.rows_ofFn]
  let result (i : Nat) : α := alpha * first i + beta * second i
  let stage (i : Nat) : Vec α × Vec α :=
    (.ofFn l (Vec.withFront tmp i first), .ofFn p (Vec.withFront y i result))
  refine bind_eq_ok_iff.mpr ⟨stage n, ?_, rfl⟩
  apply sweep_stages stage (Nat.zero_le n)
  · simp only [stage, Vec.withFront_zero]
  · intro i _ row
    have tmp_inside : i < l := Nat.lt_of_lt_of_le row tmp_long
    have y_inside : i < p := Nat.lt_of_lt_of_le row y_long
    simp only [stage]
    rw [Vec.write_of_lt tmp_inside, ok_bind, Vec.write_of_lt y_inside, ok_bind]
    refine bind_eq_ok_iff.mpr
      ⟨_, gather_both row a_wide b_tall b_wide x_long tmp_long y_long, ?_⟩
    have first_formed : mulVecOnto n 0 a x i = first i := rfl
    have formed : alpha * first i + beta * second i = result i := rfl
    rw [first_formed, Vec.update_withFront, Vec.read_of_lt tmp_inside, ok_bind,
      Vec.withFront_of_lt (Nat.lt_succ_self i), Vec.modify_update y_inside, formed,
      Vec.update_withFront]
    rfl

end Order

end Gesummv

section Agreement

variable {α : Type} [Zero α] [Add α] [Mul α]

/-- The product that is handed on row by row is a transposed product, and the other one is kept. -/
theorem Atax.kernel_eq_bicg (commutes : ∀ x y : α, x * y = y * x) (a : Matrix (Fin m) (Fin n) α)
    (x : Fin n → α) :
    ∃ (y : Fin n → α) (tmp : Fin m → α),
      (∀ (y₀ : Fin n → α) (tmp₀ : Fin m → α),
        Atax.kernel ⟨.ofMatrix a, .ofVector x, .ofVector y₀, .ofVector tmp₀⟩ =
          .ok ⟨.ofMatrix a, .ofVector x, .ofVector y, .ofVector tmp⟩) ∧
      ∀ (s₀ : Fin n → α) (q₀ : Fin m → α),
        Bicg.kernel ⟨.ofMatrix a, .ofVector tmp, .ofVector x, .ofVector s₀, .ofVector q₀⟩ =
          .ok ⟨.ofMatrix a, .ofVector tmp, .ofVector x, .ofVector y, .ofVector tmp⟩ := by
  obtain ⟨a, rfl⟩ := Mat.exists_eq_block a
  obtain ⟨x, rfl⟩ := Vec.exists_eq_front x
  let product := mulVecOnto n 0 a x
  refine ⟨Vec.front n (mulVecOnto m 0 (fun i j => a j i) product), Vec.front m product, ?_, ?_⟩
  · intro y₀ tmp₀
    obtain ⟨y₀, rfl⟩ := Vec.exists_eq_front y₀
    obtain ⟨tmp₀, rfl⟩ := Vec.exists_eq_front tmp₀
    exact Atax.kernel_ofBlock a x y₀ tmp₀
  · intro s₀ q₀
    obtain ⟨s₀, rfl⟩ := Vec.exists_eq_front s₀
    obtain ⟨q₀, rfl⟩ := Vec.exists_eq_front q₀
    rw [Bicg.kernel_ofBlock, vecMulOnto_eq_mulVecOnto commutes]

/-- From cleared outputs, gathering by columns makes of the transposed product what scattering by
rows makes of it. -/
theorem Mvt.kernel_eq_bicg (commutes : ∀ x y : α, x * y = y * x) (a : Matrix (Fin n) (Fin n) α)
    (r p : Fin n → α) :
    ∃ s q : Fin n → α,
      (∀ s₀ q₀ : Fin n → α,
        Bicg.kernel ⟨.ofMatrix a, .ofVector r, .ofVector p, .ofVector s₀, .ofVector q₀⟩ =
          .ok ⟨.ofMatrix a, .ofVector r, .ofVector p, .ofVector s, .ofVector q⟩) ∧
      Mvt.kernel ⟨.ofMatrix a, .zeros n, .zeros n, .ofVector p, .ofVector r⟩ =
        .ok ⟨.ofMatrix a, .ofVector q, .ofVector s, .ofVector p, .ofVector r⟩ := by
  obtain ⟨a, rfl⟩ := Mat.exists_eq_block a
  obtain ⟨r, rfl⟩ := Vec.exists_eq_front r
  obtain ⟨p, rfl⟩ := Vec.exists_eq_front p
  refine ⟨Vec.front n (vecMulOnto n 0 r a), Vec.front n (mulVecOnto n 0 a p), ?_, ?_⟩
  · intro s₀ q₀
    obtain ⟨s₀, rfl⟩ := Vec.exists_eq_front s₀
    obtain ⟨q₀, rfl⟩ := Vec.exists_eq_front q₀
    exact Bicg.kernel_ofBlock a r p s₀ q₀
  · simp only [Mat.ofMatrix_block, Vec.ofVector_front, Vec.zeros_eq_ofFn]
    rw [kernel_ofFn a _ _ p r le_rfl le_rfl le_rfl le_rfl le_rfl, Vec.ofFn_withFront,
      Vec.ofFn_withFront, vecMulOnto_eq_mulVecOnto commutes]

/-- The two products of the sum are products with one matrix each. -/
theorem Gesummv.kernel_eq_bicg (alpha beta : α) (a b : Matrix (Fin n) (Fin n) α) (x : Fin n → α) :
    ∃ q_a q_b : Fin n → α,
      (∀ r q₀ s₀ : Fin n → α, ∃ s : Fin n → α,
        Bicg.kernel ⟨.ofMatrix a, .ofVector r, .ofVector x, .ofVector s₀, .ofVector q₀⟩ =
          .ok ⟨.ofMatrix a, .ofVector r, .ofVector x, .ofVector s, .ofVector q_a⟩) ∧
      (∀ r q₀ s₀ : Fin n → α, ∃ s : Fin n → α,
        Bicg.kernel ⟨.ofMatrix b, .ofVector r, .ofVector x, .ofVector s₀, .ofVector q₀⟩ =
          .ok ⟨.ofMatrix b, .ofVector r, .ofVector x, .ofVector s, .ofVector q_b⟩) ∧
      ∀ tmp₀ y₀ : Fin n → α,
        Gesummv.kernel alpha beta
            ⟨.ofMatrix a, .ofMatrix b, .ofVector x, .ofVector tmp₀, .ofVector y₀⟩ =
          .ok ⟨.ofMatrix a, .ofMatrix b, .ofVector x, .ofVector q_a,
            .ofVector fun i => alpha * q_a i + beta * q_b i⟩ := by
  obtain ⟨a, rfl⟩ := Mat.exists_eq_block a
  obtain ⟨b, rfl⟩ := Mat.exists_eq_block b
  obtain ⟨x, rfl⟩ := Vec.exists_eq_front x
  refine ⟨Vec.front n (mulVecOnto n 0 a x), Vec.front n (mulVecOnto n 0 b x), ?_, ?_, ?_⟩
  · exact Bicg.kernel_direct a x
  · exact Bicg.kernel_direct b x
  · intro tmp₀ y₀
    obtain ⟨tmp₀, rfl⟩ := Vec.exists_eq_front tmp₀
    obtain ⟨y₀, rfl⟩ := Vec.exists_eq_front y₀
    simp only [Mat.ofMatrix_block, Vec.ofVector_front]
    rw [kernel_ofFn alpha beta a b x tmp₀ y₀ le_rfl le_rfl le_rfl le_rfl le_rfl le_rfl,
      Vec.ofFn_withFront, Vec.ofFn_withFront]
    rfl

end Agreement

/-- Where multiplication commutes, and whatever other laws the operations obey, the product with the
transpose is the same whether a row of the matrix is scattered as soon as its own product is known,
in one pass with the direct product, or gathered by columns; the direct products are the same
without any law, and so is the weighted sum of two of them.  Over a commutative ring they are the
products of matrices and vectors.  Nowhere does the old content of the outputs matter. -/
theorem vector_products_agree :
    (∀ {α : Type} [Zero α] [Add α] [Mul α], (∀ x y : α, x * y = y * x) →
      (∀ {m n : Nat} (a : Matrix (Fin m) (Fin n) α) (x : Fin n → α),
        ∃ (y : Fin n → α) (tmp : Fin m → α),
          (∀ (y₀ : Fin n → α) (tmp₀ : Fin m → α),
            Atax.kernel ⟨.ofMatrix a, .ofVector x, .ofVector y₀, .ofVector tmp₀⟩ =
              .ok ⟨.ofMatrix a, .ofVector x, .ofVector y, .ofVector tmp⟩) ∧
          ∀ (s₀ : Fin n → α) (q₀ : Fin m → α),
            Bicg.kernel ⟨.ofMatrix a, .ofVector tmp, .ofVector x, .ofVector s₀, .ofVector q₀⟩ =
              .ok ⟨.ofMatrix a, .ofVector tmp, .ofVector x, .ofVector y, .ofVector tmp⟩) ∧
      (∀ {n : Nat} (a : Matrix (Fin n) (Fin n) α) (r p : Fin n → α),
        ∃ s q : Fin n → α,
          (∀ s₀ q₀ : Fin n → α,
            Bicg.kernel ⟨.ofMatrix a, .ofVector r, .ofVector p, .ofVector s₀, .ofVector q₀⟩ =
              .ok ⟨.ofMatrix a, .ofVector r, .ofVector p, .ofVector s, .ofVector q⟩) ∧
          Mvt.kernel ⟨.ofMatrix a, .zeros n, .zeros n, .ofVector p, .ofVector r⟩ =
            .ok ⟨.ofMatrix a, .ofVector q, .ofVector s, .ofVector p, .ofVector r⟩)) ∧
    (∀ {α : Type} [Zero α] [Add α] [Mul α] (alpha beta : α) {n : Nat}
        (a b : Matrix (Fin n) (Fin n) α) (x : Fin n → α),
      ∃ q_a q_b : Fin n → α,
        (∀ r q₀ s₀ : Fin n → α, ∃ s : Fin n → α,
          Bicg.kernel ⟨.ofMatrix a, .ofVector r, .ofVector x, .ofVector s₀, .ofVector q₀⟩ =
            .ok ⟨.ofMatrix a, .ofVector r, .ofVector x, .ofVector s, .ofVector q_a⟩) ∧
        (∀ r q₀ s₀ : Fin n → α, ∃ s : Fin n → α,
          Bicg.kernel ⟨.ofMatrix b, .ofVector r, .ofVector x, .ofVector s₀, .ofVector q₀⟩ =
            .ok ⟨.ofMatrix b, .ofVector r, .ofVector x, .ofVector s, .ofVector q_b⟩) ∧
        ∀ tmp₀ y₀ : Fin n → α,
          Gesummv.kernel alpha beta
              ⟨.ofMatrix a, .ofMatrix b, .ofVector x, .ofVector tmp₀, .ofVector y₀⟩ =
            .ok ⟨.ofMatrix a, .ofMatrix b, .ofVector x, .ofVector q_a,
              .ofVector fun i => alpha * q_a i + beta * q_b i⟩) ∧
    (∀ {R : Type} [CommRing R] {m n : Nat} (a : Matrix (Fin m) (Fin n) R),
      (∀ (r q₀ : Fin m → R) (p s₀ : Fin n → R),
        Bicg.kernel ⟨.ofMatrix a, .ofVector r, .ofVector p, .ofVector s₀, .ofVector q₀⟩ =
          .ok ⟨.ofMatrix a, .ofVector r, .ofVector p, .ofVector (a.transpose.mulVec r),
            .ofVector (a.mulVec p)⟩) ∧
      ∀ (x y₀ : Fin n → R) (tmp₀ : Fin m → R),
        Atax.kernel ⟨.ofMatrix a, .ofVector x, .ofVector y₀, .ofVector tmp₀⟩ =
          .ok ⟨.ofMatrix a, .ofVector x, .ofVector (a.transpose.mulVec (a.mulVec x)),
            .ofVector (a.mulVec x)⟩) := by
  refine ⟨?_, fun alpha beta _ => Gesummv.kernel_eq_bicg alpha beta, ?_⟩
  · intro α _ _ _ commutes
    exact ⟨Atax.kernel_eq_bicg commutes, Mvt.kernel_eq_bicg commutes⟩
  · intro R _ m n a
    exact ⟨Bicg.kernel_ofMatrix a, Atax.kernel_ofMatrix a⟩

/-- Three rows and two columns of integers, and a square of them, with something else in the place
of the products. -/
theorem vector_products_agree_on_integers :
    (∀ x y : ℤ, x * y = y * x) ∧
    Atax.kernel ⟨.ofMatrix !![1, 2; 3, 4; 5, 6], .ofVector ![7, (8 : ℤ)], .ofVector ![9, 9],
        .ofVector ![9, 9, 9]⟩ =
      .ok ⟨.ofMatrix !![1, 2; 3, 4; 5, 6], .ofVector ![7, 8], .ofVector ![597, 756],
        .ofVector ![23, 53, 83]⟩ ∧
    Bicg.kernel ⟨.ofMatrix !![1, 2; 3, 4; 5, 6], .ofVector ![23, 53, (83 : ℤ)], .ofVector ![7, 8],
        .ofVector ![9, 9], .ofVector ![9, 9, 9]⟩ =
      .ok ⟨.ofMatrix !![1, 2; 3, 4; 5, 6], .ofVector ![23, 53, 83], .ofVector ![7, 8],
        .ofVector ![597, 756], .ofVector ![23, 53, 83]⟩ ∧
    Mvt.kernel ⟨.ofMatrix !![1, 2; 3, (4 : ℤ)], .zeros 2, .zeros 2, .ofVector ![5, 6],
        .ofVector ![7, 8]⟩ =
      .ok ⟨.ofMatrix !![1, 2; 3, 4], .ofVector ![17, 39], .ofVector ![31, 46], .ofVector ![5, 6],
        .ofVector ![7, 8]⟩ := by
  obtain ⟨agree, -, exact_products⟩ := vector_products_agree
  obtain ⟨handed_on, gathered⟩ := agree Int.mul_comm
  obtain ⟨y, tmp, atax, bicg⟩ := handed_on !![1, 2; 3, 4; 5, 6] ![7, 8]
  obtain ⟨s, q, both, mvt⟩ := gathered !![1, 2; 3, 4] ![7, 8] ![5, 6]
  have atax_exact := (atax ![9, 9] ![9, 9, 9]).symm.trans ((exact_products _).2 _ _ _)
  have both_exact := (both ![9, 9] ![9, 9]).symm.trans ((exact_products _).1 _ _ _ _)
  simp only [Except.ok.injEq, Atax.Arrays.mk.injEq, Bicg.Arrays.mk.injEq, true_and]
    at atax_exact both_exact
  have tmp_eq : Vec.ofVector tmp = .ofVector ![23, 53, 83] := atax_exact.2.trans rfl
  have y_eq : Vec.ofVector y = .ofVector ![597, 756] := atax_exact.1.trans rfl
  have q_eq : Vec.ofVector q = .ofVector ![17, 39] := both_exact.2.trans rfl
  have s_eq : Vec.ofVector s = .ofVector ![31, 46] := both_exact.1.trans rfl
  rw [tmp_eq, y_eq] at atax bicg
  rw [q_eq, s_eq] at mvt
  exact ⟨Int.mul_comm, atax _ _, bicg _ _, mvt⟩

end Kernel
end DenseBench
