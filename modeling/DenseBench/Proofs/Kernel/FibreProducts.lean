import DenseBench.Kernel.Doitgen
import DenseBench.Proofs.Dense.Fibres
import DenseBench.Proofs.Dense.Matrix
import DenseBench.Proofs.Kernel.VectorProducts
import DenseBench.Proofs.Success
import Mathlib.LinearAlgebra.Matrix.Notation

/-!
# Products of the fibres with a matrix

The products of a fibre are formed beside it and copied back when none of them is missing, so they
are products of the fibre as it was given.  A fibre is looked at in its own turn only, and the
vector beside the cube holds the products of one fibre after the other.
-/

namespace DenseBench
namespace Kernel
namespace Doitgen

open Success

variable {α : Type} {nr nq np : Nat}

section Held

variable {sum : Nat → α} {products : Nat → Nat → Nat → α} {r q : Nat}

/-- What the vector holds when the products of fibre `r`, `q` are about to be formed: those of the
fibre before, or what was given. -/
def held (nq : Nat) (sum : Nat → α) (products : Nat → Nat → Nat → α) : Nat → Nat → Nat → α
  | r, q + 1 => products r q
  | r + 1, 0 => held nq sum products r nq
  | 0, 0 => sum

theorem held_zero : held nq sum products 0 0 = sum := by
  simp only [held]

theorem held_after : held nq sum products r (q + 1) = products r q := by
  simp only [held]

theorem held_succ : held nq sum products (r + 1) 0 = held nq sum products r nq := by
  simp only [held]

/-- The products of the last fibre are left. -/
theorem held_of_last (last_plane : r + 1 = nr) (last_row : q + 1 = nq) :
    held nq sum products nr 0 = products r q := by
  subst last_plane last_row
  rw [held_succ, held_after]

theorem held_of_empty (none : nr = 0 ∨ nq = 0) : held nq sum products nr 0 = sum := by
  induction nr with
  | zero => exact held_zero
  | succ r ih =>
      obtain rfl : nq = 0 := by simpa using none
      rw [held_succ]
      exact ih (.inr rfl)

end Held

variable [Zero α] [Add α] [Mul α]

/-- Multiply fibre `r`, `q`. -/
def multiplyFibre (np : Nat) (c4 : Mat α) (r q : Nat) :
    Cube α × Vec α → Checked (Cube α × Vec α)
  | (a, sum) => do
    let sum ← sweep 0 np sum fun p sum => do
      let sum ← sum.write p 0
      sweep 0 np sum fun s sum => do
        let term := (← a.read r q s) * (← c4.read s p)
        sum.modify p (· + term)
    let a ← sweep 0 np a fun p a => do
      a.write r q p (← sum.read p)
    return (a, sum)

theorem kernel_eq_multiplyFibre (a : Cube α) (c4 : Mat α) (sum : Vec α) :
    kernel ⟨a, c4, sum⟩ = (do
      let (a, sum) ← sweep 0 a.planes (a, sum) fun r state =>
        sweep 0 a.rows state (multiplyFibre a.cols c4 r)
      return ⟨a, c4, sum⟩) := rfl

/-- All products are formed from the fibre as it is before the first of them is copied back. -/
theorem multiplyFibre_ofFn {rows cols size r q : Nat} {f : Nat → Nat → Nat → α}
    {c4 : Nat → Nat → α} {g : Nat → α} (plane : r < nr) (row : q < nq) (tall : np ≤ rows)
    (wide : np ≤ cols) (long : np ≤ size) :
    let product := vecMulOnto np 0 (f r q) c4
    multiplyFibre np (.ofFn rows cols c4) r q (.ofFn nr nq np f, .ofFn size g) =
      .ok (.ofFn nr nq np (Mat.withEntry f r q product),
        .ofFn size (Vec.withFront g np product)) := by
  intro product
  refine bind_eq_ok_iff.mpr ⟨.ofFn size (Vec.withFront g np product), ?formed,
    bind_eq_ok_iff.mpr ⟨_, Cube.sweep_fibre product plane row ?copied, rfl⟩⟩
  case formed =>
    apply Vec.sweep_withFront
    intro p col
    have inside : p < size := Nat.lt_of_lt_of_le col long
    rw [Vec.write_of_lt inside, ok_bind]
    apply Vec.sweep_accumulate_written 0 (fun s => f r q s * c4 s p) inside
    intro s g within
    rw [Cube.read_of_lt plane row within, Mat.read_of_lt (by omega) (by omega)]
    rfl
  case copied =>
    intro p f col
    rw [Vec.read_of_lt (by omega), ok_bind, Vec.withFront_of_lt col]

/-- The matrix and the vector may be larger than a fibre. -/
theorem kernel_ofFn {rows cols size : Nat} (a : Nat → Nat → Nat → α) (c4 : Nat → Nat → α)
    (sum : Nat → α) (tall : np ≤ rows) (wide : np ≤ cols) (long : np ≤ size) :
    let products (r q : Nat) : Nat → α := vecMulOnto np 0 (a r q) c4
    kernel ⟨.ofFn nr nq np a, .ofFn rows cols c4, .ofFn size sum⟩ =
      .ok ⟨.ofFn nr nq np products, .ofFn rows cols c4,
        .ofFn size (Vec.withFront sum np (held nq sum products nr 0))⟩ := by
  intro products
  -- the fibres before `r`, `q` are replaced, and the vector holds the one before it
  let stage (r q : Nat) : Cube α × Vec α := (.ofFn nr nq np (Cube.withFibres a nq products r q),
    .ofFn size (Vec.withFront sum np (held nq sum products r q)))
  have multiplied : (sweep 0 nr (.ofFn nr nq np a, .ofFn size sum) fun r state =>
      sweep 0 nq state (multiplyFibre np (.ofFn rows cols c4) r)) = .ok (stage nr 0) := by
    apply sweep_stages (fun r => stage r 0) (Nat.zero_le nr)
    · simp only [stage, Cube.withFibres_zero, held_zero, Vec.withFront_self]
    · intro r _ plane
      have next_plane : stage (r + 1) 0 = stage r nq := by
        simp only [stage, Cube.withFibres_succ, held_succ]
      rw [next_plane]
      apply sweep_stages (stage r) (Nat.zero_le nq) rfl
      intro q _ row
      simp only [stage]
      rw [multiplyFibre_ofFn plane row tall wide long, Cube.withFibres_here,
        Vec.withFront_withFront, Cube.withEntry_withFibres, held_after]
  simp only [kernel_eq_multiplyFibre, Cube.planes_ofFn, Cube.rows_ofFn, Cube.cols_ofFn]
  rw [multiplied, ok_bind, ← Cube.ofFn_withFibres]
  rfl

theorem kernel_ofCorner (a : Nat → Nat → Nat → α) (c4 : Nat → Nat → α) (sum : Nat → α) :
    let products (r q : Nat) : Nat → α := vecMulOnto np 0 (a r q) c4
    kernel ⟨.ofTensor (Cube.corner nr nq np a), .ofMatrix (Mat.block np np c4),
        .ofVector (Vec.front np sum)⟩ =
      .ok ⟨.ofTensor (Cube.corner nr nq np products), .ofMatrix (Mat.block np np c4),
        .ofVector (Vec.front np (held nq sum products nr 0))⟩ := by
  simp only [Cube.ofTensor_corner, Mat.ofMatrix_block, Vec.ofVector_front]
  rw [kernel_ofFn a c4 sum le_rfl le_rfl le_rfl, Vec.ofFn_withFront]

theorem kernel_ofTensor {R : Type} [CommRing R] (a : Fin nr → Fin nq → Fin np → R)
    (c4 : Matrix (Fin np) (Fin np) R) (sum : Fin np → R) :
    ∃ last : Fin np → R,
      kernel ⟨.ofTensor a, .ofMatrix c4, .ofVector sum⟩ =
        .ok ⟨.ofTensor fun r q => Matrix.vecMul (a r q) c4, .ofMatrix c4, .ofVector last⟩ := by
  obtain ⟨a, rfl⟩ := Cube.exists_eq_corner a
  obtain ⟨c4, rfl⟩ := Mat.exists_eq_block c4
  obtain ⟨sum, rfl⟩ := Vec.exists_eq_front sum
  have products : Cube.corner nr nq np (fun r q => vecMulOnto np 0 (a r q) c4) = fun r q =>
      Matrix.vecMul (Cube.corner nr nq np a r q) (Mat.block np np c4) :=
    funext fun r => funext fun q => front_vecMulOnto (a r q) c4
  rw [← products]
  exact ⟨_, kernel_ofCorner a c4 sum⟩

/-- Every element becomes the sum of the products of its fibre, as the fibre was given, with a
column of the matrix, formed from zero in ascending order whatever laws the operations obey.  The
vector is left with the last fibre of the result, or as it was when there are no fibres.  Over a
commutative ring `t` successive calls multiply every fibre by the power `t` of the matrix. -/
theorem kernel_fibres :
    (∀ {α : Type} [Zero α] [Add α] [Mul α] {nr nq np : Nat} (a : Fin nr → Fin nq → Fin np → α)
        (c4 : Matrix (Fin np) (Fin np) α) (sum : Fin np → α),
      ∃ (products : Fin nr → Fin nq → Fin np → α) (last : Fin np → α),
        kernel ⟨.ofTensor a, .ofMatrix c4, .ofVector sum⟩ =
          .ok ⟨.ofTensor products, .ofMatrix c4, .ofVector last⟩ ∧
        (∀ r q p, products r q p = Fin.foldl np (fun sum s => sum + a r q s * c4 s p) 0) ∧
        (∀ (r : Fin nr) (q : Fin nq), r + 1 = nr → q + 1 = nq → last = products r q) ∧
        (nr = 0 ∨ nq = 0 → last = sum)) ∧
    (∀ {R : Type} [CommRing R] {nr nq np : Nat} (a : Fin nr → Fin nq → Fin np → R)
        (c4 : Matrix (Fin np) (Fin np) R) (sum : Fin np → R) (t : Nat),
      ∃ last : Fin np → R,
        sweep 0 t ⟨.ofTensor a, .ofMatrix c4, .ofVector sum⟩ (fun _ => kernel) =
          .ok ⟨.ofTensor fun r q => Matrix.vecMul (a r q) (c4 ^ t), .ofMatrix c4,
            .ofVector last⟩) := by
  constructor
  · intro α _ _ _ nr nq np a c4 sum
    have inhabited : Nonempty α := ⟨0⟩
    obtain ⟨a, rfl⟩ := Cube.exists_eq_corner a
    obtain ⟨c4, rfl⟩ := Mat.exists_eq_block c4
    obtain ⟨sum, rfl⟩ := Vec.exists_eq_front sum
    refine ⟨_, _, kernel_ofCorner a c4 sum, ?_, ?_, ?_⟩
    · intro r q p
      exact accumulate_eq_foldl
    · intro r q last_plane last_row
      rw [held_of_last last_plane last_row]
      rfl
    · intro none
      rw [held_of_empty none]
  · intro R _ nr nq np a c4 sum t
    induction t with
    | zero =>
        refine ⟨sum, ?_⟩
        simp only [pow_zero, Matrix.vecMul_one]
        rfl
    | succ t ih =>
        obtain ⟨last, before⟩ := ih
        rw [sweep_succ (Nat.zero_le t), before, ok_bind]
        simp only [pow_succ, ← Matrix.vecMul_vecMul]
        exact kernel_ofTensor _ c4 last

/-- Two planes of integers with one fibre each, and no planes at all. -/
theorem kernel_fibres_of_integers :
    kernel ⟨.ofTensor ![![![1, 2]], ![![3, 4]]], .ofMatrix !![1, 2; 3, (4 : ℤ)],
        .ofVector ![9, 9]⟩ =
      .ok ⟨.ofTensor ![![![7, 10]], ![![15, 22]]], .ofMatrix !![1, 2; 3, 4],
        .ofVector ![15, 22]⟩ ∧
    kernel ⟨.ofTensor (![] : Fin 0 → Fin 1 → Fin 2 → ℤ), .ofMatrix !![1, 2; 3, 4],
        .ofVector ![9, 9]⟩ =
      .ok ⟨.ofTensor (![] : Fin 0 → Fin 1 → Fin 2 → ℤ), .ofMatrix !![1, 2; 3, 4],
        .ofVector ![9, 9]⟩ := by
  constructor
  · obtain ⟨products, last, ended, formed, left, -⟩ :=
      kernel_fibres.1 ![![![1, 2]], ![![3, 4]]] !![1, 2; 3, (4 : ℤ)] ![9, 9]
    have products_eq : products = ![![![7, 10]], ![![15, 22]]] := by
      funext r q p
      rw [formed]
      fin_cases r <;> fin_cases q <;> fin_cases p <;> rfl
    rw [ended, left 1 0 rfl rfl, products_eq]
    rfl
  · obtain ⟨products, last, ended, -, -, left⟩ :=
      kernel_fibres.1 (![] : Fin 0 → Fin 1 → Fin 2 → ℤ) !![1, 2; 3, 4] ![9, 9]
    rw [ended, left (.inl rfl), Subsingleton.elim products ![]]

end Doitgen
end Kernel
end DenseBench
