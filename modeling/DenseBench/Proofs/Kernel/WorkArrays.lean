import DenseBench.Proofs.Dense.Shape
import DenseBench.Proofs.Kernel.ChainedProducts
import DenseBench.Proofs.Kernel.Correlation.Columns
import DenseBench.Proofs.Kernel.FibreProducts
import DenseBench.Proofs.Kernel.Substitution
import DenseBench.Proofs.Kernel.VectorProducts

/-!
# Work arrays

A kernel that keeps its results or its intermediate values in work arrays writes each of their
elements before it reads it.  So a call finds nothing of what was left there by earlier calls, and
where the other arrays are only read, the first call settles the work arrays for good.
-/

namespace DenseBench
namespace Kernel

open Success

section Calls

variable {σ ω : Type} {kernel : σ → Checked σ} {arrays : ω → σ}

/-- A call ends with the same arrays, whatever the work arrays held. -/
def Overwrites (kernel : σ → Checked σ) (arrays : ω → σ) : Prop :=
  ∃ after : σ, ∀ work : ω, kernel (arrays work) = .ok after

/-- A call ends with the same work arrays, whatever they held, and hands back all other arrays; any
number of calls ends as one call does. -/
def Settles (kernel : σ → Checked σ) (arrays : ω → σ) : Prop :=
  ∃ settled : ω, ∀ work : ω,
    kernel (arrays work) = .ok (arrays settled) ∧
    ∀ calls, 0 < calls → sweep 0 calls (arrays work) (fun _ => kernel) = .ok (arrays settled)

theorem Settles.of_call (settled : ω)
    (once : ∀ work : ω, kernel (arrays work) = .ok (arrays settled)) : Settles kernel arrays := by
  refine ⟨settled, fun work => ⟨once work, fun calls positive => ?_⟩⟩
  induction calls, positive using Nat.le_induction with
  | base => rw [sweep_one, once]
  | succ calls _ ih => rw [sweep_succ (Nat.zero_le calls), ih, ok_bind, once]

end Calls

variable {α : Type} {m n : Nat}

section Products

variable [Zero α] [Add α] [Mul α]

theorem TwoProducts.overwrites (alpha beta : α) {ni nj nk nl : Nat} (a : Matrix (Fin ni) (Fin nk) α)
    (b : Matrix (Fin nk) (Fin nj) α) (c : Matrix (Fin nj) (Fin nl) α)
    (d : Matrix (Fin ni) (Fin nl) α) :
    Overwrites (TwoProducts.kernel alpha beta) fun tmp : Matrix (Fin ni) (Fin nj) α =>
      ⟨.ofMatrix a, .ofMatrix b, .ofMatrix c, .ofMatrix d, .ofMatrix tmp⟩ := by
  obtain ⟨a, rfl⟩ := Mat.exists_eq_block a
  obtain ⟨b, rfl⟩ := Mat.exists_eq_block b
  obtain ⟨c, rfl⟩ := Mat.exists_eq_block c
  obtain ⟨d, rfl⟩ := Mat.exists_eq_block d
  apply Exists.intro
  intro tmp
  obtain ⟨tmp, rfl⟩ := Mat.exists_eq_block tmp
  simp only [Mat.ofMatrix_block]
  rw [kernel_ofFn alpha beta a b c d tmp le_rfl le_rfl le_rfl le_rfl le_rfl le_rfl,
    Mat.ofFn_withRows, Mat.ofFn_withRows]

theorem ThreeProducts.settles {ni nj nk nl nm : Nat} (a : Matrix (Fin ni) (Fin nk) α)
    (b : Matrix (Fin nk) (Fin nj) α) (c : Matrix (Fin nj) (Fin nm) α)
    (d : Matrix (Fin nm) (Fin nl) α) :
    Settles ThreeProducts.kernel
      fun efg : Matrix (Fin ni) (Fin nj) α × Matrix (Fin nj) (Fin nl) α ×
          Matrix (Fin ni) (Fin nl) α =>
        ⟨.ofMatrix a, .ofMatrix b, .ofMatrix c, .ofMatrix d, .ofMatrix efg.1, .ofMatrix efg.2.1,
          .ofMatrix efg.2.2⟩ := by
  obtain ⟨a, rfl⟩ := Mat.exists_eq_block a
  obtain ⟨b, rfl⟩ := Mat.exists_eq_block b
  obtain ⟨c, rfl⟩ := Mat.exists_eq_block c
  obtain ⟨d, rfl⟩ := Mat.exists_eq_block d
  let e := productOnto nk 0 a b
  let f := productOnto nm 0 c d
  let g := productOnto nj 0 e f
  apply Settles.of_call (Mat.block ni nj e, Mat.block nj nl f, Mat.block ni nl g)
  intro efg
  simp only [kernel, multiplyInto_ofBlock, ok_bind]
  rfl

theorem Atax.settles (a : Matrix (Fin m) (Fin n) α) (x : Fin n → α) :
    Settles Atax.kernel fun work : (Fin n → α) × (Fin m → α) =>
      ⟨.ofMatrix a, .ofVector x, .ofVector work.1, .ofVector work.2⟩ := by
  obtain ⟨a, rfl⟩ := Mat.exists_eq_block a
  obtain ⟨x, rfl⟩ := Vec.exists_eq_front x
  apply Settles.of_call (_, _)
  rintro ⟨y, tmp⟩
  obtain ⟨y, rfl⟩ := Vec.exists_eq_front y
  obtain ⟨tmp, rfl⟩ := Vec.exists_eq_front tmp
  exact kernel_ofBlock a x y tmp

theorem Bicg.settles (a : Matrix (Fin n) (Fin m) α) (r : Fin n → α) (p : Fin m → α) :
    Settles Bicg.kernel fun work : (Fin m → α) × (Fin n → α) =>
      ⟨.ofMatrix a, .ofVector r, .ofVector p, .ofVector work.1, .ofVector work.2⟩ := by
  obtain ⟨a, rfl⟩ := Mat.exists_eq_block a
  obtain ⟨r, rfl⟩ := Vec.exists_eq_front r
  obtain ⟨p, rfl⟩ := Vec.exists_eq_front p
  apply Settles.of_call (_, _)
  rintro ⟨s, q⟩
  obtain ⟨s, rfl⟩ := Vec.exists_eq_front s
  obtain ⟨q, rfl⟩ := Vec.exists_eq_front q
  exact kernel_ofBlock a r p s q

theorem Gesummv.settles (alpha beta : α) (a b : Matrix (Fin n) (Fin n) α) (x : Fin n → α) :
    Settles (Gesummv.kernel alpha beta) fun work : (Fin n → α) × (Fin n → α) =>
      ⟨.ofMatrix a, .ofMatrix b, .ofVector x, .ofVector work.1, .ofVector work.2⟩ := by
  obtain ⟨a, rfl⟩ := Mat.exists_eq_block a
  obtain ⟨b, rfl⟩ := Mat.exists_eq_block b
  obtain ⟨x, rfl⟩ := Vec.exists_eq_front x
  apply Settles.of_call (_, _)
  rintro ⟨tmp, y⟩
  obtain ⟨tmp, rfl⟩ := Vec.exists_eq_front tmp
  obtain ⟨y, rfl⟩ := Vec.exists_eq_front y
  simp only [Mat.ofMatrix_block, Vec.ofVector_front]
  rw [kernel_ofFn alpha beta a b x tmp y le_rfl le_rfl le_rfl le_rfl le_rfl le_rfl,
    Vec.ofFn_withFront, Vec.ofFn_withFront]
  rfl

/-- Without fibres nothing is written. -/
theorem Doitgen.overwrites {nr nq np : Nat} (a : Fin nr → Fin nq → Fin np → α)
    (c4 : Matrix (Fin np) (Fin np) α) (planes : 0 < nr) (rows : 0 < nq) :
    Overwrites Doitgen.kernel fun sum : Fin np → α =>
      ⟨.ofTensor a, .ofMatrix c4, .ofVector sum⟩ := by
  obtain ⟨a, rfl⟩ := Cube.exists_eq_corner a
  obtain ⟨c4, rfl⟩ := Mat.exists_eq_block c4
  apply Exists.intro
  intro sum
  obtain ⟨sum, rfl⟩ := Vec.exists_eq_front sum
  rw [kernel_ofCorner, held_of_last (Nat.sub_add_cancel planes) (Nat.sub_add_cancel rows)]

end Products

theorem Trisolv.settles [Zero α] [Mul α] [Sub α] [Div α] (l : Matrix (Fin n) (Fin n) α)
    (b : Fin n → α) :
    Settles Trisolv.kernel fun x : Fin n → α => ⟨.ofMatrix l, .ofVector x, .ofVector b⟩ := by
  obtain ⟨l, rfl⟩ := Mat.exists_eq_block l
  obtain ⟨b, rfl⟩ := Vec.exists_eq_front b
  obtain ⟨y, solved⟩ := exists_solved n l b
  apply Settles.of_call (Vec.front n y)
  intro x
  obtain ⟨x, rfl⟩ := Vec.exists_eq_front x
  have ended := kernel_ofFn x solved le_rfl le_rfl le_rfl
  rwa [Vec.ofFn_withFront] at ended

section Ordered

variable [Zero α] [One α] [Add α] [Sub α] [Mul α] [Div α] [LE α] [DecidableLE α]

theorem Correlation.overwrites (sqrt : α → α) (eps count : α) (subtraction : Subtraction)
    (data : Matrix (Fin n) (Fin m) α) :
    Overwrites (fun arrays => Correlation.kernel sqrt eps arrays subtraction)
      fun corr : Matrix (Fin m) (Fin m) α => ⟨count, .ofMatrix data, .ofMatrix corr⟩ := by
  obtain ⟨data, rfl⟩ := Mat.exists_eq_block data
  apply Exists.intro
  intro corr
  obtain ⟨corr, rfl⟩ := Mat.exists_eq_block corr
  simp only [Mat.ofMatrix_block]
  rw [kernel_ofFn sqrt eps count data corr subtraction le_rfl le_rfl, Mat.ofFn_withRows]

/-- No kernel looks at what its work arrays held before the call, as long as it writes to them at
all.  Where all other arrays are only read, any number of calls leaves what one call leaves.  All of
this holds bit for bit, as no law of the operations is used. -/
theorem work_arrays (sqrt : α → α) (alpha beta eps count : α) (subtraction : Subtraction) :
    (∀ {ni nj nk nl nm : Nat} (a : Matrix (Fin ni) (Fin nk) α) (b : Matrix (Fin nk) (Fin nj) α)
        (c : Matrix (Fin nj) (Fin nm) α) (d : Matrix (Fin nm) (Fin nl) α),
      Settles ThreeProducts.kernel
        fun efg : Matrix (Fin ni) (Fin nj) α × Matrix (Fin nj) (Fin nl) α ×
            Matrix (Fin ni) (Fin nl) α =>
          ⟨.ofMatrix a, .ofMatrix b, .ofMatrix c, .ofMatrix d, .ofMatrix efg.1, .ofMatrix efg.2.1,
            .ofMatrix efg.2.2⟩) ∧
    (∀ {ni nj nk nl : Nat} (a : Matrix (Fin ni) (Fin nk) α) (b : Matrix (Fin nk) (Fin nj) α)
        (c : Matrix (Fin nj) (Fin nl) α) (d : Matrix (Fin ni) (Fin nl) α),
      Overwrites (TwoProducts.kernel alpha beta) fun tmp : Matrix (Fin ni) (Fin nj) α =>
        ⟨.ofMatrix a, .ofMatrix b, .ofMatrix c, .ofMatrix d, .ofMatrix tmp⟩) ∧
    (∀ {m n : Nat} (a : Matrix (Fin m) (Fin n) α) (x : Fin n → α),
      Settles Atax.kernel fun work : (Fin n → α) × (Fin m → α) =>
        ⟨.ofMatrix a, .ofVector x, .ofVector work.1, .ofVector work.2⟩) ∧
    (∀ {m n : Nat} (a : Matrix (Fin n) (Fin m) α) (r : Fin n → α) (p : Fin m → α),
      Settles Bicg.kernel fun work : (Fin m → α) × (Fin n → α) =>
        ⟨.ofMatrix a, .ofVector r, .ofVector p, .ofVector work.1, .ofVector work.2⟩) ∧
    (∀ {n : Nat} (a b : Matrix (Fin n) (Fin n) α) (x : Fin n → α),
      Settles (Gesummv.kernel alpha beta) fun work : (Fin n → α) × (Fin n → α) =>
        ⟨.ofMatrix a, .ofMatrix b, .ofVector x, .ofVector work.1, .ofVector work.2⟩) ∧
    (∀ {n : Nat} (l : Matrix (Fin n) (Fin n) α) (b : Fin n → α),
      Settles Trisolv.kernel fun x : Fin n → α => ⟨.ofMatrix l, .ofVector x, .ofVector b⟩) ∧
    (∀ {m n : Nat} (data : Matrix (Fin n) (Fin m) α),
      Overwrites (fun arrays => Correlation.kernel sqrt eps arrays subtraction)
        fun corr : Matrix (Fin m) (Fin m) α => ⟨count, .ofMatrix data, .ofMatrix corr⟩) ∧
    (∀ {nr nq np : Nat} (a : Fin nr → Fin nq → Fin np → α) (c4 : Matrix (Fin np) (Fin np) α),
      0 < nr → 0 < nq →
      Overwrites Doitgen.kernel fun sum : Fin np → α =>
        ⟨.ofTensor a, .ofMatrix c4, .ofVector sum⟩) := by
  refine ⟨?_, ?_, ?_, ?_, ?_, ?_, ?_, ?_⟩
  · exact ThreeProducts.settles
  · exact TwoProducts.overwrites alpha beta
  · exact Atax.settles
  · exact Bicg.settles
  · exact Gesummv.settles alpha beta
  · exact Trisolv.settles
  · exact Correlation.overwrites sqrt eps count subtraction
  · exact Doitgen.overwrites

/-- The two elements of the only fibre are multiplied, and a product with a matrix of order two and
its transpose is formed any number of times. -/
theorem work_arrays_of_order_two :
    0 < 1 ∧
    (∀ sum : Fin 2 → ℤ,
      Doitgen.kernel ⟨.ofTensor ![![![1, 2]]], .ofMatrix !![1, 2; 3, 4], .ofVector sum⟩ =
        .ok ⟨.ofTensor ![![![7, 10]]], .ofMatrix !![1, 2; 3, 4], .ofVector ![7, 10]⟩) ∧
    (∀ (y tmp : Fin 2 → ℤ) (calls : Nat), 0 < calls →
      sweep 0 calls ⟨.ofMatrix !![1, 2; 3, 4], .ofVector ![1, 1], .ofVector y, .ofVector tmp⟩
          (fun _ => Atax.kernel) =
        .ok ⟨.ofMatrix !![1, 2; 3, 4], .ofVector ![1, 1], .ofVector ![24, 34],
          .ofVector ![3, 7]⟩) := by
  have some_fibre : 0 < 1 := Nat.zero_lt_one
  obtain ⟨-, -, atax, -, -, -, -, doitgen⟩ := work_arrays id (1 : ℤ) 1 0 1 .standard
  refine ⟨some_fibre, ?_, ?_⟩
  · intro sum
    obtain ⟨after, ends⟩ := doitgen ![![![1, 2]]] !![1, 2; 3, 4] some_fibre some_fibre
    have cleared : Doitgen.kernel ⟨.ofTensor ![![![1, 2]]], .ofMatrix !![1, 2; 3, 4],
        .ofVector (0 : Fin 2 → ℤ)⟩ =
      .ok ⟨.ofTensor ![![![7, 10]]], .ofMatrix !![1, 2; 3, 4], .ofVector ![7, 10]⟩ := rfl
    rw [ends sum, ← ends 0]
    exact cleared
  · intro y tmp calls positive
    obtain ⟨settled, ends⟩ := atax !![1, 2; 3, 4] ![1, 1]
    have cleared : Atax.kernel ⟨.ofMatrix !![1, 2; 3, 4], .ofVector ![1, 1],
        .ofVector (0 : Fin 2 → ℤ), .ofVector (0 : Fin 2 → ℤ)⟩ =
      .ok ⟨.ofMatrix !![1, 2; 3, 4], .ofVector ![1, 1], .ofVector ![24, 34],
        .ofVector ![3, 7]⟩ := rfl
    have repeated := (ends (y, tmp)).2 calls positive
    rw [← (ends (0, 0)).1] at repeated
    exact repeated.trans cleared

end Ordered
end Kernel
end DenseBench
