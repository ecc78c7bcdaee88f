import DenseBench.Proofs.Kernel.Factorisation
import DenseBench.Proofs.Kernel.RankUpdate
import DenseBench.Proofs.Kernel.Substitution
import DenseBench.Proofs.Kernel.SymmetricProduct
import DenseBench.Proofs.Kernel.TriangularProduct

/-!
# Triangles that are never read

Two matrices that agree on one triangle stand for every content of the other one.  A kernel that
looks at one triangle of a factor ends with one result on both of them.  A kernel that updates a
lower triangle in place ends with one lower triangle, and hands back what stands above the diagonal.
-/

namespace DenseBench

variable {α : Type} {n : Nat}

namespace Mat

/-- The matrices have the same entries in this part of them. -/
def Agree (part : Nat → Nat → Prop) (a a' : Matrix (Fin n) (Fin n) α) : Prop :=
  ∀ i j : Fin n, part i j → a i j = a' i j

theorem agree_block {part : Nat → Nat → Prop} {f g : Nat → Nat → α} :
    Agree part (block n n f) (block n n g) ↔
      ∀ i j, i < n → j < n → part i j → f i j = g i j := by
  constructor
  · intro agree i j row col here
    exact agree ⟨i, row⟩ ⟨j, col⟩ here
  · intro agree i j here
    exact agree i j i.isLt j.isLt here

theorem agree_lower_block {f g : Nat → Nat → α} :
    Agree (· ≥ ·) (block n n f) (block n n g) ↔ ∀ i j, i < n → j ≤ i → f i j = g i j := by
  rw [agree_block]
  constructor
  · intro agree i j row lower
    exact agree i j row (Nat.lt_of_le_of_lt lower row) lower
  · intro agree i j row _ lower
    exact agree i j row lower

/-- The entries of `l` on and below the diagonal, and those of `c` above it. -/
def overlaid (l c : Matrix (Fin n) (Fin n) α) : Matrix (Fin n) (Fin n) α :=
  .of fun i j => if j ≤ i then l i j else c i j

theorem agree_lower_overlaid (l c : Matrix (Fin n) (Fin n) α) : Agree (· ≥ ·) (overlaid l c) l :=
  fun _ _ lower => if_pos lower

theorem agree_upper_overlaid (l c : Matrix (Fin n) (Fin n) α) : Agree (· < ·) (overlaid l c) c :=
  fun _ _ upper => if_neg (Nat.not_le.mpr upper)

end Mat

namespace Kernel

open Mat

section Runs

variable {σ β : Type}

/-- The kernel forms its result from this part of a factor.  It ends with the same one whatever
the rest of the factor holds, and hands the factor back. -/
def ReadsOnly (n : Nat) (part : Nat → Nat → Prop) (kernel : σ → Checked σ)
    (arrays : Mat α → β → σ) (given : β) : Prop :=
  ∀ a a' : Matrix (Fin n) (Fin n) α, Agree part a a' →
    ∃ result : β,
      kernel (arrays (.ofMatrix a) given) = .ok (arrays (.ofMatrix a) result) ∧
      kernel (arrays (.ofMatrix a') given) = .ok (arrays (.ofMatrix a') result)

/-- The kernel forms the lower triangle of its result from the lower triangle of the matrix that it
updates.  It hands back what the matrix holds above the diagonal, and all other arrays. -/
def ConfinedToLower (n : Nat) (kernel : σ → Checked σ) (arrays : Mat α → σ) : Prop :=
  ∀ c c' : Matrix (Fin n) (Fin n) α, Agree (· ≥ ·) c c' →
    ∃ f f' : Matrix (Fin n) (Fin n) α,
      kernel (arrays (.ofMatrix c)) = .ok (arrays (.ofMatrix f)) ∧
      kernel (arrays (.ofMatrix c')) = .ok (arrays (.ofMatrix f')) ∧
      Agree (· ≥ ·) f f' ∧ Agree (· < ·) f c ∧ Agree (· < ·) f' c'

theorem ConfinedToLower.of_overlaid {kernel : σ → Checked σ} {arrays : Mat α → σ}
    (updated : ∀ c c' : Matrix (Fin n) (Fin n) α, Agree (· ≥ ·) c c' →
      ∃ l l' : Matrix (Fin n) (Fin n) α, Agree (· ≥ ·) l l' ∧
        kernel (arrays (.ofMatrix c)) = .ok (arrays (.ofMatrix (overlaid l c))) ∧
        kernel (arrays (.ofMatrix c')) = .ok (arrays (.ofMatrix (overlaid l' c')))) :
    ConfinedToLower n kernel arrays := by
  intro c c' agree
  obtain ⟨l, l', same, ended, ended'⟩ := updated c c' agree
  refine ⟨_, _, ended, ended', ?_, agree_upper_overlaid l c, agree_upper_overlaid l' c'⟩
  intro i j lower
  rw [agree_lower_overlaid l c i j lower, agree_lower_overlaid l' c' i j lower, same i j lower]

end Runs

variable {m : Nat}

section Products

variable [Zero α] [Add α] [Mul α]

theorem Symm.readsOnly (alpha beta : α) (b c : Matrix (Fin m) (Fin n) α) :
    ReadsOnly m (· ≥ ·) (Symm.kernel alpha beta) (fun a c => ⟨c, a, .ofMatrix b⟩)
      (Mat.ofMatrix c) := by
  intro a a' agree
  have inhabited : Nonempty α := ⟨0⟩
  obtain ⟨a, rfl⟩ := exists_eq_block a
  obtain ⟨a', rfl⟩ := exists_eq_block a'
  obtain ⟨b, rfl⟩ := exists_eq_block b
  obtain ⟨c, rfl⟩ := exists_eq_block c
  have same : formed alpha beta c a b m = formed alpha beta c a' b m :=
    funext₂ fun _ _ => formed_congr (agree_lower_block.mp agree)
  refine ⟨.ofMatrix (block m n (formed alpha beta c a b m)), ?_, ?_⟩
  · exact kernel_ofFn alpha beta c a b le_rfl le_rfl le_rfl le_rfl
  · rw [same]
    exact kernel_ofFn alpha beta c a' b le_rfl le_rfl le_rfl le_rfl

theorem Trmm.readsOnly (alpha : α) (b : Matrix (Fin m) (Fin n) α) :
    ReadsOnly m (· > ·) (Trmm.kernel alpha) (fun a b => ⟨a, b⟩) (Mat.ofMatrix b) := by
  intro a a' agree
  have inhabited : Nonempty α := ⟨0⟩
  obtain ⟨a, rfl⟩ := exists_eq_block a
  obtain ⟨a', rfl⟩ := exists_eq_block a'
  obtain ⟨b, rfl⟩ := exists_eq_block b
  have same : formed alpha m a b = formed alpha m a' b :=
    funext₂ fun _ _ => formed_congr fun k i below left =>
      agree_block.mp agree k i below (left.trans below) left
  refine ⟨.ofMatrix (block m n (formed alpha m a b)), ?_, ?_⟩
  · exact kernel_ofFn alpha a b le_rfl (Nat.sub_le m 1)
  · rw [same]
    exact kernel_ofFn alpha a' b le_rfl (Nat.sub_le m 1)

theorem Syrk.confined (alpha beta : α) (a : Matrix (Fin n) (Fin m) α) :
    ConfinedToLower n (Syrk.kernel alpha beta) fun c => ⟨c, .ofMatrix a⟩ := by
  apply ConfinedToLower.of_overlaid
  intro c c' agree
  have inhabited : Nonempty α := ⟨0⟩
  obtain ⟨a, rfl⟩ := exists_eq_block a
  obtain ⟨c, rfl⟩ := exists_eq_block c
  obtain ⟨c', rfl⟩ := exists_eq_block c'
  refine ⟨_, _, ?_, kernel_ofBlock alpha beta c a, kernel_ofBlock alpha beta c' a⟩
  intro i j lower
  have start : c i j = c' i j := agree i j lower
  simp only [block_apply, Gemm.formed, start]

theorem Syr2k.confined (alpha beta : α) (a b : Matrix (Fin n) (Fin m) α) :
    ConfinedToLower n (Syr2k.kernel alpha beta) fun c => ⟨c, .ofMatrix a, .ofMatrix b⟩ := by
  apply ConfinedToLower.of_overlaid
  intro c c' agree
  have inhabited : Nonempty α := ⟨0⟩
  obtain ⟨a, rfl⟩ := exists_eq_block a
  obtain ⟨b, rfl⟩ := exists_eq_block b
  obtain ⟨c, rfl⟩ := exists_eq_block c
  obtain ⟨c', rfl⟩ := exists_eq_block c'
  refine ⟨_, _, ?_, kernel_ofBlock alpha beta c a b, kernel_ofBlock alpha beta c' a b⟩
  intro i j lower
  have start : c i j = c' i j := agree i j lower
  simp only [block_apply, formed, start]

end Products

section Quotients

variable [Zero α] [Sub α] [Mul α] [Div α]

theorem Trisolv.readsOnly (b x : Fin n → α) :
    ReadsOnly n (· ≥ ·) Trisolv.kernel (fun l x => ⟨l, x, .ofVector b⟩) (Vec.ofVector x) := by
  intro l l' agree
  have inhabited : Nonempty α := ⟨0⟩
  obtain ⟨l, rfl⟩ := exists_eq_block l
  obtain ⟨l', rfl⟩ := exists_eq_block l'
  obtain ⟨b, rfl⟩ := Vec.exists_eq_front b
  obtain ⟨x, rfl⟩ := Vec.exists_eq_front x
  obtain ⟨y, solved⟩ := exists_solved n l b
  have solved' : Solved n l' b y := solved.congr (agree_lower_block.mp agree)
  refine ⟨.ofFn n (Vec.withFront x n y), ?_, ?_⟩
  · exact kernel_ofFn x solved le_rfl le_rfl le_rfl
  · exact kernel_ofFn x solved' le_rfl le_rfl le_rfl

theorem Cholesky.confined (sqrt : α → α) :
    ConfinedToLower n (Cholesky.kernel sqrt) fun a => ⟨a⟩ := by
  apply ConfinedToLower.of_overlaid
  intro a a' agree
  have inhabited : Nonempty α := ⟨0⟩
  obtain ⟨a, rfl⟩ := exists_eq_block a
  obtain ⟨a', rfl⟩ := exists_eq_block a'
  obtain ⟨l, factored⟩ := exists_factored sqrt n a
  have factored' : Factored sqrt n a' l := factored.congr (agree_lower_block.mp agree)
  refine ⟨block n n l, block n n l, fun _ _ _ => rfl, ?_, ?_⟩
  · exact kernel_ofFn factored le_rfl
  · exact kernel_ofFn factored' le_rfl

end Quotients

/-- The symmetric product and forward substitution use the lower triangle of their factor, and the
triangular product what lies below the diagonal.  The factorisation and the rank updates neither
use nor change what lies above the diagonal of the matrix that they update.  All of this holds bit
for bit, as no law of the operations is used. -/
theorem unused_triangles [Zero α] [Add α] [Sub α] [Mul α] [Div α] (alpha beta : α)
    (sqrt : α → α) :
    (∀ b c : Matrix (Fin m) (Fin n) α,
      ReadsOnly m (· ≥ ·) (Symm.kernel alpha beta) (fun a c => ⟨c, a, .ofMatrix b⟩)
        (Mat.ofMatrix c)) ∧
    (∀ b : Matrix (Fin m) (Fin n) α,
      ReadsOnly m (· > ·) (Trmm.kernel alpha) (fun a b => ⟨a, b⟩) (Mat.ofMatrix b)) ∧
    (∀ b x : Fin n → α,
      ReadsOnly n (· ≥ ·) Trisolv.kernel (fun l x => ⟨l, x, .ofVector b⟩) (Vec.ofVector x)) ∧
    (ConfinedToLower n (Cholesky.kernel sqrt) fun a => ⟨a⟩) ∧
    (∀ a : Matrix (Fin n) (Fin m) α,
      ConfinedToLower n (Syrk.kernel alpha beta) fun c => ⟨c, .ofMatrix a⟩) ∧
    (∀ a b : Matrix (Fin n) (Fin m) α,
      ConfinedToLower n (Syr2k.kernel alpha beta) fun c => ⟨c, .ofMatrix a, .ofMatrix b⟩) := by
  refine ⟨?_, ?_, ?_, ?_, ?_, ?_⟩
  · exact Symm.readsOnly alpha beta
  · exact Trmm.readsOnly alpha
  · exact Trisolv.readsOnly
  · exact Cholesky.confined sqrt
  · exact Syrk.confined alpha beta
  · exact Syr2k.confined alpha beta

/-- Matrices of order two with nine or minus nine above the diagonal; half of four is its root. -/
theorem unused_triangles_of_order_two :
    Symm.kernel 2 3 ⟨.ofMatrix !![1, 0; 1, 0], .ofMatrix !![1, 9; 2, (3 : ℤ)],
        .ofMatrix !![5, 1; 7, 0]⟩ =
      .ok ⟨.ofMatrix !![41, 2; 65, 4], .ofMatrix !![1, 9; 2, 3], .ofMatrix !![5, 1; 7, 0]⟩ ∧
    Symm.kernel 2 3 ⟨.ofMatrix !![1, 0; 1, 0], .ofMatrix !![1, -9; 2, (3 : ℤ)],
        .ofMatrix !![5, 1; 7, 0]⟩ =
      .ok ⟨.ofMatrix !![41, 2; 65, 4], .ofMatrix !![1, -9; 2, 3], .ofMatrix !![5, 1; 7, 0]⟩ ∧
    Cholesky.kernel (· / 2) ⟨.ofMatrix !![4, 9; 2, (5 : ℤ)]⟩ = .ok ⟨.ofMatrix !![2, 9; 1, 2]⟩ ∧
    Cholesky.kernel (· / 2) ⟨.ofMatrix !![4, -9; 2, (5 : ℤ)]⟩ = .ok ⟨.ofMatrix !![2, -9; 1, 2]⟩ := by
  obtain ⟨symm, -, -, cholesky, -⟩ := unused_triangles (m := 2) (n := 2) (2 : ℤ) 3 (· / 2)
  have multiplied : Symm.kernel 2 3 ⟨.ofMatrix !![1, 0; 1, 0], .ofMatrix !![1, 9; 2, (3 : ℤ)],
      .ofMatrix !![5, 1; 7, 0]⟩ =
    .ok ⟨.ofMatrix !![41, 2; 65, 4], .ofMatrix !![1, 9; 2, 3], .ofMatrix !![5, 1; 7, 0]⟩ := rfl
  have factored : Cholesky.kernel (· / 2) ⟨.ofMatrix !![4, 9; 2, (5 : ℤ)]⟩ =
    .ok ⟨.ofMatrix !![2, 9; 1, 2]⟩ := rfl
  refine ⟨multiplied, ?_, factored, ?_⟩
  · have agree : Agree (· ≥ ·) !![1, 9; 2, (3 : ℤ)] !![1, -9; 2, 3] := by
      intro i j
      fin_cases i <;> fin_cases j <;> simp
    obtain ⟨result, ended, ended'⟩ := symm !![5, 1; 7, 0] !![1, 0; 1, 0] _ _ agree
    have same : Mat.ofMatrix !![41, 2; 65, 4] = result :=
      congrArg Symm.Arrays.c (Except.ok.inj (multiplied.symm.trans ended))
    rw [same]
    exact ended'
  · have agree : Agree (· ≥ ·) !![4, 9; 2, (5 : ℤ)] !![4, -9; 2, 5] := by
      intro i j
      fin_cases i <;> fin_cases j <;> simp
    obtain ⟨f, f', ended, ended', lower, -, upper⟩ := cholesky _ _ agree
    have same : !![2, 9; 1, 2] = f :=
      ofMatrix_inj.mp (congrArg Cholesky.Arrays.a (Except.ok.inj (factored.symm.trans ended)))
    have f'_eq : f' = !![2, -9; 1, 2] := by
      ext i j
      rcases Nat.lt_or_ge i j with above | below
      · rw [upper i j above]
        fin_cases i <;> fin_cases j <;> simp at above ⊢
      · rw [← lower i j below, ← same]
        fin_cases i <;> fin_cases j <;> simp at below ⊢
    rw [← f'_eq]
    exact ended'

end Kernel
end DenseBench
