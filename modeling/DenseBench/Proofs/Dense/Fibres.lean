import DenseBench.Dense.Cube
import DenseBench.Proofs.Dense.Elements
import DenseBench.Proofs.Dense.Entries

/-!
# Sweeps over the fibres of a three-dimensional array

A cube is a matrix whose entries are fibres, the functions of the third index.  So what a loop nest
has made of a cube is said in the words for matrices, with a fibre in the place of an entry and what
is finished of the fibre in the words for vectors.
-/

namespace DenseBench
namespace Cube

variable {α : Type} {planes rows cols i j k : Nat} {f : Nat → Nat → Nat → α}

theorem read_of_lt (plane : i < planes) (row : j < rows) (col : k < cols) :
    (ofFn planes rows cols f).read i j k = .ok (f i j k) := by
  simp [plane, row, col]

/-- A tabulated cube depends only on the function's values inside the extents. -/
theorem ofFn_congr {g : Nat → Nat → Nat → α}
    (agree : ∀ i j k, i < planes → j < rows → k < cols → f i j k = g i j k) :
    ofFn planes rows cols f = ofFn planes rows cols g := by
  refine congrArg (Cube.mk planes rows cols) (Vector.ext fun position bound => ?_)
  have cols_positive : 0 < cols := Nat.pos_of_ne_zero fun none => by simp [none] at bound
  have rows_positive : 0 < rows := Nat.pos_of_ne_zero fun none => by simp [none] at bound
  have fibre : position / cols < planes * rows :=
    Nat.div_lt_of_lt_mul (Nat.mul_comm (planes * rows) cols ▸ bound)
  simpa using agree _ _ _ (Nat.div_lt_of_lt_mul (Nat.mul_comm planes rows ▸ fibre))
    (Nat.mod_lt _ rows_positive) (Nat.mod_lt position cols_positive)

/-- Changing an element inside the extents changes nothing but one place of its fibre. -/
theorem write_of_lt (plane : i < planes) (row : j < rows) (col : k < cols) (value : α) :
    (ofFn planes rows cols f).write i j k value =
      .ok (ofFn planes rows cols (Mat.withEntry f i j (Function.update (f i j) k value))) := by
  simp only [write_ofFn, plane, row, col, and_self, if_true]
  refine congrArg (fun g => Except.ok (ofFn planes rows cols g)) ?_
  funext p q r
  by_cases here : p = i ∧ q = j
  · obtain ⟨rfl, rfl⟩ := here
    simp [Function.update_apply]
  · simp [Mat.withEntry, ← and_assoc, here]

/-- One fibre, replaced from its first place to its last. -/
theorem sweep_fibre {body : Nat → Cube α → Checked (Cube α)} (values : Nat → α) (plane : i < planes)
    (row : j < rows)
    (step : ∀ k g, k < cols →
      body k (ofFn planes rows cols g) = (ofFn planes rows cols g).write i j k (values k)) :
    sweep 0 cols (ofFn planes rows cols f) body =
      .ok (ofFn planes rows cols (Mat.withEntry f i j values)) := by
  let partly (k : Nat) : Nat → Nat → Nat → α :=
    Mat.withEntry f i j (Vec.withFront (f i j) k values)
  have whole : ofFn planes rows cols (Mat.withEntry f i j values) =
      ofFn planes rows cols (partly cols) := by
    apply ofFn_congr
    intro p q r _ _ col
    simp only [partly, Mat.withEntry]
    split
    next => exact (Vec.withFront_of_lt col).symm
    next => rfl
  rw [whole]
  apply sweep_stages (fun k => ofFn planes rows cols (partly k)) (Nat.zero_le cols)
  · simp only [partly, Vec.withFront_zero, Mat.withEntry_self]
  · intro k _ col
    simp only [partly]
    rw [step k _ col, write_of_lt plane row col, Mat.withEntry_same, Mat.withEntry_withEntry,
      Vec.update_withFront]

section Fibres

variable {values : Nat → Nat → Nat → α}

/-- The elements `f`, with `values` in the fibres before fibre `i`, `j`. -/
def withFibres (f : Nat → Nat → Nat → α) (rows : Nat) (values : Nat → Nat → Nat → α) (i j : Nat) :
    Nat → Nat → Nat → α :=
  Mat.withRow (Mat.withRows f i rows values) i j (values i)

theorem withFibres_zero : withFibres f rows values 0 0 = f := by
  rw [withFibres, Mat.withRow_zero, Mat.withRows_zero]

/-- The next fibre is as it was. -/
theorem withFibres_here : withFibres f rows values i j i j = f i j := by
  rw [withFibres, Mat.withRow_of_ne (.inr (Nat.le_refl j)),
    Mat.withRows_of_le (.inl (Nat.le_refl i))]

theorem withEntry_withFibres :
    Mat.withEntry (withFibres f rows values i j) i j (values i j) =
      withFibres f rows values i (j + 1) :=
  Mat.withEntry_withRow

/-- After the last fibre of a plane comes the first one of the next plane. -/
theorem withFibres_succ : withFibres f rows values (i + 1) 0 = withFibres f rows values i rows := by
  rw [withFibres, withFibres, Mat.withRow_zero, Mat.withRow_withRows]

/-- All fibres are replaced. -/
theorem ofFn_withFibres :
    ofFn planes rows cols (withFibres f rows values planes 0) = ofFn planes rows cols values := by
  apply ofFn_congr
  intro i j k plane row _
  rw [withFibres, Mat.withRow_zero, Mat.withRows_of_lt plane row]

end Fibres

section Stored

variable {l m n : Nat}

/-- The cube with these elements. -/
def ofTensor (elements : Fin l → Fin m → Fin n → α) : Cube α :=
  ⟨l, m, n, Vector.ofFn fun position =>
    elements position.divNat.divNat position.divNat.modNat position.modNat⟩

/-- The first elements of `f` along each axis. -/
def corner (l m n : Nat) (f : Nat → Nat → Nat → α) : Fin l → Fin m → Fin n → α :=
  fun i j k => f i j k

theorem ofTensor_corner (f : Nat → Nat → Nat → α) : ofTensor (corner l m n f) = ofFn l m n f := rfl

theorem exists_eq_corner [Nonempty α] (elements : Fin l → Fin m → Fin n → α) :
    ∃ f : Nat → Nat → Nat → α, elements = corner l m n f := by
  obtain ⟨outside⟩ := ‹Nonempty α›
  refine ⟨fun i j k => if inside : i < l ∧ j < m ∧ k < n then
    elements ⟨i, inside.1⟩ ⟨j, inside.2.1⟩ ⟨k, inside.2.2⟩ else outside, ?_⟩
  funext i j k
  simp [corner]

end Stored

end Cube
end DenseBench
