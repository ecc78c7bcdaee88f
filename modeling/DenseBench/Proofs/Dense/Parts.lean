import DenseBench.Proofs.Dense.Fibres
import DenseBench.Proofs.Dense.Matrix

/-!
# Parts of arrays

The part of a vector up to an element, or of a matrix up to a row and a column, is cropped from it.
Pasting a part puts its elements in the place of those that it was cropped from, and leaves all the
others.
-/

namespace DenseBench

variable {α : Type}

namespace Vec

/-- The first `n` elements, or all of them if there are no more. -/
def crop (v : Vec α) (n : Nat) : Vec α :=
  ofVector fun i : Fin (min n v.size) => v.data.get (i.castLE (Nat.min_le_right n v.size))

/-- The vector that begins with the elements of a part and goes on as before. -/
def paste (v part : Vec α) : Vec α :=
  ofVector fun i : Fin v.size =>
    if inside : i < part.size then part.data.get ⟨i, inside⟩ else v.data.get i

variable {size n : Nat} {f g : Nat → α}

theorem exists_ofFn [Nonempty α] (v : Vec α) : ∃ (size : Nat) (f : Nat → α), v = ofFn size f := by
  obtain ⟨size, data⟩ := v
  obtain ⟨f, elements⟩ := exists_eq_front data.get
  refine ⟨size, f, congrArg (Vec.mk size) (Vector.ext fun i inside => ?_)⟩
  rw [Vector.getElem_ofFn]
  exact congrFun elements ⟨i, inside⟩

theorem get_ofFn (i : Fin size) : (ofFn size f).data.get i = f i :=
  Vector.getElem_ofFn i.isLt

theorem crop_ofFn : (ofFn size f).crop n = ofFn (min n size) f :=
  congrArg ofVector (funext fun _ => get_ofFn _)

theorem crop_of_le (long : n ≤ size) : (ofFn size f).crop n = ofFn n f := by
  rw [crop_ofFn, Nat.min_eq_left long]

theorem paste_ofFn : (ofFn size f).paste (ofFn n g) = ofFn size (withFront f n g) := by
  refine congrArg ofVector (funext fun i => ?_)
  by_cases inside : (i : Nat) < n
  · rw [dif_pos (by exact inside), withFront_of_lt inside]
    exact get_ofFn _
  · rw [dif_neg (by exact inside), withFront_of_le (Nat.not_lt.mp inside)]
    exact get_ofFn i

theorem paste_withFront :
    (ofFn size f).paste (ofFn n (withFront f n g)) = ofFn size (withFront f n g) := by
  rw [paste_ofFn]
  refine congrArg (ofFn size) (funext fun k => ?_)
  by_cases finished : k < n
  · rw [withFront_of_lt finished]
  · rw [withFront_of_le (Nat.not_lt.mp finished), withFront_of_le (Nat.not_lt.mp finished)]

theorem read_crop [Nonempty α] (v : Vec α) {i : Nat} (inside : i < n) :
    (v.crop n).read i = v.read i := by
  obtain ⟨size, f, rfl⟩ := v.exists_ofFn
  simp only [crop_ofFn, read_ofFn, Nat.lt_min, inside, true_and]

/-- Only the elements at the place of the part are others than before. -/
theorem read_paste [Nonempty α] {v part : Vec α} (fits : part.size ≤ v.size) (i : Nat) :
    (v.paste part).read i = if i < part.size then part.read i else v.read i := by
  obtain ⟨size, f, rfl⟩ := v.exists_ofFn
  obtain ⟨n, g, rfl⟩ := part.exists_ofFn
  simp only [size_ofFn] at fits
  simp only [paste_ofFn, read_ofFn, withFront, size_ofFn]
  by_cases inside : i < n
  · simp [inside, Nat.lt_of_lt_of_le inside fits]
  · simp [inside]

end Vec

namespace Mat

/-- The element in row `i` and column `j`. -/
def entry (a : Mat α) (i : Fin a.rows) (j : Fin a.cols) : α :=
  a.data.get ⟨i * a.cols + j, position_lt i.isLt j.isLt⟩

/-- The first `m` rows and `n` columns, or all of them if there are no more. -/
def crop (a : Mat α) (m n : Nat) : Mat α :=
  ofMatrix (.of fun (i : Fin (min m a.rows)) (j : Fin (min n a.cols)) =>
    a.entry (i.castLE (Nat.min_le_right m a.rows)) (j.castLE (Nat.min_le_right n a.cols)))

/-- The matrix with the elements of a part in its first rows and columns. -/
def paste (a part : Mat α) : Mat α :=
  ofMatrix (.of fun (i : Fin a.rows) (j : Fin a.cols) =>
    if inside : i < part.rows ∧ j < part.cols then part.entry ⟨i, inside.1⟩ ⟨j, inside.2⟩
    else a.entry i j)

variable {rows cols m n : Nat} {f g : Nat → Nat → α}

theorem exists_ofFn [Nonempty α] (a : Mat α) :
    ∃ (rows cols : Nat) (f : Nat → Nat → α), a = ofFn rows cols f := by
  obtain ⟨entries, laid_out⟩ := a.exists_eq_ofMatrix
  obtain ⟨f, rfl⟩ := exists_eq_block entries
  exact ⟨a.rows, a.cols, f, laid_out⟩

theorem entry_ofFn (i : Fin rows) (j : Fin cols) : (ofFn rows cols f).entry i j = f i j := by
  obtain ⟨row, col⟩ := position_split (i := i) j.isLt
  have stored : (ofFn rows cols f).entry i j = f ((i * cols + j) / cols) ((i * cols + j) % cols) :=
    Vector.getElem_ofFn (position_lt i.isLt j.isLt)
  rw [stored, row, col]

theorem crop_ofFn : (ofFn rows cols f).crop m n = ofFn (min m rows) (min n cols) f :=
  congrArg ofMatrix (funext₂ fun _ _ => entry_ofFn _ _)

theorem crop_of_le (tall : m ≤ rows) (wide : n ≤ cols) :
    (ofFn rows cols f).crop m n = ofFn m n f := by
  rw [crop_ofFn, Nat.min_eq_left tall, Nat.min_eq_left wide]

theorem paste_ofFn :
    (ofFn rows cols f).paste (ofFn m n g) = ofFn rows cols (withRows f m n g) := by
  have laid_out : ofFn rows cols (withRows f m n g) =
      ofMatrix (block rows cols (withRows f m n g)) := rfl
  rw [laid_out]
  refine congrArg ofMatrix (Matrix.ext fun i j => ?_)
  by_cases inside : (i : Nat) < m ∧ (j : Nat) < n
  · refine (dif_pos (by exact inside)).trans ((entry_ofFn _ _).trans ?_)
    exact (withRows_of_lt inside.1 inside.2).symm
  · refine (dif_neg (by exact inside)).trans ((entry_ofFn i j).trans ?_)
    exact (withRows_of_le (by omega)).symm

/-- Where the elements outside a part are the old ones, pasting it gives the whole. -/
theorem paste_of_agree
    (outside : ∀ i j, i < rows → j < cols → m ≤ i ∨ n ≤ j → g i j = f i j) :
    (ofFn rows cols f).paste (ofFn m n g) = ofFn rows cols g := by
  rw [paste_ofFn]
  apply ofFn_congr
  intro i j row col
  by_cases inside : i < m ∧ j < n
  · exact withRows_of_lt inside.1 inside.2
  · have beyond : m ≤ i ∨ n ≤ j := by omega
    rw [withRows_of_le beyond, outside i j row col beyond]

theorem paste_withRows :
    (ofFn rows cols f).paste (ofFn m n (withRows f m n g)) = ofFn rows cols (withRows f m n g) :=
  paste_of_agree fun _ _ _ _ outside => withRows_of_le outside

/-- A lower triangle has no elements to the right of a part with as many columns as rows. -/
theorem paste_staircase :
    (ofFn rows cols f).paste (ofFn n n (withFronts f n (· + 1) g)) =
      ofFn rows cols (withFronts f n (· + 1) g) :=
  paste_of_agree fun _ _ _ _ outside => withFronts_of_le (by omega)

theorem read_crop [Nonempty α] (a : Mat α) {i j : Nat} (row : i < m) (col : j < n) :
    (a.crop m n).read i j = a.read i j := by
  obtain ⟨rows, cols, f, rfl⟩ := a.exists_ofFn
  simp only [crop_ofFn, read_ofFn, Nat.lt_min, row, col, true_and]

/-- Only the elements at the place of the part are others than before. -/
theorem read_paste [Nonempty α] {a part : Mat α} (fits : part.rows ≤ a.rows ∧ part.cols ≤ a.cols)
    (i j : Nat) :
    (a.paste part).read i j =
      if i < part.rows ∧ j < part.cols then part.read i j else a.read i j := by
  obtain ⟨rows, cols, f, rfl⟩ := a.exists_ofFn
  obtain ⟨m, n, g, rfl⟩ := part.exists_ofFn
  obtain ⟨tall, wide⟩ := fits
  simp only [rows_ofFn, cols_ofFn] at tall wide
  simp only [paste_ofFn, read_ofFn, withRows, rows_ofFn, cols_ofFn]
  by_cases inside : i < m ∧ j < n
  · have here : i < rows ∧ j < cols := by omega
    simp [inside, here]
  · simp [inside]

end Mat

namespace Cube

theorem exists_ofFn [Nonempty α] (a : Cube α) :
    ∃ (planes rows cols : Nat) (f : Nat → Nat → Nat → α), a = ofFn planes rows cols f := by
  obtain ⟨planes, rows, cols, data⟩ := a
  obtain ⟨f, elements⟩ := Vec.exists_eq_front data.get
  refine ⟨planes, rows, cols, fun i j k => f ((i * rows + j) * cols + k), ?_⟩
  refine congrArg (Cube.mk planes rows cols) (Vector.ext fun position bound => ?_)
  simp only [Vector.getElem_ofFn, Nat.div_add_mod']
  exact congrFun elements ⟨position, bound⟩

end Cube
end DenseBench
