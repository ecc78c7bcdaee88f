import DenseBench.Dense.Mat

/-!
# Three-dimensional arrays with checked access

A `Cube` is a stack of matrices of one shape, kept plane by plane and row by row.  As for matrices,
each of the three axes is checked on its own, and every cube is `Cube.ofFn` of its elements.
-/

namespace DenseBench

/-- An array of `planes` times `rows` times `cols` elements. -/
structure Cube (α : Type) where
  /-- Extent of the first axis. -/
  planes : Nat
  /-- Extent of the second axis. -/
  rows : Nat
  /-- Extent of the third axis. -/
  cols : Nat
  /-- The elements, plane by plane and row by row. -/
  data : Vector α (planes * rows * cols)

namespace Cube

variable {α : Type}

/-- The flat position of an index triple inside the extents is inside the element count. -/
theorem position_lt {planes rows cols i j k : Nat} (plane : i < planes) (row : j < rows)
    (col : k < cols) : (i * rows + j) * cols + k < planes * rows * cols :=
  Mat.position_lt (Mat.position_lt plane row) col

/-- The cube whose element at `i`, `j`, `k` is `f i j k`. -/
@[inline]
def ofFn (planes rows cols : Nat) (f : Nat → Nat → Nat → α) : Cube α :=
  ⟨planes, rows, cols, Vector.ofFn fun position =>
    f (position / cols / rows) (position / cols % rows) (position % cols)⟩

/-- As `ofFn`, for elements whose computation can fail, up to the first fault. -/
@[inline]
def tabulate (planes rows cols : Nat) (f : Nat → Nat → Nat → Checked α) : Checked (Cube α) :=
  (Vector.ofFnM fun position : Fin (planes * rows * cols) =>
    f (position / cols / rows) (position / cols % rows) (position % cols)).map fun data =>
      ⟨planes, rows, cols, data⟩

/-- Read the element at `i`, `j`, `k`. -/
@[inline]
def read (a : Cube α) (i j k : Nat) : Checked α :=
  if inside : i < a.planes ∧ j < a.rows ∧ k < a.cols then
    have bound : (i * a.rows + j) * a.cols + k < a.planes * a.rows * a.cols :=
      position_lt inside.1 inside.2.1 inside.2.2
    .ok a.data[(i * a.rows + j) * a.cols + k]
  else .error .indexOutOfBounds

/-- Replace the element at `i`, `j`, `k` by `value`. -/
@[inline]
def write (a : Cube α) (i j k : Nat) (value : α) : Checked (Cube α) :=
  if inside : i < a.planes ∧ j < a.rows ∧ k < a.cols then
    let position := (i * a.rows + j) * a.cols + k
    have bound : position < a.planes * a.rows * a.cols :=
      position_lt inside.1 inside.2.1 inside.2.2
    .ok { a with data := a.data.set position value }
  else .error .indexOutOfBounds

/-- The elements, plane by plane and row by row. -/
def toArray (a : Cube α) : Array α :=
  a.data.toArray

/-- The three indices of a flat position. -/
theorem position_split {rows cols i j k : Nat} (row : j < rows) (col : k < cols) :
    ((i * rows + j) * cols + k) / cols / rows = i ∧
      ((i * rows + j) * cols + k) / cols % rows = j ∧ ((i * rows + j) * cols + k) % cols = k := by
  have outer := Mat.position_split (i := i * rows + j) col
  have inner := Mat.position_split (i := i) row
  simp only [outer, inner, and_self]

@[simp]
theorem planes_ofFn (planes rows cols : Nat) (f : Nat → Nat → Nat → α) :
    (ofFn planes rows cols f).planes = planes := rfl

@[simp]
theorem rows_ofFn (planes rows cols : Nat) (f : Nat → Nat → Nat → α) :
    (ofFn planes rows cols f).rows = rows := rfl

@[simp]
theorem cols_ofFn (planes rows cols : Nat) (f : Nat → Nat → Nat → α) :
    (ofFn planes rows cols f).cols = cols := rfl

@[simp]
theorem read_ofFn (planes rows cols : Nat) (f : Nat → Nat → Nat → α) (i j k : Nat) :
    (ofFn planes rows cols f).read i j k =
      if i < planes ∧ j < rows ∧ k < cols then .ok (f i j k) else .error .indexOutOfBounds := by
  by_cases inside : i < planes ∧ j < rows ∧ k < cols
  · rw [if_pos inside, read, dif_pos (by exact inside)]
    simp [ofFn, position_split inside.2.1 inside.2.2]
  · rw [if_neg inside, read, dif_neg (by exact inside)]

private theorem set_triple (planes rows cols : Nat) (f : Nat → Nat → Nat → α) (i j k : Nat)
    (value : α) (plane : i < planes) (row : j < rows) (col : k < cols) :
    (Vector.ofFn fun p : Fin (planes * rows * cols) =>
        f (p / cols / rows) (p / cols % rows) (p % cols)).set ((i * rows + j) * cols + k) value
        (position_lt plane row col) =
      Vector.ofFn fun p : Fin (planes * rows * cols) =>
        if p / cols / rows = i ∧ p / cols % rows = j ∧ p % cols = k then value
        else f (p / cols / rows) (p / cols % rows) (p % cols) := by
  refine Vector.ext fun p bound => ?_
  rw [Vector.getElem_set, Vector.getElem_ofFn, Vector.getElem_ofFn]
  have cols_positive : 0 < cols := Nat.zero_lt_of_lt col
  have rows_positive : 0 < rows := Nat.zero_lt_of_lt row
  have outer : (i * rows + j) * cols + k = p / cols * cols + p % cols ↔
      i * rows + j = p / cols ∧ k = p % cols :=
    Mat.position_inj col (Nat.mod_lt p cols_positive)
  have inner : i * rows + j = p / cols / rows * rows + p / cols % rows ↔
      i = p / cols / rows ∧ j = p / cols % rows :=
    Mat.position_inj row (Nat.mod_lt _ rows_positive)
  rw [Nat.mul_comm (p / cols) cols, Nat.div_add_mod] at outer
  rw [Nat.mul_comm (p / cols / rows) rows, Nat.div_add_mod] at inner
  simp only [outer, inner, eq_comm, and_assoc]

@[simp]
theorem write_ofFn (planes rows cols : Nat) (f : Nat → Nat → Nat → α) (i j k : Nat) (value : α) :
    (ofFn planes rows cols f).write i j k value =
      if i < planes ∧ j < rows ∧ k < cols then
        .ok (ofFn planes rows cols fun p q r =>
          if p = i ∧ q = j ∧ r = k then value else f p q r)
      else .error .indexOutOfBounds := by
  by_cases inside : i < planes ∧ j < rows ∧ k < cols
  · rw [if_pos inside]
    refine (dif_pos inside).trans
      (congrArg (fun data => Except.ok (Cube.mk planes rows cols data)) ?_)
    exact set_triple planes rows cols f i j k value inside.1 inside.2.1 inside.2.2
  · rw [if_neg inside]
    exact dif_neg inside

end Cube
end DenseBench
