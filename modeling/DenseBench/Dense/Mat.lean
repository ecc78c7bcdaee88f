import DenseBench.Dense.Checked

/-!
# Matrices with checked access

A `Mat` keeps its elements row by row.  Each axis is checked on its own, so an index pair is a fault
as soon as either index reaches the extent of its axis, even where the flat position would exist.
Every matrix is `Mat.ofFn` of its elements, and each operation is described on that form.
-/

namespace DenseBench

/-- A matrix of `rows` times `cols` elements. -/
structure Mat (α : Type) where
  /-- Extent of the first axis. -/
  rows : Nat
  /-- Extent of the second axis. -/
  cols : Nat
  /-- The elements, row by row. -/
  data : Vector α (rows * cols)

namespace Mat

variable {α : Type}

/-- The flat position of an index pair inside the extents is inside the element count. -/
theorem position_lt {rows cols i j : Nat} (row : i < rows) (col : j < cols) :
    i * cols + j < rows * cols :=
  calc
    i * cols + j < i * cols + cols := Nat.add_lt_add_left col _
    _ = (i + 1) * cols := (Nat.succ_mul i cols).symm
    _ ≤ rows * cols := Nat.mul_le_mul_right _ row

/-- Different index pairs have different flat positions. -/
theorem position_inj {cols i j i' j' : Nat} (col : j < cols) (col' : j' < cols) :
    i * cols + j = i' * cols + j' ↔ i = i' ∧ j = j' := by
  constructor
  · intro same
    have positive : 0 < cols := Nat.zero_lt_of_lt col
    have row_eq : i = i' := by
      have quotients := congrArg (· / cols) same
      simpa [Nat.add_comm, Nat.add_mul_div_right, positive, Nat.div_eq_of_lt col,
        Nat.div_eq_of_lt col'] using quotients
    subst row_eq
    exact ⟨rfl, Nat.add_left_cancel same⟩
  · rintro ⟨rfl, rfl⟩
    rfl

/-- The row and the column of a flat position. -/
theorem position_split {cols i j : Nat} (col : j < cols) :
    (i * cols + j) / cols = i ∧ (i * cols + j) % cols = j := by
  have positive : 0 < cols := Nat.zero_lt_of_lt col
  constructor
  · rw [Nat.add_comm, Nat.add_mul_div_right _ _ positive, Nat.div_eq_of_lt col, Nat.zero_add]
  · rw [Nat.add_comm, Nat.add_mul_mod_self_right, Nat.mod_eq_of_lt col]

/-- The matrix whose element in row `i` and column `j` is `f i j`. -/
@[inline]
def ofFn (rows cols : Nat) (f : Nat → Nat → α) : Mat α :=
  ⟨rows, cols, Vector.ofFn fun position => f (position / cols) (position % cols)⟩

/-- As `ofFn`, for elements whose computation can fail: rows in order, each from left to right, up
to the first fault. -/
@[inline]
def tabulate (rows cols : Nat) (f : Nat → Nat → Checked α) : Checked (Mat α) :=
  (Vector.ofFnM fun position => f (position / cols) (position % cols)).map fun data =>
    ⟨rows, cols, data⟩

/-- The matrix with the same element everywhere. -/
def replicate (rows cols : Nat) (value : α) : Mat α :=
  ⟨rows, cols, Vector.replicate (rows * cols) value⟩

/-- The matrix of zeros. -/
def zeros [Zero α] (rows cols : Nat) : Mat α :=
  replicate rows cols 0

/-- Read the element in row `i` and column `j`. -/
@[inline]
def read (a : Mat α) (i j : Nat) : Checked α :=
  if inside : i < a.rows ∧ j < a.cols then
    have bound : i * a.cols + j < a.rows * a.cols := position_lt inside.1 inside.2
    .ok a.data[i * a.cols + j]
  else .error .indexOutOfBounds

/-- Replace the element in row `i` and column `j` by its image under `f`. -/
@[inline]
def modify (a : Mat α) (i j : Nat) (f : α → α) : Checked (Mat α) :=
  if inside : i < a.rows ∧ j < a.cols then
    let position := i * a.cols + j
    have bound : position < a.rows * a.cols := position_lt inside.1 inside.2
    .ok { a with data := a.data.set position (f a.data[position]) }
  else .error .indexOutOfBounds

/-- Replace the element in row `i` and column `j` by `value`. -/
@[inline]
def write (a : Mat α) (i j : Nat) (value : α) : Checked (Mat α) :=
  a.modify i j fun _ => value

/-- The elements, row by row. -/
def toArray (a : Mat α) : Array α :=
  a.data.toArray

@[simp]
theorem rows_ofFn (rows cols : Nat) (f : Nat → Nat → α) : (ofFn rows cols f).rows = rows := rfl

@[simp]
theorem cols_ofFn (rows cols : Nat) (f : Nat → Nat → α) : (ofFn rows cols f).cols = cols := rfl

@[simp]
theorem read_ofFn (rows cols : Nat) (f : Nat → Nat → α) (i j : Nat) :
    (ofFn rows cols f).read i j =
      if i < rows ∧ j < cols then .ok (f i j) else .error .indexOutOfBounds := by
  by_cases inside : i < rows ∧ j < cols
  · rw [if_pos inside, read, dif_pos (by exact inside)]
    simp [ofFn, position_split inside.2]
  · rw [if_neg inside, read, dif_neg (by exact inside)]

/-- A tabulated matrix depends only on the function's values inside the extents. -/
theorem ofFn_congr {rows cols : Nat} {f g : Nat → Nat → α}
    (agree : ∀ i j, i < rows → j < cols → f i j = g i j) : ofFn rows cols f = ofFn rows cols g := by
  refine congrArg (Mat.mk rows cols) (Vector.ext fun position bound => ?_)
  have positive : 0 < cols := Nat.pos_of_ne_zero fun none => by simp [none] at bound
  simpa using agree _ _ (Nat.div_lt_of_lt_mul (Nat.mul_comm rows cols ▸ bound))
    (Nat.mod_lt position positive)

private theorem set_position (rows cols : Nat) (f : Nat → Nat → α) (i j : Nat) (value : α)
    (row : i < rows) (col : j < cols) :
    (Vector.ofFn fun p : Fin (rows * cols) => f (p / cols) (p % cols)).set (i * cols + j) value
        (position_lt row col) =
      Vector.ofFn fun p : Fin (rows * cols) =>
        if p / cols = i ∧ p % cols = j then value else f (p / cols) (p % cols) := by
  refine Vector.ext fun p bound => ?_
  rw [Vector.getElem_set, Vector.getElem_ofFn, Vector.getElem_ofFn]
  have positive : 0 < cols := Nat.zero_lt_of_lt col
  have same : i * cols + j = p / cols * cols + p % cols ↔ i = p / cols ∧ j = p % cols :=
    position_inj col (Nat.mod_lt p positive)
  rw [Nat.mul_comm (p / cols), Nat.div_add_mod] at same
  simp only [same, eq_comm]

@[simp]
theorem modify_ofFn (rows cols : Nat) (f : Nat → Nat → α) (i j : Nat) (g : α → α) :
    (ofFn rows cols f).modify i j g =
      if i < rows ∧ j < cols then
        .ok (ofFn rows cols fun k l => if k = i ∧ l = j then g (f i j) else f k l)
      else .error .indexOutOfBounds := by
  by_cases inside : i < rows ∧ j < cols
  · rw [if_pos inside]
    refine (dif_pos inside).trans (congrArg (fun data => Except.ok (Mat.mk rows cols data)) ?_)
    simpa [ofFn, position_split inside.2] using
      set_position rows cols f i j (g (f i j)) inside.1 inside.2
  · rw [if_neg inside]
    exact dif_neg inside

theorem write_ofFn (rows cols : Nat) (f : Nat → Nat → α) (i j : Nat) (value : α) :
    (ofFn rows cols f).write i j value =
      if i < rows ∧ j < cols then
        .ok (ofFn rows cols fun k l => if k = i ∧ l = j then value else f k l)
      else .error .indexOutOfBounds := by
  simp [write]

theorem zeros_eq_ofFn [Zero α] (rows cols : Nat) :
    zeros rows cols = ofFn rows cols fun _ _ => (0 : α) := by
  exact congrArg (Mat.mk rows cols) (Vector.ext fun position bound => by simp)

/-- Elements none of which fails make the tabulated matrix. -/
theorem tabulate_eq_ok {rows cols : Nat} {f : Nat → Nat → Checked α} {g : Nat → Nat → α}
    (computed : ∀ i j, i < rows → j < cols → f i j = .ok (g i j)) :
    tabulate rows cols f = .ok (ofFn rows cols g) := by
  have elements : (fun p : Fin (rows * cols) => f (p / cols) (p % cols)) =
      fun p : Fin (rows * cols) => pure (g (p / cols) (p % cols)) := by
    funext p
    have positive : 0 < cols := Nat.pos_of_ne_zero fun none => by
      have bound := p.isLt
      simp [none] at bound
    exact computed _ _ (Nat.div_lt_of_lt_mul (Nat.mul_comm rows cols ▸ p.isLt))
      (Nat.mod_lt _ positive)
  rw [tabulate, elements, Vector.ofFnM_pure]
  rfl

/-- Every matrix is tabulated by some function on index pairs. -/
theorem exists_eq_ofFn [Zero α] (a : Mat α) :
    ∃ f : Nat → Nat → α, a = ofFn a.rows a.cols f := by
  obtain ⟨rows, cols, data⟩ := a
  refine ⟨fun i j => if inside : i * cols + j < rows * cols then data[i * cols + j] else 0, ?_⟩
  refine congrArg (Mat.mk rows cols) (Vector.ext fun position bound => ?_)
  have whole : position / cols * cols + position % cols = position := by
    rw [Nat.mul_comm]; exact Nat.div_add_mod position cols
  simp [whole, bound]

end Mat
end DenseBench
