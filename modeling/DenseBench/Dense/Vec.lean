import DenseBench.Dense.Checked

/-!
# Vectors with checked access

A `Vec` is a row of elements of a known length.  Reading and writing outside it is a fault, never a
default value.  Every vector is `Vec.ofFn` of its elements, and each operation is described on that
form.
-/

namespace DenseBench

/-- A vector of `size` elements. -/
structure Vec (α : Type) where
  /-- How many elements there are. -/
  size : Nat
  /-- The elements, in order. -/
  data : Vector α size

namespace Vec

variable {α : Type}

/-- The vector whose element `i` is `f i`. -/
@[inline]
def ofFn (size : Nat) (f : Nat → α) : Vec α :=
  ⟨size, Vector.ofFn fun i => f i⟩

/-- As `ofFn`, for elements whose computation can fail, up to the first fault. -/
@[inline]
def tabulate (size : Nat) (f : Nat → Checked α) : Checked (Vec α) :=
  (Vector.ofFnM fun i : Fin size => f i).map fun data => ⟨size, data⟩

/-- The vector with the same element everywhere. -/
def replicate (size : Nat) (value : α) : Vec α :=
  ⟨size, Vector.replicate size value⟩

/-- The vector of zeros. -/
def zeros [Zero α] (size : Nat) : Vec α :=
  replicate size 0

/-- Read element `i`. -/
@[inline]
def read (v : Vec α) (i : Nat) : Checked α :=
  if inside : i < v.size then .ok v.data[i] else .error .indexOutOfBounds

/-- Replace element `i` by its image under `f`. -/
@[inline]
def modify (v : Vec α) (i : Nat) (f : α → α) : Checked (Vec α) :=
  if inside : i < v.size then
    .ok { v with data := v.data.set i (f v.data[i]) }
  else .error .indexOutOfBounds

/-- Replace element `i` by `value`. -/
@[inline]
def write (v : Vec α) (i : Nat) (value : α) : Checked (Vec α) :=
  v.modify i fun _ => value

/-- Replace every element by `value`. -/
def fill (v : Vec α) (value : α) : Vec α :=
  replicate v.size value

/-- The elements, in order. -/
def toArray (v : Vec α) : Array α :=
  v.data.toArray

/-- Elements none of which fails make the tabulated vector. -/
theorem tabulate_eq_ok {size : Nat} {f : Nat → Checked α} {g : Nat → α}
    (computed : ∀ i, i < size → f i = .ok (g i)) : tabulate size f = .ok (ofFn size g) := by
  have elements : (fun i : Fin size => f i) = fun i : Fin size => pure (g i) := by
    funext i
    exact computed i i.isLt
  rw [tabulate, elements, Vector.ofFnM_pure]
  rfl

@[simp]
theorem size_ofFn (size : Nat) (f : Nat → α) : (ofFn size f).size = size := rfl

@[simp]
theorem read_ofFn (size : Nat) (f : Nat → α) (i : Nat) :
    (ofFn size f).read i = if i < size then .ok (f i) else .error .indexOutOfBounds := by
  by_cases inside : i < size <;> simp [ofFn, read, inside]

/-- A tabulated vector depends only on the function's values inside the extent. -/
theorem ofFn_congr {size : Nat} {f g : Nat → α} (agree : ∀ i, i < size → f i = g i) :
    ofFn size f = ofFn size g := by
  exact congrArg (Vec.mk size) (Vector.ext fun i inside => by simpa using agree i inside)

private theorem set_tabulated (size : Nat) (f : Nat → α) (i : Nat) (value : α)
    (inside : i < size) :
    (Vector.ofFn fun k : Fin size => f k).set i value =
      Vector.ofFn fun k : Fin size => if k.val = i then value else f k := by
  refine Vector.ext fun k bound => ?_
  rw [Vector.getElem_set, Vector.getElem_ofFn, Vector.getElem_ofFn]
  simp only [eq_comm]

@[simp]
theorem modify_ofFn (size : Nat) (f : Nat → α) (i : Nat) (g : α → α) :
    (ofFn size f).modify i g =
      if i < size then .ok (ofFn size fun k => if k = i then g (f i) else f k)
      else .error .indexOutOfBounds := by
  by_cases inside : i < size
  · rw [if_pos inside]
    refine (dif_pos inside).trans (congrArg (fun data => Except.ok (Vec.mk size data)) ?_)
    simpa [ofFn] using set_tabulated size f i (g (f i)) inside
  · rw [if_neg inside]
    exact dif_neg inside

theorem write_ofFn (size : Nat) (f : Nat → α) (i : Nat) (value : α) :
    (ofFn size f).write i value =
      if i < size then .ok (ofFn size fun k => if k = i then value else f k)
      else .error .indexOutOfBounds := by
  simp [write]

theorem replicate_eq_ofFn (size : Nat) (value : α) :
    replicate size value = ofFn size fun _ => value := by
  exact congrArg (Vec.mk size) (Vector.ext fun i inside => by simp)

theorem fill_eq_ofFn (v : Vec α) (value : α) : v.fill value = ofFn v.size fun _ => value :=
  replicate_eq_ofFn v.size value

theorem zeros_eq_ofFn [Zero α] (size : Nat) : zeros size = ofFn size fun _ => (0 : α) :=
  replicate_eq_ofFn size 0

end Vec
end DenseBench
