import DenseBench.Dense.Cube
import DenseBench.Dense.Mat
import DenseBench.Dense.Vec
import DenseBench.Kernel.Scalar
import Mathlib.Tactic.Choose

/-!
# Computations without faults

A computation on arrays that stays inside their extents comes to its end.  The rules here follow the
way a loop nest is built: one for each access, one for a sequence and one for a sweep, whose
invariant is a property of the state that every step keeps.  For the arrays that property is the
shape, which no access changes.
-/

namespace DenseBench

variable {α β : Type}

/-- The computation ends without a fault, and its value is good. -/
def Yields (computation : Checked α) (good : α → Prop) : Prop :=
  ∃ value, computation = .ok value ∧ good value

namespace Yields

variable {good : α → Prop} {fine : β → Prop}

theorem pure {value : α} (holds : good value) : Yields (Pure.pure value) good :=
  ⟨value, rfl, holds⟩

theorem bind {first : Checked α} {next : α → Checked β} (yields : Yields first good)
    (carried : ∀ value, good value → Yields (next value) fine) : Yields (first >>= next) fine := by
  obtain ⟨value, rfl, holds⟩ := yields
  exact carried value holds

/-- What comes after a computation that ends may still fail, and then the whole fails. -/
theorem bind_error {first : Checked α} {next : α → Checked β} {fault : Fault}
    (yields : Yields first good) (failed : ∀ value, good value → next value = .error fault) :
    first >>= next = .error fault := by
  obtain ⟨value, rfl, holds⟩ := yields
  exact failed value holds

end Yields

theorem bind_of_error {first : Checked α} {next : α → Checked β} {fault : Fault}
    (failed : first = .error fault) : first >>= next = .error fault := by
  rw [failed]
  rfl

/-- A sweep ends if every step ends and keeps what the next one relies on. -/
theorem yields_sweep (kept : α → Prop) {first bound : Nat} {state : α}
    {body : Nat → α → Checked α} (initial : kept state)
    (carried : ∀ i s, first ≤ i → i < bound → kept s → Yields (body i s) kept) :
    Yields (sweep first bound state body) kept := by
  rcases Nat.le_total first bound with ordered | empty
  · exact sweep_invariant (fun _ => kept) ordered initial carried
  · exact ⟨state, sweep_of_le empty state body, initial⟩

theorem sweep_one (state : α) (body : Nat → α → Checked α) :
    sweep 0 1 state body = body 0 state := by
  rw [sweep_of_lt Nat.zero_lt_one]
  cases body 0 state <;> rfl

theorem yields_difference (subtraction : Subtraction) {n d : Nat} (ordered : d ≤ n) :
    Yields (subtraction.difference n d) fun difference => difference = n - d :=
  ⟨n - d, subtraction.exact n d ordered, rfl⟩

theorem yields_residue [NatCast α] [Div α] {n d scale : Nat} (positive : 0 < d) :
    Yields (Kernel.residue n d scale : Checked α) fun _ => True :=
  ⟨_, Kernel.residue_of_pos positive, trivial⟩

/-- Elements that are all computed make a vector. -/
theorem yields_ofFnM {count : Nat} {f : Fin count → Checked α}
    (computed : ∀ i, Yields (f i) fun _ => True) :
    Yields (Vector.ofFnM f) fun _ => True := by
  choose values ended _ using computed
  have elements : f = fun i => Pure.pure (values i) := funext ended
  rw [elements, Vector.ofFnM_pure]
  exact .pure trivial

/-- The first element decides: if it fails, nothing else is computed. -/
theorem ofFnM_of_first_fault {count : Nat} {f : Fin count → Checked α} {fault : Fault}
    (positive : 0 < count) (failed : f ⟨0, positive⟩ = .error fault) :
    Vector.ofFnM f = .error fault := by
  obtain ⟨rest, rfl⟩ := Nat.exists_eq_succ_of_ne_zero (Nat.pos_iff_ne_zero.mp positive)
  rw [Vector.ofFnM_succ', show f 0 = .error fault from failed]
  rfl

namespace Vec

/-- The vector has this many elements. -/
def HasSize (size : Nat) (v : Vec α) : Prop :=
  v.size = size

variable {size : Nat} {v : Vec α}

theorem hasSize_self (v : Vec α) : v.HasSize v.size := rfl

theorem hasSize_ofFn (f : Nat → α) : (ofFn size f).HasSize size := rfl

theorem hasSize_replicate (value : α) : (replicate size value).HasSize size := rfl

theorem hasSize_zeros [Zero α] : (zeros size : Vec α).HasSize size := rfl

theorem HasSize.fill (sized : v.HasSize size) (value : α) : (v.fill value).HasSize size :=
  sized

theorem HasSize.read (sized : v.HasSize size) {i : Nat} (inside : i < size) :
    Yields (v.read i) fun _ => True := by
  obtain rfl : v.size = size := sized
  exact ⟨_, dif_pos inside, trivial⟩

theorem HasSize.modify (sized : v.HasSize size) {i : Nat} (inside : i < size) (f : α → α) :
    Yields (v.modify i f) (HasSize size) := by
  obtain rfl : v.size = size := sized
  exact ⟨_, dif_pos inside, rfl⟩

theorem HasSize.write (sized : v.HasSize size) {i : Nat} (inside : i < size) (value : α) :
    Yields (v.write i value) (HasSize size) :=
  sized.modify inside _

theorem yields_tabulate {f : Nat → Checked α}
    (computed : ∀ i, i < size → Yields (f i) fun _ => True) :
    Yields (tabulate size f) (HasSize size) := by
  obtain ⟨data, ended, -⟩ := yields_ofFnM fun i : Fin size => computed i i.isLt
  refine ⟨⟨size, data⟩, ?_, rfl⟩
  rw [tabulate, ended]
  rfl

end Vec

namespace Mat

/-- The matrix has these extents. -/
structure HasShape (rows cols : Nat) (a : Mat α) : Prop where
  rows : a.rows = rows
  cols : a.cols = cols

/-- The matrix has this many rows and columns, or more. -/
def AtLeast (rows cols : Nat) (a : Mat α) : Prop :=
  rows ≤ a.rows ∧ cols ≤ a.cols

instance (rows cols : Nat) (a : Mat α) : Decidable (a.AtLeast rows cols) :=
  inferInstanceAs (Decidable (rows ≤ a.rows ∧ cols ≤ a.cols))

variable {rows cols : Nat} {a : Mat α}

theorem hasShape_self (a : Mat α) : a.HasShape a.rows a.cols :=
  ⟨rfl, rfl⟩

theorem hasShape_ofFn (f : Nat → Nat → α) : (ofFn rows cols f).HasShape rows cols :=
  ⟨rfl, rfl⟩

theorem hasShape_zeros [Zero α] : (zeros rows cols : Mat α).HasShape rows cols :=
  ⟨rfl, rfl⟩

theorem HasShape.read (shape : a.HasShape rows cols) {i j : Nat} (row : i < rows)
    (col : j < cols) : Yields (a.read i j) fun _ => True := by
  obtain ⟨rfl, rfl⟩ := shape
  exact ⟨_, dif_pos ⟨row, col⟩, trivial⟩

theorem HasShape.modify (shape : a.HasShape rows cols) {i j : Nat} (row : i < rows)
    (col : j < cols) (f : α → α) : Yields (a.modify i j f) (HasShape rows cols) := by
  obtain ⟨rfl, rfl⟩ := shape
  exact ⟨_, dif_pos ⟨row, col⟩, rfl, rfl⟩

theorem HasShape.write (shape : a.HasShape rows cols) {i j : Nat} (row : i < rows)
    (col : j < cols) (value : α) : Yields (a.write i j value) (HasShape rows cols) :=
  shape.modify row col _

/-- A flat position inside the element count is in one of the rows and one of the columns. -/
theorem split_lt {position : Nat} (inside : position < rows * cols) :
    position / cols < rows ∧ position % cols < cols := by
  have positive : 0 < cols := Nat.pos_of_mul_pos_left (Nat.zero_lt_of_lt inside)
  exact ⟨Nat.div_lt_of_lt_mul (Nat.mul_comm rows cols ▸ inside), Nat.mod_lt _ positive⟩

theorem yields_tabulate {f : Nat → Nat → Checked α}
    (computed : ∀ i j, i < rows → j < cols → Yields (f i j) fun _ => True) :
    Yields (tabulate rows cols f) (HasShape rows cols) := by
  have elements (position : Fin (rows * cols)) :
      Yields (f (position / cols) (position % cols)) fun _ => True := by
    obtain ⟨row, col⟩ := split_lt position.isLt
    exact computed _ _ row col
  obtain ⟨data, ended, -⟩ := yields_ofFnM elements
  refine ⟨⟨rows, cols, data⟩, ?_, rfl, rfl⟩
  rw [tabulate, ended]
  rfl

theorem tabulate_of_first_fault {f : Nat → Nat → Checked α} {fault : Fault}
    (some_row : 0 < rows) (some_col : 0 < cols) (failed : f 0 0 = .error fault) :
    tabulate rows cols f = .error fault := by
  have first : f (0 / cols) (0 % cols) = .error fault := by simpa using failed
  rw [tabulate, ofFnM_of_first_fault (Nat.mul_pos some_row some_col) first]
  rfl

end Mat

namespace Cube

/-- The array has these extents. -/
structure HasShape (planes rows cols : Nat) (a : Cube α) : Prop where
  planes : a.planes = planes
  rows : a.rows = rows
  cols : a.cols = cols

variable {planes rows cols : Nat} {a : Cube α}

theorem HasShape.read (shape : a.HasShape planes rows cols) {i j k : Nat} (plane : i < planes)
    (row : j < rows) (col : k < cols) : Yields (a.read i j k) fun _ => True := by
  obtain ⟨rfl, rfl, rfl⟩ := shape
  exact ⟨_, dif_pos ⟨plane, row, col⟩, trivial⟩

theorem HasShape.write (shape : a.HasShape planes rows cols) {i j k : Nat} (plane : i < planes)
    (row : j < rows) (col : k < cols) (value : α) :
    Yields (a.write i j k value) (HasShape planes rows cols) := by
  obtain ⟨rfl, rfl, rfl⟩ := shape
  exact ⟨_, dif_pos ⟨plane, row, col⟩, rfl, rfl, rfl⟩

theorem yields_tabulate {f : Nat → Nat → Nat → Checked α}
    (computed : ∀ i j k, i < planes → j < rows → k < cols → Yields (f i j k) fun _ => True) :
    Yields (tabulate planes rows cols f) (HasShape planes rows cols) := by
  have elements (position : Fin (planes * rows * cols)) :
      Yields (f (position / cols / rows) (position / cols % rows) (position % cols))
        fun _ => True := by
    obtain ⟨outer, col⟩ := Mat.split_lt position.isLt
    obtain ⟨plane, row⟩ := Mat.split_lt outer
    exact computed _ _ _ plane row col
  obtain ⟨data, ended, -⟩ := yields_ofFnM elements
  refine ⟨⟨planes, rows, cols, data⟩, ?_, rfl, rfl, rfl⟩
  rw [tabulate, ended]
  rfl

end Cube
end DenseBench
