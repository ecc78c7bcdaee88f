import DenseBench.Dense.Mat
import DenseBench.Proofs.Dense.Accumulation

/-!
# Sweeps over the entries of a matrix

A matrix is described by the function of its entries, and a loop nest by what it has made of that
function so far: one entry is being formed, a row is finished up to a column, or rows are finished
from the top.  Each sweep leads from one of these descriptions to the next.
-/

namespace DenseBench
namespace Mat

variable {α : Type} {rows cols m n i j : Nat} {f : Nat → Nat → α}

theorem read_of_lt (row : i < rows) (col : j < cols) :
    (ofFn rows cols f).read i j = .ok (f i j) := by
  simp [row, col]

section Entry

variable {value : α}

/-- The entries `f`, with `value` in row `i` and column `j`. -/
def withEntry (f : Nat → Nat → α) (i j : Nat) (value : α) (r c : Nat) : α :=
  if r = i ∧ c = j then value else f r c

@[simp]
theorem withEntry_self : withEntry f i j (f i j) = f := by
  funext r c
  simp only [withEntry]
  split
  next here => rw [here.1, here.2]
  next => rfl

@[simp]
theorem withEntry_same : withEntry f i j value i j = value := by
  simp [withEntry]

theorem withEntry_of_ne {r c : Nat} (elsewhere : r ≠ i ∨ c ≠ j) :
    withEntry f i j value r c = f r c :=
  if_neg (by omega)

@[simp]
theorem withEntry_withEntry (first : α) :
    withEntry (withEntry f i j first) i j value = withEntry f i j value := by
  funext r c
  simp only [withEntry]
  split <;> rfl

/-- Changing an entry inside the extents changes nothing else. -/
theorem modify_of_lt (row : i < rows) (col : j < cols) (g : α → α) :
    (ofFn rows cols f).modify i j g = .ok (ofFn rows cols (withEntry f i j (g (f i j)))) := by
  simp only [modify_ofFn, row, col, and_self, if_true]
  rfl

theorem write_of_lt (row : i < rows) (col : j < cols) (value : α) :
    (ofFn rows cols f).write i j value = .ok (ofFn rows cols (withEntry f i j value)) :=
  modify_of_lt row col _

/-- Changing an entry that is being formed. -/
theorem modify_withEntry (row : i < rows) (col : j < cols) (g : α → α) :
    (ofFn rows cols (withEntry f i j value)).modify i j g =
      .ok (ofFn rows cols (withEntry f i j (g value))) := by
  rw [modify_of_lt row col, withEntry_same, withEntry_withEntry]

/-- A sweep that changes one entry only accumulates its terms there. -/
theorem sweep_withEntry {first bound : Nat} {body : Nat → Mat α → Checked (Mat α)} (i j : Nat)
    (combine : α → α → α) (term : Nat → α) (ordered : first ≤ bound)
    (step : ∀ k value, first ≤ k → k < bound →
      body k (ofFn rows cols (withEntry f i j value)) =
        .ok (ofFn rows cols (withEntry f i j (combine value (term k))))) :
    sweep first bound (ofFn rows cols f) body =
      .ok (ofFn rows cols (withEntry f i j (accumulate combine first bound (f i j) term))) := by
  have swept :=
    sweep_accumulate (fun value => ofFn rows cols (withEntry f i j value)) (f i j) ordered step
  rwa [withEntry_self] at swept

end Entry

section Row

variable {values : Nat → α}

/-- The entries `f`, with `values` in the first `n` columns of row `i`. -/
def withRow (f : Nat → Nat → α) (i n : Nat) (values : Nat → α) (r c : Nat) : α :=
  if r = i ∧ c < n then values c else f r c

theorem withRow_zero : withRow f i 0 values = f := by
  funext r c
  simp [withRow]

theorem withRow_of_lt (col : j < n) : withRow f i n values i j = values j :=
  if_pos ⟨rfl, col⟩

theorem withRow_of_ne {r c : Nat} (elsewhere : r ≠ i ∨ n ≤ c) :
    withRow f i n values r c = f r c :=
  if_neg (by omega)

@[simp]
theorem withRow_withRow (first : Nat → α) :
    withRow (withRow f i n first) i n values = withRow f i n values := by
  funext r c
  simp only [withRow]
  split <;> rfl

theorem withEntry_withRow :
    withEntry (withRow f i j values) i j (values j) = withRow f i (j + 1) values := by
  funext r c
  simp only [withEntry, withRow]
  grind

/-- A row that holds the values from column `j` on is finished there. -/
theorem withRow_of_same (ordered : j ≤ n) (same : ∀ c, j ≤ c → c < n → values c = f i c) :
    withRow f i j values = withRow f i n values := by
  funext r c
  simp only [withRow]
  grind

/-- The entries of one row, formed from left to right. -/
theorem sweep_withRow {body : Nat → Mat α → Checked (Mat α)} (i : Nat) (values : Nat → α)
    (step : ∀ j, j < n →
      body j (ofFn rows cols (withRow f i j values)) =
        .ok (ofFn rows cols (withEntry (withRow f i j values) i j (values j)))) :
    sweep 0 n (ofFn rows cols f) body = .ok (ofFn rows cols (withRow f i n values)) := by
  refine sweep_stages (fun j => ofFn rows cols (withRow f i j values)) (Nat.zero_le n) ?_ ?_
  · rw [withRow_zero]
  · intro j _ col
    rw [step j col, withEntry_withRow]

/-- A sweep along a row that changes each of its entries. -/
theorem sweep_modify_row {body : Nat → Mat α → Checked (Mat α)} (change : Nat → α → α)
    (row : i < rows) (within : n ≤ cols) (current : ∀ j, j < n → f i j = values j)
    (step : ∀ j g, j < n →
      body j (ofFn rows cols g) = (ofFn rows cols g).modify i j (change j)) :
    sweep 0 n (ofFn rows cols f) body =
      .ok (ofFn rows cols (withRow f i n fun j => change j (values j))) := by
  refine sweep_withRow i _ fun j col => ?_
  rw [step j _ col, modify_of_lt row (Nat.lt_of_lt_of_le col within),
    withRow_of_ne (.inr (Nat.le_refl j)), current j col]

/-- A sweep each of whose steps changes a whole row accumulates in every entry of the row. -/
theorem sweep_accumulate_row {first bound : Nat} {body : Nat → Mat α → Checked (Mat α)}
    (combine : α → α → α) (term : Nat → Nat → α) (ordered : first ≤ bound)
    (step : ∀ k values, first ≤ k → k < bound →
      body k (ofFn rows cols (withRow f i n values)) =
        .ok (ofFn rows cols (withRow f i n fun j => combine (values j) (term k j)))) :
    sweep first bound (ofFn rows cols (withRow f i n values)) body =
      .ok (ofFn rows cols
        (withRow f i n fun j => accumulate combine first bound (values j) (term · j))) := by
  refine sweep_stages (fun k => ofFn rows cols
    (withRow f i n fun j => accumulate combine first k (values j) (term · j))) ordered ?_ ?_
  · simp only [accumulate_of_le (Nat.le_refl first)]
  · intro k lower upper
    simp only [step k _ lower upper, accumulate_succ lower]

end Row

section Fronts

variable {width : Nat → Nat} {values : Nat → Nat → α}

/-- The entries `f`, with `values` in front of column `width r` in each row `r` of the first `m`
rows. -/
def withFronts (f : Nat → Nat → α) (m : Nat) (width : Nat → Nat) (values : Nat → Nat → α)
    (r c : Nat) : α :=
  if r < m ∧ c < width r then values r c else f r c

theorem withFronts_zero : withFronts f 0 width values = f := by
  funext r c
  simp [withFronts]

theorem withFronts_of_lt (row : i < m) (col : j < width i) :
    withFronts f m width values i j = values i j :=
  if_pos ⟨row, col⟩

theorem withFronts_of_le (outside : m ≤ i ∨ width i ≤ j) :
    withFronts f m width values i j = f i j :=
  if_neg (by omega)

/-- A front formed below the finished ones is finished. -/
theorem withRow_withFronts :
    withRow (withFronts f i width values) i (width i) (values i) =
      withFronts f (i + 1) width values := by
  funext r c
  simp only [withRow, withFronts]
  grind

/-- Fronts of rows formed from the top. -/
theorem sweep_withFronts {body : Nat → Mat α → Checked (Mat α)} (width : Nat → Nat)
    (values : Nat → Nat → α)
    (step : ∀ i, i < m →
      body i (ofFn rows cols (withFronts f i width values)) =
        .ok (ofFn rows cols (withRow (withFronts f i width values) i (width i) (values i)))) :
    sweep 0 m (ofFn rows cols f) body = .ok (ofFn rows cols (withFronts f m width values)) := by
  apply sweep_stages (fun i => ofFn rows cols (withFronts f i width values)) (Nat.zero_le m)
  · rw [withFronts_zero]
  · intro i _ row
    rw [step i row, withRow_withFronts]

end Fronts

section Rows

variable {values : Nat → Nat → α}

/-- The entries `f`, with `values` in the first `n` columns of the first `m` rows. -/
def withRows (f : Nat → Nat → α) (m n : Nat) (values : Nat → Nat → α) (r c : Nat) : α :=
  if r < m ∧ c < n then values r c else f r c

/-- Rows that are finished up to the same column are fronts of one width. -/
theorem withRows_eq_withFronts : withRows f m n values = withFronts f m (fun _ => n) values := rfl

theorem withRows_zero : withRows f 0 n values = f :=
  withFronts_zero

theorem withRows_of_lt (row : i < m) (col : j < n) : withRows f m n values i j = values i j := by
  rw [withRows_eq_withFronts, withFronts_of_lt row col]

theorem withRows_of_le (outside : m ≤ i ∨ n ≤ j) : withRows f m n values i j = f i j := by
  rw [withRows_eq_withFronts, withFronts_of_le outside]

/-- A row formed below the finished ones is finished. -/
theorem withRow_withRows :
    withRow (withRows f i n values) i n (values i) = withRows f (i + 1) n values :=
  withRow_withFronts

/-- All entries are replaced. -/
theorem ofFn_withRows : ofFn rows cols (withRows f rows cols values) = ofFn rows cols values :=
  ofFn_congr fun _ _ row col => withRows_of_lt row col

/-- Rows formed from the top. -/
theorem sweep_withRows {body : Nat → Mat α → Checked (Mat α)} (values : Nat → Nat → α)
    (step : ∀ i, i < m →
      body i (ofFn rows cols (withRows f i n values)) =
        .ok (ofFn rows cols (withRow (withRows f i n values) i n (values i)))) :
    sweep 0 m (ofFn rows cols f) body = .ok (ofFn rows cols (withRows f m n values)) :=
  sweep_withFronts (fun _ => n) values step

/-- Entries formed one by one, from the top and from left to right. -/
theorem sweep_entries {body : Nat → Nat → Mat α → Checked (Mat α)} (values : Nat → Nat → α)
    (step : ∀ i j, i < m → j < n →
      let partly := withRow (withRows f i n values) i j (values i)
      body i j (ofFn rows cols partly) =
        .ok (ofFn rows cols (withEntry partly i j (values i j)))) :
    (sweep 0 m (ofFn rows cols f) fun i a => sweep 0 n a (body i)) =
      .ok (ofFn rows cols (withRows f m n values)) :=
  sweep_withRows values fun i row => sweep_withRow i (values i) fun j col => step i j row col

end Rows

section Nests

variable {inner : Nat}

/-- The fronts of the rows are changed entry by entry, and then every inner index hands its term to
all entries of a front before the next index does.  Each entry takes up its terms in order. -/
theorem sweep_accumulate_fronts {starting : Nat → Nat → Mat α → Checked (Mat α)}
    {adding : Nat → Nat → Nat → Mat α → Checked (Mat α)} (width : Nat → Nat) (start : α → α)
    (combine : α → α → α) (term : Nat → Nat → Nat → α) (tall : m ≤ rows)
    (wide : ∀ i, i < m → width i ≤ cols)
    (started : ∀ i j g, i < m → j < width i →
      starting i j (ofFn rows cols g) = (ofFn rows cols g).modify i j start)
    (added : ∀ i k j g, i < m → k < inner → j < width i →
      adding i k j (ofFn rows cols g) = (ofFn rows cols g).modify i j (combine · (term i j k))) :
    (sweep 0 m (ofFn rows cols f) fun i a =>
        sweep 0 (width i) a (starting i) >>= fun a =>
          sweep 0 inner a fun k a => sweep 0 (width i) a (adding i k)) =
      .ok (ofFn rows cols (withFronts f m width fun i j =>
        accumulate combine 0 inner (start (f i j)) (term i j))) := by
  apply sweep_withFronts
  intro i row
  have inside : i < rows := Nat.lt_of_lt_of_le row tall
  rw [sweep_modify_row (fun _ => start) inside (wide i row)
    (fun _ _ => withFronts_of_le (.inl (Nat.le_refl i))) fun j g col => started i j g row col]
  -- the front is a vector of partial results from here on
  apply sweep_accumulate_row combine (fun k j => term i j k) (Nat.zero_le inner)
  intro k values _ within
  rw [sweep_modify_row (fun j => (combine · (term i j k))) inside (wide i row)
    (fun _ col => withRow_of_lt col) fun j g col => added i k j g row within col, withRow_withRow]

/-- The entries are changed and take up their terms one entry after the other.  This is what the
nest with the inner index outside makes of them, too. -/
theorem sweep_accumulate_entries {starting : Nat → Nat → Mat α → Checked (Mat α)}
    {adding : Nat → Nat → Nat → Mat α → Checked (Mat α)} (start : α → α) (combine : α → α → α)
    (term : Nat → Nat → Nat → α) (tall : m ≤ rows) (wide : n ≤ cols)
    (started : ∀ i j g, i < m → j < n →
      starting i j (ofFn rows cols g) = (ofFn rows cols g).modify i j start)
    (added : ∀ i j k g, i < m → j < n → k < inner →
      adding i j k (ofFn rows cols g) = (ofFn rows cols g).modify i j (combine · (term i j k))) :
    (sweep 0 m (ofFn rows cols f) fun i a => sweep 0 n a fun j a =>
        starting i j a >>= fun a => sweep 0 inner a (adding i j)) =
      .ok (ofFn rows cols (withRows f m n fun i j =>
        accumulate combine 0 inner (start (f i j)) (term i j))) := by
  apply sweep_entries
  intro i j row col partly
  have inside : i < rows := Nat.lt_of_lt_of_le row tall
  have within : j < cols := Nat.lt_of_lt_of_le col wide
  have untouched : partly i j = f i j :=
    (withRow_of_ne (.inr (Nat.le_refl j))).trans (withRows_of_le (.inl (Nat.le_refl i)))
  rw [started i j partly row col, modify_of_lt inside within, untouched]
  apply sweep_accumulate (fun value => ofFn rows cols (withEntry partly i j value)) _
    (Nat.zero_le inner)
  intro k value _ before
  rw [added i j k _ row col before, modify_withEntry inside within]

end Nests

end Mat
end DenseBench
