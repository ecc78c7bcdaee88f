import DenseBench.Dense.Vec
import DenseBench.Proofs.Dense.Accumulation
import Mathlib.Algebra.BigOperators.Fin

/-!
# Sweeps over the elements of a vector

A vector is described by the function of its elements, and a loop by what it has made of that
function so far: one element is being formed, or the elements are finished up to an index.  Where
the scalars are a ring, `Vec.ofVector` stores the vectors that matrices act on.
-/

namespace DenseBench
namespace Vec

variable {α : Type} {size n i : Nat} {f : Nat → α}

theorem read_of_lt (inside : i < size) : (ofFn size f).read i = .ok (f i) := by
  simp [inside]

section Element

variable {value : α}

/-- Changing an element inside the extent changes nothing else. -/
theorem modify_of_lt (inside : i < size) (g : α → α) :
    (ofFn size f).modify i g = .ok (ofFn size (Function.update f i (g (f i)))) := by
  simp only [modify_ofFn, inside, if_true, ← Function.update_apply]

theorem write_of_lt (inside : i < size) (value : α) :
    (ofFn size f).write i value = .ok (ofFn size (Function.update f i value)) :=
  modify_of_lt inside _

/-- Changing an element that is being formed. -/
theorem modify_update (inside : i < size) (g : α → α) :
    (ofFn size (Function.update f i value)).modify i g =
      .ok (ofFn size (Function.update f i (g value))) := by
  rw [modify_of_lt inside, Function.update_self, Function.update_idem]

/-- A sweep that changes one element only accumulates its terms there. -/
theorem sweep_update {first bound : Nat} {body : Nat → Vec α → Checked (Vec α)} (i : Nat)
    (combine : α → α → α) (term : Nat → α) (ordered : first ≤ bound)
    (step : ∀ k value, first ≤ k → k < bound →
      body k (ofFn size (Function.update f i value)) =
        .ok (ofFn size (Function.update f i (combine value (term k))))) :
    sweep first bound (ofFn size (Function.update f i value)) body =
      .ok (ofFn size (Function.update f i (accumulate combine first bound value term))) :=
  sweep_accumulate (fun value => ofFn size (Function.update f i value)) value ordered step

end Element

variable {values : Nat → α}

section Front

/-- The elements `f`, with `values` in front of index `n`. -/
def withFront (f : Nat → α) (n : Nat) (values : Nat → α) (k : Nat) : α :=
  if k < n then values k else f k

theorem withFront_zero : withFront f 0 values = f := by
  funext k
  simp [withFront]

theorem withFront_of_lt (finished : i < n) : withFront f n values i = values i :=
  if_pos finished

theorem update_withFront :
    Function.update (withFront f i values) i (values i) = withFront f (i + 1) values := by
  funext k
  simp only [Function.update_apply, withFront]
  grind

theorem withFront_of_le (outside : n ≤ i) : withFront f n values i = f i :=
  if_neg (by omega)

theorem withFront_self : withFront f n f = f := by
  funext k
  simp [withFront]

@[simp]
theorem withFront_withFront (first : Nat → α) :
    withFront (withFront f n first) n values = withFront f n values := by
  funext k
  simp only [withFront]
  split <;> rfl

/-- All elements are replaced. -/
theorem ofFn_withFront : ofFn size (withFront f size values) = ofFn size values :=
  ofFn_congr fun _ inside => withFront_of_lt inside

/-- Elements formed one by one, in order. -/
theorem sweep_withFront {body : Nat → Vec α → Checked (Vec α)} (values : Nat → α)
    (step : ∀ i, i < n →
      body i (ofFn size (withFront f i values)) =
        .ok (ofFn size (Function.update (withFront f i values) i (values i)))) :
    sweep 0 n (ofFn size f) body = .ok (ofFn size (withFront f n values)) := by
  refine sweep_stages (fun i => ofFn size (withFront f i values)) (Nat.zero_le n) ?_ ?_
  · rw [withFront_zero]
  · intro i _ inside
    rw [step i inside, update_withFront]

end Front

section Accumulation

variable {inner : Nat} {body : Nat → Vec α → Checked (Vec α)} {combine : α → α → α}

/-- An element that is set to a start value takes up its terms there. -/
theorem sweep_accumulate_written (start : α) (term : Nat → α) (inside : i < size)
    (step : ∀ j g, j < inner → body j (ofFn size g) = (ofFn size g).modify i (combine · (term j))) :
    sweep 0 inner (ofFn size (Function.update f i start)) body =
      .ok (ofFn size (Function.update f i (accumulate combine 0 inner start term))) := by
  apply sweep_update i combine term (Nat.zero_le inner)
  intro j value _ within
  rw [step j _ within, modify_update inside]

/-- An element takes up its terms on top of what it is. -/
theorem sweep_accumulate_element (term : Nat → α) (inside : i < size)
    (step : ∀ j g, j < inner → body j (ofFn size g) = (ofFn size g).modify i (combine · (term j))) :
    sweep 0 inner (ofFn size f) body =
      .ok (ofFn size (Function.update f i (accumulate combine 0 inner (f i) term))) := by
  have swept := sweep_accumulate_written (f := f) (f i) term inside step
  rwa [Function.update_eq_self] at swept

/-- Every element takes up its terms before the next one does. -/
theorem sweep_accumulate_elements {body : Nat → Nat → Vec α → Checked (Vec α)}
    (term : Nat → Nat → α) (long : n ≤ size)
    (step : ∀ i j g, i < n → j < inner →
      body i j (ofFn size g) = (ofFn size g).modify i (combine · (term i j))) :
    (sweep 0 n (ofFn size f) fun i v => sweep 0 inner v (body i)) =
      .ok (ofFn size (withFront f n fun i => accumulate combine 0 inner (f i) (term i))) := by
  apply sweep_withFront
  intro i before
  rw [sweep_accumulate_element (term i) (Nat.lt_of_lt_of_le before long) fun j g within =>
    step i j g before within, withFront_of_le (Nat.le_refl i)]

/-- A sweep along a front that changes each of its elements. -/
theorem sweep_modify_front (change : Nat → α → α) (long : n ≤ size)
    (step : ∀ j g, j < n → body j (ofFn size g) = (ofFn size g).modify j (change j)) :
    sweep 0 n (ofFn size (withFront f n values)) body =
      .ok (ofFn size (withFront f n fun j => change j (values j))) := by
  have swept : sweep 0 n (ofFn size (withFront f n values)) body =
      .ok (ofFn size (withFront (withFront f n values) n fun j => change j (values j))) := by
    apply sweep_withFront
    intro j before
    rw [step j _ before, modify_of_lt (Nat.lt_of_lt_of_le before long),
      withFront_of_le (Nat.le_refl j), withFront_of_lt before]
  rwa [withFront_withFront] at swept

/-- Every step hands a term to each element of a front.  An element takes up the same terms as if
it were alone. -/
theorem sweep_accumulate_front {body : Nat → Nat → Vec α → Checked (Vec α)}
    (term : Nat → Nat → α) (long : n ≤ size)
    (step : ∀ k j g, k < inner → j < n →
      body k j (ofFn size g) = (ofFn size g).modify j (combine · (term j k))) :
    (sweep 0 inner (ofFn size (withFront f n values)) fun k v => sweep 0 n v (body k)) =
      .ok (ofFn size
        (withFront f n fun j => accumulate combine 0 inner (values j) (term j))) := by
  apply sweep_stages (fun k => ofFn size
    (withFront f n fun j => accumulate combine 0 k (values j) (term j))) (Nat.zero_le inner)
  · simp only [accumulate_of_le (Nat.le_refl 0)]
  · intro k _ within
    rw [sweep_modify_front (fun j => (combine · (term j k))) long fun j g => step k j g within]
    simp only [accumulate_succ (Nat.zero_le k)]

end Accumulation

section Stored

/-- The dense vector with these elements. -/
def ofVector (elements : Fin n → α) : Vec α :=
  ⟨n, Vector.ofFn elements⟩

/-- The first `n` elements of `f`. -/
def front (n : Nat) (f : Nat → α) : Fin n → α :=
  fun i => f i

@[simp]
theorem front_apply (f : Nat → α) (i : Fin n) : front n f i = f i := rfl

theorem ofVector_front (f : Nat → α) : ofVector (front n f) = ofFn n f := rfl

theorem exists_eq_front [Nonempty α] (elements : Fin n → α) :
    ∃ f : Nat → α, elements = front n f := by
  obtain ⟨outside⟩ := ‹Nonempty α›
  refine ⟨fun i => if inside : i < n then elements ⟨i, inside⟩ else outside, ?_⟩
  funext i
  simp

theorem front_inj {f g : Nat → α} : front n f = front n g ↔ ∀ i, i < n → f i = g i :=
  ⟨fun same i inside => congrFun same ⟨i, inside⟩, fun agree => funext fun i => agree i i.isLt⟩

theorem accumulate_front [AddCommMonoid α] (f : Nat → α) :
    accumulate (· + ·) 0 n 0 f = ∑ k, front n f k := by
  rw [accumulate_add, zero_add, Nat.Ico_zero_eq_range]
  exact (Fin.sum_univ_eq_sum_range f n).symm

end Stored

end Vec
end DenseBench
