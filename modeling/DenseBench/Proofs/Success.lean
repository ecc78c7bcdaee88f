import Mathlib.Data.List.Forall2

/-!
# Computations that succeed

A computation with errors succeeds with a value exactly if its parts do.
-/

namespace DenseBench
namespace Success

variable {ε ζ α β : Type}

theorem ok_bind (a : α) (f : α → Except ε β) : Except.ok a >>= f = f a := rfl

theorem bind_eq_ok_iff {x : Except ε α} {f : α → Except ε β} {b : β} :
    (x >>= f) = .ok b ↔ ∃ a, x = .ok a ∧ f a = .ok b := by
  cases x with
  | error error => simp [bind, Except.bind]
  | ok a => simp [bind, Except.bind]

theorem map_eq_ok_iff {x : Except ε α} {f : α → β} {b : β} :
    f <$> x = .ok b ↔ ∃ a, x = .ok a ∧ f a = b := by
  cases x with
  | error error => simp
  | ok a => simp

theorem mapError_eq_ok_iff {x : Except ε α} {f : ε → ζ} {a : α} :
    x.mapError f = .ok a ↔ x = .ok a := by
  cases x with
  | error error => simp [Except.mapError]
  | ok other => simp [Except.mapError]

/-- A list is gone through if each of its items is. -/
theorem mapM_eq_ok_iff {f : α → Except ε β} {items : List α} {values : List β} :
    items.mapM f = .ok values ↔
      List.Forall₂ (fun item value => f item = .ok value) items values := by
  induction items generalizing values with
  | nil => cases values <;> simp [pure, Except.pure]
  | cons item items ih =>
      rw [List.mapM_cons, bind_eq_ok_iff, List.forall₂_cons_left_iff]
      simp only [bind_eq_ok_iff, ih, pure, Except.pure, Except.ok.injEq]
      constructor
      · rintro ⟨value, head, values, tail, rfl⟩
        exact ⟨value, values, head, tail, rfl⟩
      · rintro ⟨value, values, head, tail, rfl⟩
        exact ⟨value, head, values, tail, rfl⟩

/-- A vector is gone through as its list is. -/
theorem mapM_vector_eq_ok_iff {n : Nat} {f : α → Except ε β} {items : Vector α n}
    {values : Vector β n} :
    items.mapM f = .ok values ↔ items.toList.mapM f = .ok values.toList := by
  have as_list : Vector.toList <$> items.mapM f = items.toList.mapM f := by
    rw [Vector.toList, ← Array.toList_mapM, ← Vector.toArray_mapM, Functor.map_map]
    rfl
  rw [← as_list, map_eq_ok_iff]
  constructor
  · intro same
    exact ⟨values, same, rfl⟩
  · rintro ⟨others, same, equal⟩
    rw [same, Vector.toList_inj.mp equal]

end Success
end DenseBench
