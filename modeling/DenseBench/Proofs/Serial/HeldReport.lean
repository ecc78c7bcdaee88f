import DenseBench.Serial.HeldReport

/-!
# Refused requests

A request that is refused leaves the held report as it is, so a run of requests goes on as if it had
not been made.
-/

namespace DenseBench
namespace Serial
namespace HeldReport

/-- A refused request changes nothing. -/
theorem perform_of_refused {held next : Report} {request : Request} {error : DecodeError}
    (refused : perform held request = (next, .refused error)) : next = held := by
  cases request with
  | record _ _ _ | load _ | equals _ =>
      rw [perform] at refused
      split at refused
      · simp at refused
      · exact (Prod.mk.inj refused).1.symm
  | isFailure index =>
      rw [perform] at refused
      split at refused <;> simp at refused
  | _ => simp [perform] at refused

theorem performAll_append (held : Report) (first rest : List Request) :
    performAll held (first ++ rest) =
      ((performAll (performAll held first).1 rest).1,
        (performAll held first).2 ++ (performAll (performAll held first).1 rest).2) := by
  induction first generalizing held with
  | nil => rfl
  | cons request first ih => simp only [List.cons_append, performAll, ih]

/-- A run of requests with a refused one goes on as the run without it. -/
theorem performAll_of_refused {held : Report} {before : List Request} {request : Request}
    {error : DecodeError} (after : List Request)
    (refused : (perform (performAll held before).1 request).2 = .refused error) :
    performAll held (before ++ request :: after) =
      ((performAll held (before ++ after)).1,
        (performAll held before).2 ++ .refused error ::
          (performAll (performAll held before).1 after).2) := by
  have kept : (perform (performAll held before).1 request).1 = (performAll held before).1 :=
    perform_of_refused (Prod.ext rfl refused)
  rw [performAll_append, performAll_append, performAll]
  simp only [kept, refused]

end HeldReport
end Serial
end DenseBench
