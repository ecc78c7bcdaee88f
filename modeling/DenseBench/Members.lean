/-!
# Members

Members are values with keys, in the order in which the keys were first used.  Putting a value at
a key replaces the value that is there.
-/

namespace DenseBench
namespace Members

variable {α : Type}

/-- The value at a key. -/
def get? (key : String) : List (String × α) → Option α
  | [] => none
  | (name, value) :: rest => if name = key then some value else get? key rest

/-- The members with this value at this key. -/
def put (key : String) (value : α) : List (String × α) → List (String × α)
  | [] => [(key, value)]
  | (name, old) :: rest =>
    if name = key then (key, value) :: rest else (name, old) :: put key value rest

/-- The members that a list of keys with values describes; of a repeated key the last value
counts. -/
def ofList (entries : List (String × α)) : List (String × α) :=
  entries.foldl (fun members (key, value) => put key value members) []

@[simp]
theorem get?_put_same (key : String) (value : α) (members : List (String × α)) :
    get? key (put key value members) = some value := by
  induction members with
  | nil => simp [put, get?]
  | cons head rest induction =>
    obtain ⟨name, old⟩ := head
    by_cases same : name = key <;> simp [put, get?, same, induction]

theorem get?_put_of_ne {key other : String} (different : other ≠ key) (value : α)
    (members : List (String × α)) :
    get? key (put other value members) = get? key members := by
  induction members with
  | nil => simp [put, get?, different]
  | cons head rest induction =>
    obtain ⟨name, old⟩ := head
    by_cases same : name = other
    · subst same
      simp [put, get?, different]
    · simp [put, get?, same, induction]

theorem get?_eq_none_iff {key : String} {members : List (String × α)} :
    get? key members = none ↔ key ∉ members.map Prod.fst := by
  induction members with
  | nil => simp [get?]
  | cons head rest ih =>
    obtain ⟨name, old⟩ := head
    by_cases same : name = key
    · simp [get?, same]
    · simp [get?, same, Ne.symm same, ih]

/-- Where no key is used twice, a member is the last one with its key. -/
theorem append_of_mem {key : String} {value : α} {members : List (String × α)}
    (distinct : (members.map Prod.fst).Nodup) (member : (key, value) ∈ members) :
    ∃ before after, members = before ++ (key, value) :: after ∧ ∀ other ∈ after, other.1 ≠ key := by
  obtain ⟨before, after, rfl⟩ := List.append_of_mem member
  refine ⟨before, after, rfl, ?_⟩
  rw [List.map_append, List.map_cons] at distinct
  have once : key ∉ after.map Prod.fst :=
    (List.nodup_cons.mp (List.nodup_append.mp distinct).2.1).1
  intro other later same
  exact once (same ▸ List.mem_map_of_mem later)

end Members
end DenseBench
