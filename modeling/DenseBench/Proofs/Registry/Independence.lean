import DenseBench.Proofs.Registry.Edits
import DenseBench.Session
import Mathlib.Logic.Function.Basic

/-!
# Units with states of their own

Units are independent if each has a state of its own, which nothing but its own calls changes and on
which alone it depends.  Units that follow scripts with different numbers are independent, since the
position of a script is all that its calls read and all that they change.
-/

namespace DenseBench

/-- Every unit has a state of its own, such as the number of its calls.  What the unit returns
depends on that state alone, and only the calls of the unit change it. -/
structure Registry.Independent {σ κ : Type} (registry : Registry σ) (own : String → σ → κ) :
    Prop where
  /-- Calls in the same own state end in the same way. -/
  outcome : ∀ unit ∈ registry.units, ∀ dataset left right,
    own unit.name left = own unit.name right →
      (unit.call dataset left).1 = (unit.call dataset right).1
  /-- Calls in the same own state leave the same own state. -/
  next : ∀ unit ∈ registry.units, ∀ dataset left right,
    own unit.name left = own unit.name right →
      own unit.name (unit.call dataset left).2 = own unit.name (unit.call dataset right).2
  /-- A call leaves the states of all other units alone. -/
  frame : ∀ unit ∈ registry.units, ∀ other ∈ registry.units, other.name ≠ unit.name →
    ∀ dataset world, own other.name (unit.call dataset world).2 = own other.name world

/-- The position of the script of a unit, where the name of the unit tells the number of the script;
nothing for a unit without a script. -/
def ScriptWorld.ownPosition? (number : String → Option Nat) (name : String) (world : ScriptWorld) :
    Option Nat :=
  (number name).bind fun index => world.positions[index]?

namespace Script

/-- How many entries a script uses up in one call. -/
def stride : Script → Nat
  | statuses (_ :: _) => 1
  | _ => 0

/-- A call moves the position of its own script and of no other. -/
theorem positions_call (script : Script) (number : Nat) (name : String) (dataset : DatasetSize)
    (world : ScriptWorld) :
    ((script.unit number name).call dataset world).2.positions =
      world.positions.modify number (· + script.stride) := by
  have still : world.positions.modify number (· + 0) = world.positions := by
    apply Array.ext_getElem?
    intro index
    simp [Array.getElem?_modify]
  cases script with
  | kernel => exact still.symm
  | bySize => exact still.symm
  | statuses entries =>
      cases entries with
      | nil => exact still.symm
      | cons => rfl

/-- How a call ends depends on the position of its own script only. -/
theorem outcome_call (script : Script) {number : Nat} (name : String) (dataset : DatasetSize)
    {left right : ScriptWorld} (same : left.positions[number]? = right.positions[number]?) :
    ((script.unit number name).call dataset left).1 =
      ((script.unit number name).call dataset right).1 := by
  have position : left.position number = right.position number := by
    simp only [ScriptWorld.position, Array.getD_eq_getD_getElem?, same]
  cases script with
  | kernel => rfl
  | bySize => rfl
  | statuses entries =>
      cases entries with
      | nil => rfl
      | cons =>
          simp only [unit, play, ScriptWorld.noteCall, ScriptWorld.position] at position ⊢
          rw [position]

end Script

namespace BenchmarkUnit

/-- The number of the script that a unit follows, if it follows one. -/
inductive Follows : BenchmarkUnit ScriptWorld → Option Nat → Prop
  | kernel (entry : Kernel.Entry) : Follows (.ofKernel entry) none
  | script (script : Script) (number : Nat) (name : String) :
      Follows (script.unit number name) (some number)

/-- Some call of the unit moves the position of the script with this number. -/
def Moves (unit : BenchmarkUnit ScriptWorld) (number : Nat) : Prop :=
  ∃ dataset world, (unit.call dataset world).2.positions[number]? ≠ world.positions[number]?

/-- A script that has entries is moved. -/
theorem moves_statuses (first : Option Int32) (rest : List (Option Int32)) (number : Nat)
    (name : String) : ((Script.statuses (first :: rest)).unit number name).Moves number := by
  refine ⟨.mini, ⟨Array.replicate (number + 1) 0, #[]⟩, ?_⟩
  rw [Script.positions_call, Array.getElem?_modify, if_pos rfl]
  simp [Script.stride]

namespace Follows

variable {unit : BenchmarkUnit ScriptWorld} {number : Option Nat}

/-- A unit moves no other script than its own. -/
theorem eq_of_moves (follows : unit.Follows number) {index : Nat} (moves : unit.Moves index) :
    number = some index := by
  obtain ⟨dataset, world, moved⟩ := moves
  cases follows with
  | kernel => exact absurd rfl moved
  | script script number name =>
      by_cases same : number = index
      · rw [same]
      · simp [Script.positions_call, Array.getElem?_modify, same] at moved

theorem size_positions (follows : unit.Follows number) (dataset : DatasetSize)
    (world : ScriptWorld) :
    (unit.call dataset world).2.positions.size = world.positions.size := by
  cases follows with
  | kernel => rfl
  | script => rw [Script.positions_call, Array.size_modify]

variable {left right : ScriptWorld}

theorem outcome_eq (follows : unit.Follows number) (dataset : DatasetSize)
    (same : (number.bind fun index => left.positions[index]?) =
      number.bind fun index => right.positions[index]?) :
    (unit.call dataset left).1 = (unit.call dataset right).1 := by
  cases follows with
  | kernel => rfl
  | script script number name => exact script.outcome_call name dataset same

theorem position_eq (follows : unit.Follows number) (dataset : DatasetSize)
    (same : (number.bind fun index => left.positions[index]?) =
      number.bind fun index => right.positions[index]?) :
    (number.bind fun index => (unit.call dataset left).2.positions[index]?) =
      number.bind fun index => (unit.call dataset right).2.positions[index]? := by
  cases follows with
  | kernel => rfl
  | script script number name =>
      simp only [Option.bind_some, Script.positions_call, Array.getElem?_modify, if_true] at same ⊢
      rw [same]

end Follows
end BenchmarkUnit

namespace Registry

/-- The units have distinct names, and follow scripts with distinct numbers below a bound. -/
structure Numbered (registry : Registry ScriptWorld) (number : String → Option Nat)
    (bound : Nat) : Prop where
  /-- No two units have the same name. -/
  distinct : registry.DistinctNames
  /-- The name of a unit tells the number of its script. -/
  follows : ∀ unit ∈ registry.units, unit.Follows (number unit.name)
  /-- All numbers are in use. -/
  bounded : ∀ name index, number name = some index → index < bound
  /-- No two names have the same number. -/
  apart : ∀ left right index, number left = some index → number right = some index → left = right

variable {registry next : Registry ScriptWorld} {number : String → Option Nat} {bound : Nat}

theorem numbered_empty (bound : Nat) : empty.Numbered (fun _ => none) bound where
  distinct := distinctNames_empty
  follows _ member := absurd member List.not_mem_nil
  bounded := by simp
  apart := by simp

theorem numbered_standard (bound : Nat) : standard.Numbered (fun _ => none) bound where
  distinct := distinctNames_standard
  follows unit member := by
    obtain ⟨entry, -, rfl⟩ := List.mem_map.mp member
    exact .kernel entry
  bounded := by simp
  apart := by simp

namespace Numbered

theorem mono {more : Nat} (numbered : registry.Numbered number bound) (enough : bound ≤ more) :
    registry.Numbered number more where
  distinct := numbered.distinct
  follows := numbered.follows
  bounded name index found := Nat.lt_of_lt_of_le (numbered.bounded name index found) enough
  apart := numbered.apart

theorem select {wanted : List String} (numbered : registry.Numbered number bound)
    (selected : registry.select wanted = .ok next) : next.Numbered number bound where
  distinct := numbered.distinct.select selected
  follows unit member := numbered.follows unit ((sublist_of_select selected).subset member)
  bounded := numbered.bounded
  apart := numbered.apart

/-- A new unit follows the script with the next free number. -/
theorem register (numbered : registry.Numbered number bound) (script : Script) (name : String)
    (registered : registry.register (script.unit bound name) = .ok next) :
    next.Numbered (Function.update number name (some bound)) (bound + 1) := by
  have distinct := numbered.distinct.register registered
  obtain ⟨fresh, rfl⟩ := register_eq_ok_iff.mp registered
  refine ⟨distinct, ?_, ?_, ?_⟩
  · intro unit member
    rcases List.mem_append.mp member with earlier | single
    · have other : unit.name ≠ name := by
        intro taken
        have listed : unit.name ∈ registry.names := List.mem_map_of_mem earlier
        rw [taken] at listed
        exact fresh listed
      rw [Function.update_of_ne other]
      exact numbered.follows unit earlier
    · obtain rfl := List.mem_singleton.mp single
      have own : Function.update number name (some bound) (script.unit bound name).name =
          some bound := Function.update_self ..
      rw [own]
      exact .script script bound name
  · intro other index found
    by_cases same : other = name
    · rw [same, Function.update_self] at found
      cases found
      exact Nat.lt_succ_self bound
    · rw [Function.update_of_ne same] at found
      exact Nat.lt_succ_of_lt (numbered.bounded other index found)
  · intro left right index left_found right_found
    -- the new number is above all others
    have old {other : String} (apart : other ≠ name)
        (found : Function.update number name (some bound) other = some index) :
        number other = some index ∧ index < bound := by
      rw [Function.update_of_ne apart] at found
      exact ⟨found, numbered.bounded other index found⟩
    by_cases left_new : left = name <;> by_cases right_new : right = name
    · rw [left_new, right_new]
    · obtain ⟨-, below⟩ := old right_new right_found
      rw [left_new, Function.update_self] at left_found
      cases left_found
      exact absurd below (Nat.lt_irrefl bound)
    · obtain ⟨-, below⟩ := old left_new left_found
      rw [right_new, Function.update_self] at right_found
      cases right_found
      exact absurd below (Nat.lt_irrefl bound)
    · exact numbered.apart left right index (old left_new left_found).1
        (old right_new right_found).1

/-- A call leaves the scripts of all other units where they are. -/
theorem still (numbered : registry.Numbered number bound) {unit : BenchmarkUnit ScriptWorld}
    (member : unit ∈ registry.units) {other : String} {index : Nat} (apart : other ≠ unit.name)
    (own : number other = some index) (dataset : DatasetSize) (world : ScriptWorld) :
    (unit.call dataset world).2.positions[index]? = world.positions[index]? := by
  apply Classical.byContradiction
  intro moved
  have followed := (numbered.follows unit member).eq_of_moves ⟨dataset, world, moved⟩
  exact apart (numbered.apart _ _ index own followed)

/-- Units that follow scripts with distinct numbers are independent. -/
theorem independent (numbered : registry.Numbered number bound) :
    registry.Independent (ScriptWorld.ownPosition? number) where
  outcome unit member dataset left right same :=
    (numbered.follows unit member).outcome_eq dataset same
  next unit member dataset left right same :=
    (numbered.follows unit member).position_eq dataset same
  frame unit member other _ apart dataset world := by
    rw [ScriptWorld.ownPosition?, ScriptWorld.ownPosition?]
    cases own : number other.name with
    | none => rfl
    | some index => exact numbered.still member apart own dataset world

end Numbered
end Registry
end DenseBench
