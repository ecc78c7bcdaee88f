import DenseBench.Proofs.Dense.Accumulation
import DenseBench.Proofs.Dense.Shape

/-!
# What a computation requires of its arrays

A loop nest on arrays of any extents either comes to its end or takes an index out of an array.  The
condition that decides between the two is read off the nest: one requirement for each access, their
conjunction for a sequence, and for a sweep the requirements of all its steps.  Most sweeps ask the
more of an array the further they go, and then the last step asks for everything.
-/

namespace DenseBench

variable {α β : Type}

/-- The computation ends with a good value if the condition holds, and otherwise an index is out of
bounds. -/
structure Requires (condition : Prop) (computation : Checked α) (good : α → Prop) : Prop where
  ends : condition → Yields computation good
  faults : ¬condition → computation = .error .indexOutOfBounds

/-- The condition decides whether the computation ends or an index is out of bounds. -/
structure FaultsUnless (condition : Prop) (computation : Checked α) : Prop where
  fault_iff : computation = .error .indexOutOfBounds ↔ ¬condition
  ends : condition → ∃ value, computation = .ok value

namespace Requires

variable {condition condition' : Prop} {computation : Checked α} {good : α → Prop}

theorem of_yields (yields : Yields computation good) : Requires True computation good where
  ends _ := yields
  faults never := (never trivial).elim

theorem iff (requires : Requires condition computation good) (same : condition ↔ condition') :
    Requires condition' computation good where
  ends holds := requires.ends (same.mpr holds)
  faults fails := requires.faults fun holds => fails (same.mp holds)

theorem bind {first : Checked α} {next : α → Checked β} {fine : β → Prop}
    (before : Requires condition first good)
    (after : ∀ value, good value → Requires condition' (next value) fine) :
    Requires (condition ∧ condition') (first >>= next) fine where
  ends := by
    rintro ⟨holds, holds'⟩
    exact (before.ends holds).bind fun value good => (after value good).ends holds'
  faults fails := by
    by_cases holds : condition
    · have fails' : ¬condition' := fun holds' => fails ⟨holds, holds'⟩
      exact (before.ends holds).bind_error fun value good => (after value good).faults fails'
    · exact bind_of_error (before.faults holds)

/-- If what follows ends for certain, the condition is that of the computation before it. -/
theorem map {next : α → Checked β} {fine : β → Prop}
    (before : Requires condition computation good)
    (after : ∀ value, good value → Yields (next value) fine) :
    Requires condition (computation >>= next) fine :=
  (before.bind fun value good => of_yields (after value good)).iff (iff_of_eq (and_true condition))

theorem faultsUnless (requires : Requires condition computation good) :
    FaultsUnless condition computation where
  fault_iff := by
    refine ⟨fun fault holds => ?_, requires.faults⟩
    obtain ⟨value, ended, -⟩ := requires.ends holds
    rw [fault] at ended
    contradiction
  ends holds := by
    obtain ⟨value, ended, -⟩ := requires.ends holds
    exact ⟨value, ended⟩

end Requires

/-- A computation that ends for certain leaves the condition to what follows. -/
theorem Yields.bind_requires {condition : Prop} {first : Checked α} {next : α → Checked β}
    {good : α → Prop} {fine : β → Prop} (yields : Yields first good)
    (after : ∀ value, good value → Requires condition (next value) fine) :
    Requires condition (first >>= next) fine :=
  ((Requires.of_yields yields).bind after).iff (iff_of_eq (true_and condition))

section Sweeps

variable {first bound : Nat} {state : α} {body : Nat → α → Checked α}

/-- A sweep requires what its steps require. -/
theorem requires_sweep (kept : α → Prop) (needed : Nat → Prop) (initial : kept state)
    (step : ∀ i s, first ≤ i → i < bound → kept s → Requires (needed i) (body i s) kept) :
    Requires (∀ i, first ≤ i → i < bound → needed i) (sweep first bound state body) kept := by
  have no_step {last : Nat} (empty : last ≤ first) :
      Requires (∀ i, first ≤ i → i < last → needed i) (sweep first last state body) kept := by
    rw [sweep_of_le empty]
    refine (Requires.of_yields (.pure initial)).iff ⟨fun _ i lower upper => ?_, fun _ => trivial⟩
    omega
  rcases Nat.le_total bound first with empty | ordered
  · exact no_step empty
  · induction bound, ordered using Nat.le_induction with
    | base => exact no_step le_rfl
    | succ bound ordered ih =>
        have earlier := ih fun i s lower upper => step i s lower (Nat.lt_succ_of_lt upper)
        have last_step : ((∀ i, first ≤ i → i < bound → needed i) ∧ needed bound) ↔
            ∀ i, first ≤ i → i < bound + 1 → needed i := by
          constructor
          · rintro ⟨below, last⟩ i lower upper
            rcases Nat.lt_succ_iff_lt_or_eq.mp upper with before | rfl
            · exact below i lower before
            · exact last
          · intro all
            exact ⟨fun i lower upper => all i lower (Nat.lt_succ_of_lt upper),
              all bound ordered (Nat.lt_succ_self bound)⟩
        rw [sweep_succ ordered]
        exact (earlier.bind fun s holds =>
          step bound s ordered (Nat.lt_succ_self bound) holds).iff last_step

/-- Where a step requires what the steps before it require, and more, the last step decides. -/
theorem requires_sweep_last {condition : Prop} (kept : α → Prop) (needed : Nat → Prop)
    (initial : kept state) (grows : ∀ i j, i ≤ j → needed j → needed i)
    (decides : bound ≤ first ∨ needed (bound - 1) ↔ condition)
    (step : ∀ i s, first ≤ i → i < bound → kept s → Requires (needed i) (body i s) kept) :
    Requires condition (sweep first bound state body) kept := by
  have all_steps : (∀ i, first ≤ i → i < bound → needed i) ↔
      bound ≤ first ∨ needed (bound - 1) := by
    constructor
    · intro all
      rcases Nat.lt_or_ge first bound with nonempty | empty
      · exact .inr (all (bound - 1) (by omega) (by omega))
      · exact .inl empty
    · rintro (empty | last) i lower upper
      · omega
      · exact grows i (bound - 1) (by omega) last
  exact (requires_sweep kept needed initial step).iff (all_steps.trans decides)

end Sweeps

namespace Vec

variable {size : Nat} {v : Vec α}

theorem HasSize.requires_read (sized : v.HasSize size) (i : Nat) :
    Requires (i < size) (v.read i) fun _ => True where
  ends inside := sized.read inside
  faults outside := by
    obtain rfl : v.size = size := sized
    exact dif_neg outside

theorem HasSize.requires_modify (sized : v.HasSize size) (i : Nat) (f : α → α) :
    Requires (i < size) (v.modify i f) (HasSize size) where
  ends inside := sized.modify inside f
  faults outside := by
    obtain rfl : v.size = size := sized
    exact dif_neg outside

theorem HasSize.requires_write (sized : v.HasSize size) (i : Nat) (value : α) :
    Requires (i < size) (v.write i value) (HasSize size) :=
  sized.requires_modify i _

end Vec

namespace Mat

variable {rows cols : Nat} {a : Mat α}

theorem HasShape.requires_read (shape : a.HasShape rows cols) (i j : Nat) :
    Requires (i < rows ∧ j < cols) (a.read i j) fun _ => True where
  ends inside := shape.read inside.1 inside.2
  faults outside := by
    obtain ⟨rfl, rfl⟩ := shape
    exact dif_neg outside

theorem HasShape.requires_modify (shape : a.HasShape rows cols) (i j : Nat) (f : α → α) :
    Requires (i < rows ∧ j < cols) (a.modify i j f) (HasShape rows cols) where
  ends inside := shape.modify inside.1 inside.2 f
  faults outside := by
    obtain ⟨rfl, rfl⟩ := shape
    exact dif_neg outside

theorem HasShape.requires_write (shape : a.HasShape rows cols) (i j : Nat) (value : α) :
    Requires (i < rows ∧ j < cols) (a.write i j value) (HasShape rows cols) :=
  shape.requires_modify i j _

/-- Changing the first elements of a row. -/
theorem HasShape.requires_modifyFront (shape : a.HasShape rows cols) (i bound : Nat) (f : α → α) :
    Requires (bound = 0 ∨ i < rows ∧ bound ≤ cols)
      (sweep 0 bound a fun j a => a.modify i j f) (HasShape rows cols) := by
  apply requires_sweep_last (HasShape rows cols) (fun j => i < rows ∧ j < cols) shape
  · omega
  · omega
  · intro j a _ _ shape
    exact shape.requires_modify i j f

end Mat
end DenseBench
