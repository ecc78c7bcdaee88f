import DenseBench.Proofs.Dense.Shape

/-!
# Safe kernels

A kernel is safe if its generator either makes arrays of the kernel's shape or, in stated cases,
takes a remainder by zero, and if on arrays of this shape calls in a row never end in a fault, keep
the shape and leave arrays for the next call.
-/

namespace DenseBench
namespace Kernel

section Residues

variable {α : Type} [NatCast α] [Div α] {rows cols d scale : Nat} (n : Nat → Nat → Nat)

/-- A matrix of remainders is made, unless it has elements and they are remainders by zero. -/
theorem yields_residues (positive : 0 < rows → 0 < cols → 0 < d) :
    Yields (Mat.tabulate rows cols fun i j => residue (n i j) d scale : Checked (Mat α))
      (Mat.HasShape rows cols) :=
  Mat.yields_tabulate fun _ _ row col =>
    yields_residue (positive (Nat.zero_lt_of_lt row) (Nat.zero_lt_of_lt col))

theorem residues_eq_error (some_row : 0 < rows) (some_col : 0 < cols) (none : d = 0) :
    (Mat.tabulate rows cols fun i j => residue (n i j) d scale : Checked (Mat α)) =
      .error .remainderByZero := by
  subst none
  exact Mat.tabulate_of_first_fault some_row some_col rfl

end Residues

variable {β : Type}

/-- What the arrays of a kernel go through, from their generation to a number of calls. -/
structure Safe (faulty : Prop) (generated : Checked β) (call : β → Checked β)
    (shaped : β → Prop) : Prop where
  fault_iff : generated = .error .remainderByZero ↔ faulty
  generates : ¬faulty → Yields generated shaped
  calls : ∀ arrays, shaped arrays → ∀ times,
    Yields (sweep 0 times arrays fun _ => call) shaped

variable {faulty : Prop} {generated : Checked β} {call : β → Checked β} {shaped : β → Prop}

/-- One call at a time is enough. -/
theorem safe_of_call (fault : faulty → generated = .error .remainderByZero)
    (generates : ¬faulty → Yields generated shaped)
    (keeps : ∀ arrays, shaped arrays → Yields (call arrays) shaped) :
    Safe faulty generated call shaped where
  fault_iff := by
    refine ⟨fun failed => ?_, fault⟩
    by_contra fine
    obtain ⟨arrays, ended, -⟩ := generates fine
    rw [failed] at ended
    contradiction
  generates := generates
  calls arrays initial times :=
    yields_sweep shaped initial fun _ arrays _ _ holds => keeps arrays holds

/-- Most generators have no way to fail. -/
theorem safe_of_yields (generates : Yields generated shaped)
    (keeps : ∀ arrays, shaped arrays → Yields (call arrays) shaped) :
    Safe False generated call shaped :=
  safe_of_call (fun never => never.elim) (fun _ => generates) keeps

/-- A run generates the arrays, calls the kernel once and reports no failure. -/
theorem Safe.run (safe : Safe faulty generated call shaped) (fine : ¬faulty) :
    (do
      let _ ← call (← generated)
      return (0 : Int32)) = (.ok 0 : Checked Int32) := by
  obtain ⟨arrays, made, holds⟩ := safe.generates fine
  obtain ⟨after, ended, -⟩ := safe.calls arrays holds 1
  rw [sweep_one] at ended
  rw [made]
  change call arrays >>= _ = _
  rw [ended]
  rfl

end Kernel
end DenseBench
