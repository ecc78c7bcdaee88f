import DenseBench.Dense.Checked

/-!
# Scalars of the kernels

The kernels are written over any scalar type with the operations that they use, so that the same
loop nest can be read over a ring, over a field or over binary floating point.  A benchmark run
works on `Float` with the two multipliers fixed here.
-/

namespace DenseBench

/-- Naturals below `2 ^ 64` as binary floating point, rounded to nearest. -/
instance instNatCastFloat : NatCast Float :=
  ⟨fun n => n.toUInt64.toFloat⟩

namespace Kernel

/-- Multiplier of the products in a benchmark run. -/
def alpha : Float := 1.5

/-- Multiplier of the accumulated output in a benchmark run. -/
def beta : Float := 1.2

/-- The remainder of `n` by `d` as a scalar, divided by `scale`. -/
@[inline]
def residue {α : Type} [NatCast α] [Div α] (n d scale : Nat) : Checked α :=
  (remainder n d).map fun r : Nat => (r : α) / (scale : α)

theorem residue_of_pos {α : Type} [NatCast α] [Div α] {n d scale : Nat} (positive : 0 < d) :
    residue n d scale = .ok (((n % d : Nat) : α) / (scale : α)) := by
  simp [residue, remainder_of_pos positive, Except.map]

end Kernel
end DenseBench
