import DenseBench.Kernel.Atax
import DenseBench.Kernel.Bicg
import DenseBench.Kernel.Cholesky
import DenseBench.Kernel.Correlation
import DenseBench.Kernel.Doitgen
import DenseBench.Kernel.Gemm
import DenseBench.Kernel.Gemver
import DenseBench.Kernel.Gesummv
import DenseBench.Kernel.Mvt
import DenseBench.Kernel.Symm
import DenseBench.Kernel.Syr2k
import DenseBench.Kernel.Syrk
import DenseBench.Kernel.ThreeProducts
import DenseBench.Kernel.Trisolv
import DenseBench.Kernel.Trmm
import DenseBench.Kernel.TwoProducts

/-!
# The suite

All kernels by name, in the order in which a full pass invokes them.
-/

namespace DenseBench
namespace Kernel

/-- A kernel of the suite. -/
structure Entry where
  /-- The name of the kernel. -/
  name : String
  /-- One benchmark run at a size class. -/
  run : DatasetSize → Checked Int32

/-- The suite: the statistics kernel first, then linear algebra. -/
def suite : List Entry :=
  [⟨"correlation", Correlation.run⟩,
   ⟨"2mm", TwoProducts.run⟩,
   ⟨"3mm", ThreeProducts.run⟩,
   ⟨"atax", Atax.run⟩,
   ⟨"bicg", Bicg.run⟩,
   ⟨"cholesky", Cholesky.run⟩,
   ⟨"doitgen", Doitgen.run⟩,
   ⟨"gemm", Gemm.run⟩,
   ⟨"gemver", Gemver.run⟩,
   ⟨"gesummv", Gesummv.run⟩,
   ⟨"mvt", Mvt.run⟩,
   ⟨"symm", Symm.run⟩,
   ⟨"syr2k", Syr2k.run⟩,
   ⟨"syrk", Syrk.run⟩,
   ⟨"trisolv", Trisolv.run⟩,
   ⟨"trmm", Trmm.run⟩]

/-- The kernel with this name. -/
def find? (name : String) : Option Entry :=
  suite.find? fun entry => entry.name == name

end Kernel
end DenseBench
