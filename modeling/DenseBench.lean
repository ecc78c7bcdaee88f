import DenseBench.Json.Writer
import DenseBench.Kernel.Suite
import DenseBench.Main
import DenseBench.Proofs.CommandLine
import DenseBench.Proofs.Dense.Elements
import DenseBench.Proofs.Dense.Entries
import DenseBench.Proofs.Dense.Fibres
import DenseBench.Proofs.Dense.Matrix
import DenseBench.Proofs.Dense.Shape
import DenseBench.Proofs.Kernel.ChainedProducts
import DenseBench.Proofs.Kernel.Correlation.Rescaling
import DenseBench.Proofs.Kernel.FibreProducts
import DenseBench.Proofs.Kernel.GeneralProduct
import DenseBench.Proofs.Kernel.Gram
import DenseBench.Proofs.Kernel.NeededParts
import DenseBench.Proofs.Kernel.RankUpdate
import DenseBench.Proofs.Kernel.Requirements
import DenseBench.Proofs.Kernel.Safety.Blas
import DenseBench.Proofs.Kernel.Safety.Correlation
import DenseBench.Proofs.Kernel.Safety.LinearAlgebra
import DenseBench.Proofs.Kernel.Safety.Solvers
import DenseBench.Proofs.Kernel.Safety.Suite
import DenseBench.Proofs.Kernel.Substitution
import DenseBench.Proofs.Kernel.SymmetricProduct
import DenseBench.Proofs.Kernel.TriangularProduct
import DenseBench.Proofs.Kernel.UnusedTriangles
import DenseBench.Proofs.Kernel.UpdatedProducts
import DenseBench.Proofs.Kernel.VectorProducts
import DenseBench.Proofs.Kernel.WorkArrays
import DenseBench.Proofs.Registry.Selection
import DenseBench.Proofs.Runner.Calls
import DenseBench.Proofs.Runner.Completion
import DenseBench.Proofs.Runner.FailFast
import DenseBench.Proofs.Runner.Log
import DenseBench.Proofs.Runner.Logging
import DenseBench.Proofs.Runner.Panics
import DenseBench.Proofs.Runner.Passage
import DenseBench.Proofs.Runner.Passes
import DenseBench.Proofs.Runner.Selection
import DenseBench.Proofs.Runner.Splitting
import DenseBench.Proofs.Runner.Stateless
import DenseBench.Proofs.Serial.Form
import DenseBench.Proofs.Serial.RoundTrip
import DenseBench.Proofs.Session.History
import DenseBench.Proofs.Session.Lifecycle
import DenseBench.Proofs.Session.Log
import DenseBench.Proofs.Session.Logging
import DenseBench.Proofs.Session.Reach
import DenseBench.Proofs.Session.Registries
import DenseBench.Proofs.RunConfig.Layering
import DenseBench.Proofs.Spelling
import DenseBench.Serial.HeldReport
import DenseBench.Serial.Report
import DenseBench.Serial.RunConfig
import DenseBench.Session
