import DenseBench.RunConfig
import DenseBench.Serial.Decoder

/-!
# Run configurations as JSON values
-/

namespace DenseBench
namespace Serial

/-- The written form of a configuration. -/
def encodeConfig (config : RunConfig) : Json :=
  .obj [
    ("dataset", encodeDataset config.dataset),
    ("repetitions", .int config.repetitions),
    ("log_level", .str config.logLevel),
    ("failure_policy", encodePolicy config.failurePolicy),
    ("units", .arr (config.units.map .str))]

/-- Read a configuration. -/
def decodeConfig (json : Json) : Decoded RunConfig := do
  let (dataset, repetitions, logLevel, failurePolicy, units) := five (←
    decodeFields #v["dataset", "repetitions", "log_level", "failure_policy", "units"] json)
  return {
    dataset := ← decodeDataset dataset
    repetitions := ← decodeNat repetitions
    logLevel := ← decodeString logLevel
    failurePolicy := ← decodePolicy failurePolicy
    units := ← decodeList decodeString units }

end Serial
end DenseBench
