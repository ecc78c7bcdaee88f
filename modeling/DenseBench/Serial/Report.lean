import DenseBench.Report
import DenseBench.Serial.Decoder

/-!
# Reports as JSON values
-/

namespace DenseBench
namespace Serial

/-- The written form of a record. -/
def encodeRecord (record : InvocationRecord) : Json :=
  .obj [("unit", .str record.unit), ("pass", .int record.pass),
    ("status", .int record.status.toInt)]

/-- Read a record. -/
def decodeRecord (json : Json) : Decoded InvocationRecord := do
  let fields ← decodeFields #v["unit", "pass", "status"] json
  return {
    unit := ← decodeString fields[0]
    pass := ← decodeNat fields[1]
    status := ← decodeInt32 fields[2] }

/-- The written form of a report. -/
def encodeReport (report : Report) : Json :=
  .obj [
    ("dataset", encodeDataset report.dataset),
    ("repetitions", .int report.repetitions),
    ("units_per_pass", .int report.unitsPerPass),
    ("records", .arr (report.records.toList.map encodeRecord)),
    ("halted_early", .bool report.haltedEarly)]

/-- Read a report. -/
def decodeReport (json : Json) : Decoded Report := do
  let (dataset, repetitions, unitsPerPass, records, haltedEarly) := five (←
    decodeFields #v["dataset", "repetitions", "units_per_pass", "records", "halted_early"] json)
  return {
    dataset := ← decodeDataset dataset
    repetitions := ← decodeNat repetitions
    unitsPerPass := ← decodeNat unitsPerPass
    records := (← decodeList decodeRecord records).toArray
    haltedEarly := ← decodeBool haltedEarly }

end Serial
end DenseBench
