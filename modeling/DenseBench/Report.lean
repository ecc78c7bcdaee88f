import DenseBench.DatasetSize

/-!
# Run reports

A report lists every invocation of a run, in order, with the status that the unit returned.  The
failures of units are read off the records; the run itself has failed only if it was cut short.
-/

namespace DenseBench

/-- The outcome of one invocation. -/
structure InvocationRecord where
  /-- The name of the unit. -/
  unit : String
  /-- The pass, counted from zero. -/
  pass : Nat
  /-- What the unit returned. -/
  status : Int32
  deriving DecidableEq, Repr

namespace InvocationRecord

/-- Whether the unit reported a failure. -/
def isFailure (record : InvocationRecord) : Bool :=
  record.status != 0

end InvocationRecord

/-- Everything that a run observed. -/
structure Report where
  /-- The size class of the run. -/
  dataset : DatasetSize
  /-- The number of passes asked for. -/
  repetitions : Nat
  /-- The number of units in a full pass. -/
  unitsPerPass : Nat
  /-- The invocations in order. -/
  records : Array InvocationRecord
  /-- Whether a failing unit ended the run before its last invocation. -/
  haltedEarly : Bool
  deriving DecidableEq, Repr

namespace Report

/-- The report of a run that has invoked nothing yet. -/
def start (dataset : DatasetSize) (repetitions unitsPerPass : Nat) : Report :=
  ⟨dataset, repetitions, unitsPerPass, #[], false⟩

/-- Add the outcome of an invocation. -/
def record (report : Report) (unit : String) (pass : Nat) (status : Int32) : Report :=
  { report with records := report.records.push ⟨unit, pass, status⟩ }

/-- The number of invocations. -/
def invocations (report : Report) : Nat :=
  report.records.size

/-- The failed invocations in order. -/
def failures (report : Report) : List InvocationRecord :=
  report.records.toList.filter InvocationRecord.isFailure

/-- The number of failed invocations. -/
def failureCount (report : Report) : Nat :=
  report.failures.length

/-- The invocations of one pass in order. -/
def pass (report : Report) (index : Nat) : List InvocationRecord :=
  report.records.toList.filter fun record => record.pass == index

/-- The number of passes whose last unit ran; passes without units are all complete. -/
def passesCompleted (report : Report) : Nat :=
  if report.unitsPerPass = 0 then report.repetitions
  else report.invocations / report.unitsPerPass

/-- The status of the run itself, to which failures of units do not contribute. -/
def status (_ : Report) : Int32 :=
  0

/-- The exit code for the run: one if it was cut short, else its status. -/
def exitCode (report : Report) : Int32 :=
  if report.haltedEarly then 1 else report.status

@[simp]
theorem invocations_record (report : Report) (unit : String) (pass : Nat) (status : Int32) :
    (report.record unit pass status).invocations = report.invocations + 1 := by
  simp [record, invocations]

end Report
end DenseBench
