import DenseBench.Serial.Report

/-!
# Held reports

A report may be built and changed by hand, one request after the other, without a runner.  Another
report can be loaded in its place from a JSON value.  A request that is refused leaves the report as
it is.
-/

namespace DenseBench
namespace Serial
namespace HeldReport

/-- What can be asked of a held report. -/
inductive Request where
  /-- Add the outcome of an invocation, with a written status. -/
  | record (unit : String) (pass : Nat) (status : Json)
  | halt (value : Bool)
  | setRepetitions (count : Nat)
  | setUnitsPerPass (count : Nat)
  | summary
  | pass (index : Nat)
  | failures
  | isFailure (index : Nat)
  /-- Write the report. -/
  | write
  /-- Put the written report in its place. -/
  | load (json : Json)
  /-- Compare it with the written report. -/
  | equals (json : Json)

/-- The answer to a request. -/
inductive Reply where
  /-- The report, by the numbers that sum it up. -/
  | summary (report : Report)
  | records (records : List InvocationRecord)
  | answer (value : Bool)
  | written (json : Json)
  | noSuchIndex
  | refused (error : DecodeError)

/-- The report after a request, and the reply. -/
def perform (held : Report) : Request → Report × Reply
  | .record unit pass status =>
    match decodeInt32 status with
    | .ok status => let next := held.record unit pass status; (next, .summary next)
    | .error error => (held, .refused error)
  | .halt value => let next := { held with haltedEarly := value }; (next, .summary next)
  | .setRepetitions count => let next := { held with repetitions := count }; (next, .summary next)
  | .setUnitsPerPass count => let next := { held with unitsPerPass := count }; (next, .summary next)
  | .summary => (held, .summary held)
  | .pass index => (held, .records (held.pass index))
  | .failures => (held, .records held.failures)
  | .isFailure index =>
    match held.records[index]? with
    | some record => (held, .answer record.isFailure)
    | none => (held, .noSuchIndex)
  | .write => (held, .written (encodeReport held))
  | .load json =>
    match decodeReport json with
    | .ok report => (report, .summary report)
    | .error error => (held, .refused error)
  | .equals json =>
    match decodeReport json with
    | .ok report => (held, .answer (report == held))
    | .error error => (held, .refused error)

/-- The report after requests, and the replies. -/
def performAll (held : Report) : List Request → Report × List Reply
  | [] => (held, [])
  | request :: rest =>
    let (next, reply) := perform held request
    let (last, replies) := performAll next rest
    (last, reply :: replies)

end HeldReport
end Serial
end DenseBench
