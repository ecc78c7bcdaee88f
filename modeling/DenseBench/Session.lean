import DenseBench.Runner

/-!
# Sessions

A session is a registry under construction, a runner once one has been built, and the last two
reports.  Its units follow scripts, whose positions last for the whole session and are not reset by
any run.  Every command is answered by a reply, the scripted calls that it made and its log.
-/

namespace DenseBench

/-- What a scripted unit returns. -/
inductive Script where
  /-- What a kernel of the suite returns. -/
  | kernel (entry : Kernel.Entry)
  /-- The entry of a table for the size class. -/
  | bySize (table : Vector Int32 5)
  /-- One entry after the other and then from the start again; an entry without a status panics.  No
  entries at all stand for the status zero. -/
  | statuses (entries : List (Option Int32))

/-- What lasts from call to call: how often each script has been asked, and who was called. -/
structure ScriptWorld where
  /-- How many entries each script has used up. -/
  positions : Array Nat
  /-- The calls of scripted units, in order. -/
  calls : Array (String × DatasetSize)
  deriving DecidableEq, Repr

namespace ScriptWorld

/-- The world before the first call. -/
def start : ScriptWorld :=
  ⟨#[], #[]⟩

/-- The position of a script. -/
def position (world : ScriptWorld) (script : Nat) : Nat :=
  world.positions.getD script 0

/-- Use up one entry of a script. -/
def advance (world : ScriptWorld) (script : Nat) : ScriptWorld :=
  { world with positions := world.positions.modify script (· + 1) }

/-- Note a call. -/
def noteCall (world : ScriptWorld) (unit : String) (size : DatasetSize) : ScriptWorld :=
  { world with calls := world.calls.push (unit, size) }

end ScriptWorld

namespace Script

/-- The next answer of the script with this number. -/
def play (script : Script) (number : Nat) (size : DatasetSize) (world : ScriptWorld) :
    Outcome × ScriptWorld :=
  match script with
  | kernel entry => (.ofChecked (entry.run size), world)
  | bySize table => (.returned (size.pick table), world)
  | statuses [] => (.returned 0, world)
  | statuses (first :: rest) =>
    let entries := first :: rest
    let entry := entries.getD (world.position number % entries.length) first
    let outcome := match entry with
      | some status => .returned status
      | none => .panicked
    (outcome, world.advance number)

/-- The unit that follows the script with this number. -/
def unit (script : Script) (number : Nat) (name : String) : BenchmarkUnit ScriptWorld where
  name := name
  call size world := script.play number size (world.noteCall name size)

end Script

/-- The state of a session. -/
structure Session where
  /-- The registry under construction. -/
  registry : Registry ScriptWorld
  /-- The runner that was built last. -/
  runner : Option (Runner ScriptWorld)
  /-- The report of the last run. -/
  last : Option Report
  /-- The report of the run before. -/
  previous : Option Report
  /-- The positions of all scripts, and the calls of the command under way. -/
  world : ScriptWorld

namespace Session

/-- What a session can be asked to do. -/
inductive Command where
  /-- Start over with a registry without units. -/
  | new
  /-- Start over with the registry of the whole suite. -/
  | standard
  /-- Register a scripted unit; the registry survives a refusal. -/
  | register (name : String) (script : Script)
  /-- Hand the registry over to get it back with one more unit; a refusal loses it. -/
  | withUnit (name : String) (script : Script)
  /-- Hand the registry over to get it back with the named units only; a refusal loses it. -/
  | select (names : List String)
  | registry
  | contains (name : String)
  | describe
  | invoke (index : Nat) (dataset : DatasetSize)
  /-- Hand the registry over to a new runner. -/
  | build (dataset : DatasetSize)
  | policy (policy : FailurePolicy)
  | state
  /-- Run and keep the report. -/
  | run (repetitions : Nat)
  /-- Run for the status only. -/
  | runStatus (repetitions : Nat)
  | pass (index : Nat)
  | same

/-- The answer to a command. -/
inductive Reply where
  | registry (registry : Registry ScriptWorld)
  | refused (error : RegistryError)
  | answer (value : Bool)
  | text (value : String)
  | invoked (name : String) (outcome : Outcome)
  | noSuchIndex
  | runner (runner : Runner ScriptWorld)
  | noRunner
  | finished (report : Report) (state : RunnerState)
  | finishedWith (status : Int32) (state : RunnerState)
  | brokenOff (state : RunnerState)
  | records (records : List InvocationRecord)
  | noReport

/-- The session at its beginning. -/
def start : Session :=
  ⟨.empty, none, none, none, .start⟩

/-- Put a new unit into the world and the registry. -/
def registerScript (session : Session) (name : String) (script : Script) :
    Except RegistryError Session := do
  let number := session.world.positions.size
  let registry ← session.registry.register (script.unit number name)
  let world := { session.world with positions := session.world.positions.push 0 }
  return { session with registry, world }

/-- The session without its registry. -/
def withoutRegistry (session : Session) : Session :=
  { session with registry := .empty }

section Telling

variable {τ : Type} [Event.Sink τ]

/-- Let the runner run; the reports are not touched. -/
def runOnce (session : Session) (runner : Runner ScriptWorld) (repetitions : Nat) (log : τ) :
    Session × Runner.Run ScriptWorld τ :=
  let run := runner.runTelling repetitions session.world log
  ({ session with runner := some run.runner, world := run.world }, run)

/-- The effect of a command, its reply and the log that has been told of its events. -/
def performTelling (session : Session) (log : τ) : Command → Session × Reply × τ
  | .new =>
    ({ session with registry := .empty }, .registry .empty, log)
  | .standard =>
    ({ session with registry := .standard }, .registry .standard, log)
  | .register name script =>
    match session.registerScript name script with
    | .ok next => (next, .registry next.registry, log)
    | .error error => (session, .refused error, log)
  | .withUnit name script =>
    match session.registerScript name script with
    | .ok next => (next, .registry next.registry, log)
    | .error error => (session.withoutRegistry, .refused error, log)
  | .select names =>
    match session.registry.select names with
    | .ok registry =>
      let log := (Event.ofSelection names registry).foldl Event.Sink.tell log
      ({ session with registry }, .registry registry, log)
    | .error error => (session.withoutRegistry, .refused error, log)
  | .registry => (session, .registry session.registry, log)
  | .contains name => (session, .answer (session.registry.contains name), log)
  | .describe => (session, .text session.registry.describe, log)
  | .invoke index dataset =>
    match session.registry.units[index]? with
    | none => (session, .noSuchIndex, log)
    | some unit =>
      let (outcome, world) := unit.call dataset session.world
      ({ session with world }, .invoked unit.name outcome, log)
  | .build dataset =>
    let runner := Runner.new session.registry dataset
    ({ session.withoutRegistry with runner := some runner }, .runner runner, log)
  | .policy policy =>
    match session.runner with
    | none => (session, .noRunner, log)
    | some runner =>
      let runner := runner.withPolicy policy
      ({ session with runner := some runner }, .runner runner, log)
  | .state =>
    match session.runner with
    | none => (session, .noRunner, log)
    | some runner => (session, .runner runner, log)
  | .run repetitions =>
    match session.runner with
    | none => (session, .noRunner, log)
    | some runner =>
      let (next, run) := session.runOnce runner repetitions log
      match run.report with
      | none => (next, .brokenOff run.runner.state, run.events)
      | some report =>
        ({ next with last := some report, previous := session.last },
          .finished report run.runner.state, run.events)
  | .runStatus repetitions =>
    match session.runner with
    | none => (session, .noRunner, log)
    | some runner =>
      let (next, run) := session.runOnce runner repetitions log
      match run.report with
      | none => (next, .brokenOff run.runner.state, run.events)
      | some report => (next, .finishedWith report.status run.runner.state, run.events)
  | .pass index =>
    match session.last with
    | none => (session, .noReport, log)
    | some report => (session, .records (report.pass index), log)
  | .same =>
    match session.last, session.previous with
    | some last, some previous => (session, .answer (last == previous), log)
    | _, _ => (session, .answer false, log)

end Telling

/-- The effect of a command, its reply and its events. -/
def perform (session : Session) (command : Command) : Session × Reply × List Event :=
  let (next, reply, events) := session.performTelling #[] command
  (next, reply, events.toList)

/-- What is seen of a command. -/
structure Answer where
  /-- The reply. -/
  reply : Reply
  /-- The scripted calls that it made, in order. -/
  calls : Array (String × DatasetSize)
  /-- The lines that the limit lets through. -/
  log : List Log.Line

/-- One step of a session: a command with nothing but its own calls and events in view. -/
def step (limit : Log.Limit) (session : Session) (command : Command) : Session × Answer :=
  let fresh := { session with world := { session.world with calls := #[] } }
  let (next, reply, events) := fresh.perform command
  let shown := events.filter fun event => limit.admits event.level
  (next, ⟨reply, next.world.calls, shown.map Event.line⟩)

end Session
end DenseBench
