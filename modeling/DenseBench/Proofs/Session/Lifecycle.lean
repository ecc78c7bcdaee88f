import DenseBench.Proofs.Session.Reach

/-!
# The life of a runner

A runner is marked as running exactly if the last run since it was built was broken off by a panic.
Such a run has used up the script entries of the units that it called, and nothing else is left of
it: the next run is that of a runner that was just built.
-/

namespace DenseBench
namespace Session

/-- Of the commands that build a runner or let it run, the last one was a run that a unit broke
off by a panic. -/
def BrokenOff (limit : Log.Limit) (commands : List Command) : Prop :=
  ∃ before command after repetitions runner call,
    commands = before ++ command :: after ∧ (∀ later ∈ after, later.renews = false) ∧
      command.passes? = some repetitions ∧ (reach limit before).runner = some runner ∧
      call ∈ runner.calls repetitions (reach limit before).fresh.world ∧
      call.outcome = .panicked

section BrokenOff

variable {limit : Log.Limit} {commands before after : List Command} {command decisive : Command}

/-- The last command is the decisive one, or one of those after it. -/
theorem split_append_singleton (split : commands ++ [command] = before ++ decisive :: after) :
    (commands = before ∧ command = decisive ∧ after = []) ∨
      ∃ front, commands = before ++ decisive :: front ∧ after = front ++ [command] := by
  rcases List.eq_nil_or_concat after with rfl | ⟨front, last, rfl⟩
  · obtain ⟨rfl, same⟩ := List.append_inj' split rfl
    exact .inl ⟨rfl, by simpa using same, rfl⟩
  · rw [List.concat_eq_append, ← List.cons_append, ← List.append_assoc] at split
    obtain ⟨rfl, same⟩ := List.append_inj' split rfl
    obtain rfl : command = last := by simpa using same
    exact .inr ⟨front, rfl, List.concat_eq_append⟩

/-- A command that leaves the state alone does not matter. -/
theorem brokenOff_append_of_calm (calm : command.renews = false) :
    BrokenOff limit (commands ++ [command]) ↔ BrokenOff limit commands := by
  constructor
  · rintro ⟨before, decisive, after, repetitions, runner, call, split, quiet, asks, rest⟩
    rcases split_append_singleton split with ⟨-, rfl, -⟩ | ⟨front, earlier, rfl⟩
    · rw [Command.renews_of_passes? asks] at calm
      contradiction
    · refine ⟨before, decisive, front, repetitions, runner, call, earlier, ?_, asks, rest⟩
      intro later member
      exact quiet later (List.mem_append_left _ member)
  · rintro ⟨before, decisive, after, repetitions, runner, call, rfl, quiet, rest⟩
    refine ⟨before, decisive, after ++ [command], repetitions, runner, call, by simp, ?_, rest⟩
    intro later member
    rcases List.mem_append.mp member with earlier | last
    · exact quiet later earlier
    · rw [List.mem_singleton.mp last]
      exact calm

/-- A command that renews the state decides alone. -/
theorem brokenOff_append_of_renews (renews : command.renews = true) :
    BrokenOff limit (commands ++ [command]) ↔
      ∃ repetitions runner call, command.passes? = some repetitions ∧
        (reach limit commands).runner = some runner ∧
        call ∈ runner.calls repetitions (reach limit commands).fresh.world ∧
        call.outcome = .panicked := by
  constructor
  · rintro ⟨before, decisive, after, repetitions, runner, call, split, quiet, rest⟩
    rcases split_append_singleton split with ⟨rfl, rfl, -⟩ | ⟨front, -, rfl⟩
    · exact ⟨repetitions, runner, call, rest⟩
    · rw [quiet command (by simp)] at renews
      contradiction
  · rintro ⟨repetitions, runner, call, rest⟩
    exact ⟨commands, command, [], repetitions, runner, call, rfl, by simp, rest⟩

end BrokenOff

namespace Transition

variable {session next : Session} {command : Command}

/-- Commands that neither build a runner nor let it run leave its state alone. -/
theorem state_eq (transition : Transition session command next) (calm : command.renews = false) :
    next.runner.map Runner.state = session.runner.map Runner.state := by
  cases transition with
  | policy policy present =>
      rw [present]
      rfl
  | built => contradiction
  | ran _ _ asks =>
      rw [Command.renews_of_passes? asks] at calm
      contradiction
  | _ => rfl

/-- A runner whose state was renewed has just been built or has just run. -/
theorem runner_eq {runner : Runner ScriptWorld} (transition : Transition session command next)
    (renews : command.renews = true) (present : next.runner = some runner) :
    (command.passes? = none ∧ runner.state = .idle) ∨
      ∃ repetitions earlier, command.passes? = some repetitions ∧
        session.runner = some earlier ∧
        runner = (earlier.run repetitions session.world).runner := by
  cases transition with
  | unchanged calm =>
      rw [calm renews] at present
      contradiction
  | emptied calm =>
      rw [calm] at renews
      contradiction
  | registered calm =>
      rw [calm] at renews
      contradiction
  | built dataset =>
      obtain rfl := Option.some.inj present
      exact .inl ⟨rfl, rfl⟩
  | ran _ _ asks found =>
      obtain rfl := Option.some.inj present
      exact .inr ⟨_, _, asks, found, rfl⟩
  | _ => contradiction

end Transition

/-- The state of the runner tells how its last run has ended. -/
theorem state_eq_running_iff (limit : Log.Limit) (commands : List Command)
    {runner : Runner ScriptWorld} (present : (reach limit commands).runner = some runner) :
    runner.state = .running ↔ BrokenOff limit commands := by
  induction commands using List.reverseRecOn generalizing runner with
  | nil => simp [reach, start] at present
  | append_singleton commands command ih =>
      rw [reach_append_singleton] at present
      have transition := (reach limit commands).transition_step limit command
      cases renews : command.renews with
      | false =>
          have same := transition.state_eq renews
          rw [present] at same
          obtain ⟨earlier, found, state⟩ := Option.map_eq_some_iff.mp same.symm
          rw [brokenOff_append_of_calm renews, ← state]
          exact ih found
      | true =>
          rw [brokenOff_append_of_renews renews]
          rcases transition.runner_eq renews present with
            ⟨quiet, idle⟩ | ⟨repetitions, earlier, asks, found, rfl⟩
          · rw [idle, quiet]
            simp
          · rw [Runner.runner_run]
            constructor
            · intro running
              have panicked : (earlier.course repetitions
                  (reach limit commands).fresh.world).isPanicked = true := by
                simpa using running
              obtain ⟨call, member, outcome⟩ := (Runner.isPanicked_iff ..).mp panicked
              exact ⟨repetitions, earlier, call, asks, found, member, outcome⟩
            · rintro ⟨again, runner, call, same_asks, same_found, member, outcome⟩
              obtain rfl : repetitions = again := Option.some.inj (asks.symm.trans same_asks)
              obtain rfl : earlier = runner := Option.some.inj (found.symm.trans same_found)
              simp [(Runner.isPanicked_iff ..).mpr ⟨call, member, outcome⟩]

section Run

variable {session : Session} {command : Command} {repetitions : Nat}
  {runner : Runner ScriptWorld}

/-- A run that a unit breaks off changes nothing but the runner and the world. -/
theorem perform_of_panic (asks : command.passes? = some repetitions)
    (present : session.runner = some runner)
    (unfinished : (runner.run repetitions session.world).report = none) :
    session.perform command =
      ({ session with
          runner := some (runner.run repetitions session.world).runner
          world := (runner.run repetitions session.world).world },
        .brokenOff (runner.run repetitions session.world).runner.state,
        (runner.run repetitions session.world).events.toList) := by
  cases command with
  | run count | runStatus count =>
      obtain rfl : count = repetitions := Option.some.inj asks
      simp [perform, performTelling, present, runOnce, unfinished]
  | _ => contradiction

/-- What a run does to a session does not depend on the state of the runner. -/
theorem perform_renewed (asks : command.passes? = some repetitions)
    (present : session.runner = some runner) :
    { session with runner := some runner.renewed }.perform command = session.perform command := by
  cases command with
  | run count | runStatus count =>
      simp [perform, performTelling, present, runOnce, runner.run_eq_run_renewed]
  | _ => contradiction

/-- The session after a run that panics. -/
theorem step_of_panic (limit : Log.Limit) (asks : command.passes? = some repetitions)
    (present : session.runner = some runner) {index : Nat} {call : Call}
    (found : (runner.calls repetitions session.fresh.world)[index]? = some call)
    (panicked : call.outcome = .panicked) :
    (session.step limit command).1 =
        { session with
          runner := some { runner with state := .running }
          world := runner.worldBefore session.fresh.world (index + 1) } ∧
      (session.step limit command).2.reply = .brokenOff .running := by
  obtain ⟨-, -, -, unfinished, after, moved⟩ := Runner.run_of_panic found panicked
  have broken : session.fresh.perform command = _ := perform_of_panic asks present unfinished
  rw [step_eq, broken, after, moved]
  exact ⟨rfl, rfl⟩

/-- What a run does in a session does not depend on the state of the runner. -/
theorem step_renewed (limit : Log.Limit) (asks : command.passes? = some repetitions)
    (present : session.runner = some runner) :
    { session with runner := some runner.renewed }.step limit command =
      session.step limit command := by
  have same : { session.fresh with runner := some runner.renewed }.perform command =
      session.fresh.perform command := perform_renewed asks present
  rw [step_eq, step_eq, ← same]
  rfl

end Run

section Position

variable {runner : Runner ScriptWorld} {number : String → Option Nat} {bound index script : Nat}
  {first : Option Int32} {rest : List (Option Int32)} {name : String}

/-- A call moves the position of a script by one if it is a call of the unit that follows it, and by
nothing if it is a call of another one. -/
theorem position_call (numbered : runner.registry.Numbered number bound)
    (found : runner.registry.units[index]? =
      some ((Script.statuses (first :: rest)).unit script name))
    {other : Nat} {unit : BenchmarkUnit ScriptWorld}
    (other_found : runner.registry.units[other]? = some unit) (dataset : DatasetSize)
    {world : ScriptWorld} (inside : script < world.positions.size) :
    (unit.call dataset world).2.position script =
      world.position script + if other = index then 1 else 0 := by
  split
  next same =>
    obtain rfl : _ = unit := Option.some.inj (found.symm.trans (same ▸ other_found))
    simp [ScriptWorld.position, Script.positions_call, Script.stride, inside,
      Array.getElem_modify_self]
  next apart =>
    have own := (numbered.follows _ (List.mem_of_getElem? found)).eq_of_moves
      (BenchmarkUnit.moves_statuses ..)
    have different : name ≠ unit.name := by
      intro same
      have names : runner.registry.names[index]? = runner.registry.names[other]? := by
        rw [Registry.names, List.getElem?_map, List.getElem?_map, found, other_found]
        exact congrArg some same
      have listed : index < runner.registry.names.length := by
        rw [Registry.names, List.length_map]
        exact (List.getElem?_eq_some_iff.mp found).1
      exact apart ((List.getElem?_inj listed numbered.distinct).mp names).symm
    have still := numbered.still (List.mem_of_getElem? other_found) different own dataset world
    simp [ScriptWorld.position, still]

/-- Each call of a unit uses up one entry of its script, and nothing else does. -/
theorem position_run {world : ScriptWorld}
    (numbered : runner.registry.Numbered number world.positions.size) (repetitions : Nat)
    (found : runner.registry.units[index]? =
      some ((Script.statuses (first :: rest)).unit script name)) :
    (runner.run repetitions world).world.position script =
      world.position script +
        (runner.calls repetitions world).countP fun call => call.position == index := by
  have inside : script < world.positions.size := by
    apply numbered.bounded name
    exact (numbered.follows _ (List.mem_of_getElem? found)).eq_of_moves
      (BenchmarkUnit.moves_statuses ..)
  let kept (after : Watched ScriptWorld) : Prop :=
    after.world.positions.size = world.positions.size ∧
      after.world.position script =
        world.position script + after.calls.countP fun call => call.position == index
  have whole : kept (runner.watched.run repetitions ⟨world, []⟩).world := by
    refine Runner.run_induction kept ?_ repetitions ⟨rfl, rfl⟩
    rintro watched member before ⟨size, position⟩
    obtain ⟨other, unit, other_found, rfl⟩ := Runner.mem_units_watched member
    refine ⟨?_, ?_⟩
    · have follows := numbered.follows unit (List.mem_of_getElem? other_found)
      exact (follows.size_positions ..).trans size
    · have moved :=
        position_call numbered found other_found runner.dataset (size.symm ▸ inside)
      have noted : ((unit.watched other).call runner.dataset before).2.calls.countP
            (fun call => call.position == index) =
          before.calls.countP (fun call => call.position == index) +
            if other = index then 1 else 0 := by
        simp [BenchmarkUnit.watched, List.countP_append, List.countP_singleton]
      rw [position, Nat.add_assoc, ← noted] at moved
      exact moved
  rw [Runner.run_watched] at whole
  exact whole.2

end Position

/-- The runner of a reachable session is marked as running exactly if its last run was broken off,
and only a build or a run changes that.  A run that panics has called the units up to the panic and
moved their scripts, and has left the session as it was otherwise.  Whatever went before, a run does
what it does for a runner that was just built, and reports its own calls from the first pass on. -/
theorem runner_lifecycle (limit : Log.Limit) (commands : List Command)
    (runner : Runner ScriptWorld) (present : (reach limit commands).runner = some runner) :
    let session := reach limit commands
    let world := session.fresh.world
    let size := runner.registry.size
    (runner.state = .running ↔ BrokenOff limit commands) ∧
    (∀ command, command.renews = false →
      (session.step limit command).1.runner.map Runner.state = some runner.state) ∧
    ∀ command repetitions, command.passes? = some repetitions →
      let calls := runner.calls repetitions world
      let run := runner.run repetitions world
      let next := session.step limit command
      (∀ index call, calls[index]? = some call → call.outcome = .panicked →
        calls.length = index + 1 ∧
        (∀ earlier ≤ index, ∃ unit outcome,
          runner.registry.units[earlier % size]? = some unit ∧
            runner.outcome? world earlier = some outcome ∧
            calls[earlier]? = some ⟨earlier % size, runner.dataset, outcome⟩ ∧
            (outcome = .panicked ↔ earlier = index)) ∧
        run.report = none ∧ next.2.reply = .brokenOff .running ∧
        next.1 =
          { session with
            runner := some { runner with state := .running }
            world := runner.worldBefore world (index + 1) } ∧
        ∀ position first rest number name,
          runner.registry.units[position]? =
              some ((Script.statuses (first :: rest)).unit number name) →
            next.1.world.position number =
              session.world.position number +
                calls.countP fun call => call.position == position) ∧
      { session with runner := some runner.renewed }.step limit command = next ∧
      ∀ report, run.report = some report →
        report.records.size = calls.length ∧
        ∀ index record, report.records[index]? = some record →
          ∃ unit, runner.registry.units[index % size]? = some unit ∧
            record.unit = unit.name ∧ record.pass = index / size ∧
            calls[index]? = some ⟨index % size, runner.dataset, .returned record.status⟩ := by
  intro session world size
  refine ⟨state_eq_running_iff limit commands present, ?_, ?_⟩
  · intro command calm
    rw [((session.transition_step limit command).state_eq calm)]
    exact congrArg (Option.map Runner.state) present
  intro command repetitions asks calls run next
  refine ⟨?_, ?_, fun report finished => Runner.record_of_report finished⟩
  · intro index call found panicked
    obtain ⟨-, length, called, report, -, moved⟩ := Runner.run_of_panic found panicked
    obtain ⟨step, reply⟩ := step_of_panic limit asks present found panicked
    obtain ⟨number, numbered⟩ := (numbered_reach limit commands).fresh.runner runner present
    refine ⟨length, called, report, reply, step, ?_⟩
    intro position first rest script name unit
    have counted := position_run numbered repetitions unit
    rw [moved] at counted
    rw [show next.1 = _ from step]
    exact counted
  · exact step_renewed limit asks present

/-- A unit that panics at every second call has been built into a runner and has panicked. -/
def flaky : List Command :=
  [.register "flaky" (.statuses [some 0, none]), .build .mini, .run 5]

/-- The runner of the flaky unit is marked as running, and its next run is broken off by the second
call again. -/
theorem runner_lifecycle_flaky :
    ∃ runner, (reach (some .trace) flaky).runner = some runner ∧ runner.state = .running ∧
      BrokenOff (some .trace) flaky ∧
      runner.calls 5 (reach (some .trace) flaky).fresh.world =
        [⟨0, .mini, .returned 0⟩, ⟨0, .mini, .panicked⟩] ∧
      ((reach (some .trace) flaky).step (some .trace) (.run 5)).1.world.position 0 = 4 := by
  obtain ⟨state, -, runs⟩ := runner_lifecycle (some .trace) flaky _ rfl
  obtain ⟨broken, -, -⟩ := runs (.run 5) 5 rfl
  obtain ⟨-, -, -, -, -, moved⟩ := broken 1 ⟨0, .mini, .panicked⟩ (by decide) rfl
  refine ⟨_, rfl, rfl, state.mp rfl, by decide, ?_⟩
  exact (moved 0 (some 0) [none] 0 "flaky" rfl).trans (by decide)

end Session
end DenseBench
