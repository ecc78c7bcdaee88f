import DenseBench.Proofs.Registry.Independence
import DenseBench.Proofs.Runner.Panics

/-!
# Reachable sessions

`Transition` says once what a command can do to a session.  Invariants of all reachable sessions are
proved from it, one case for each kind of effect; here it is shown that the units of the registry
and those of the runner always follow scripts with distinct numbers.
-/

namespace DenseBench
namespace Session

namespace Command

/-- The number of passes that a command asks the runner for. -/
def passes? : Command → Option Nat
  | run repetitions => some repetitions
  | runStatus repetitions => some repetitions
  | _ => none

/-- Whether a command renews the state of the runner: it builds a runner or lets it run. -/
def renews : Command → Bool
  | build _ => true
  | run _ => true
  | runStatus _ => true
  | _ => false

theorem renews_of_passes? {command : Command} {repetitions : Nat}
    (asks : command.passes? = some repetitions) : command.renews = true := by
  cases command with
  | run => rfl
  | runStatus => rfl
  | _ => contradiction

end Command

/-- What a command can do to a session. -/
inductive Transition (session : Session) : Command → Session → Prop
  | unchanged {command : Command} (calm : command.renews = true → session.runner = none) :
      Transition session command session
  | emptied {command : Command} (calm : command.renews = false) :
      Transition session command { session with registry := .empty }
  | standard : Transition session .standard { session with registry := .standard }
  | registered {command : Command} {name : String} {script : Script}
      {registry : Registry ScriptWorld} (calm : command.renews = false)
      (registered : session.registry.register
        (script.unit session.world.positions.size name) = .ok registry) :
      Transition session command
        { session with
          registry
          world := { session.world with positions := session.world.positions.push 0 } }
  | selected {wanted : List String} {registry : Registry ScriptWorld}
      (selected : session.registry.select wanted = .ok registry) :
      Transition session (.select wanted) { session with registry }
  | invoked {index : Nat} {unit : BenchmarkUnit ScriptWorld} (dataset : DatasetSize)
      (found : session.registry.units[index]? = some unit) :
      Transition session (.invoke index dataset)
        { session with world := (unit.call dataset session.world).2 }
  | built (dataset : DatasetSize) :
      Transition session (.build dataset)
        { session with registry := .empty, runner := some (.new session.registry dataset) }
  | policy {runner : Runner ScriptWorld} (policy : FailurePolicy)
      (present : session.runner = some runner) :
      Transition session (.policy policy)
        { session with runner := some (runner.withPolicy policy) }
  | ran {command : Command} {repetitions : Nat} {runner : Runner ScriptWorld}
      (last previous : Option Report) (asks : command.passes? = some repetitions)
      (present : session.runner = some runner) :
      Transition session command
        { session with
          runner := some (runner.run repetitions session.world).runner
          last
          previous
          world := (runner.run repetitions session.world).world }

theorem Transition.of_calm {session : Session} {command : Command}
    (calm : command.renews = false) : Transition session command session :=
  .unchanged fun renews => absurd (calm.symm.trans renews) (by decide)

theorem registerScript_eq_ok_iff {session next : Session} {name : String} {script : Script} :
    session.registerScript name script = .ok next ↔
      ∃ registry,
        session.registry.register (script.unit session.world.positions.size name) =
            .ok registry ∧
          next =
            { session with
              registry
              world := { session.world with positions := session.world.positions.push 0 } } := by
  rw [registerScript]
  cases session.registry.register (script.unit session.world.positions.size name) with
  | ok registry => simp [bind, Except.bind, pure, Except.pure, eq_comm]
  | error => simp [bind, Except.bind]

/-- Every command has one of these effects. -/
theorem transition_perform (session : Session) (command : Command) :
    Transition session command (session.perform command).1 := by
  cases command with
  | new => exact .emptied rfl
  | standard => exact .standard
  | register name script =>
      simp only [perform, performTelling]
      split
      next registered =>
        obtain ⟨registry, accepted, rfl⟩ := registerScript_eq_ok_iff.mp registered
        exact .registered rfl accepted
      next => exact .of_calm rfl
  | withUnit name script =>
      simp only [perform, performTelling]
      split
      next registered =>
        obtain ⟨registry, accepted, rfl⟩ := registerScript_eq_ok_iff.mp registered
        exact .registered rfl accepted
      next => exact .emptied rfl
  | select wanted =>
      simp only [perform, performTelling]
      split
      next selected => exact .selected selected
      next => exact .emptied rfl
  | invoke index dataset =>
      simp only [perform, performTelling]
      split
      next => exact .of_calm rfl
      next found => exact .invoked dataset found
  | build dataset => exact .built dataset
  | policy policy =>
      simp only [perform, performTelling]
      split
      next => exact .of_calm rfl
      next present => exact .policy policy present
  | run repetitions =>
      simp only [perform, performTelling]
      split
      next absent => exact .unchanged fun _ => absent
      next runner present =>
        simp only [runOnce]
        split
        next => exact .ran session.last session.previous rfl present
        next report _ => exact .ran (some report) session.last rfl present
  | runStatus repetitions =>
      simp only [perform, performTelling]
      split
      next absent => exact .unchanged fun _ => absent
      next runner present =>
        simp only [runOnce]
        split
        next => exact .ran session.last session.previous rfl present
        next => exact .ran session.last session.previous rfl present
  | state | pass | same =>
      simp only [perform, performTelling]
      split <;> exact .of_calm rfl
  | registry | contains | describe => exact .of_calm rfl

/-- The session as every command finds it, without the calls of earlier commands. -/
def fresh (session : Session) : Session :=
  { session with world := { session.world with calls := #[] } }

theorem step_eq (limit : Log.Limit) (session : Session) (command : Command) :
    session.step limit command =
      ((session.fresh.perform command).1,
        { reply := (session.fresh.perform command).2.1
          calls := (session.fresh.perform command).1.world.calls
          log := ((session.fresh.perform command).2.2.filter fun event =>
            limit.admits event.level).map Event.line }) := rfl

theorem transition_step (limit : Log.Limit) (session : Session) (command : Command) :
    Transition session.fresh command (session.step limit command).1 :=
  session.fresh.transition_perform command

/-- The answers to some commands, one after the other. -/
def answers (limit : Log.Limit) : Session → List Command → List Answer
  | _, [] => []
  | session, command :: rest =>
    (session.step limit command).2 :: answers limit (session.step limit command).1 rest

/-- What earlier commands have called makes no difference to later ones. -/
theorem answers_fresh (limit : Log.Limit) (session : Session) (commands : List Command) :
    answers limit session.fresh commands = answers limit session commands := by
  cases commands <;> rfl

/-- The session after some commands. -/
def reach (limit : Log.Limit) (commands : List Command) : Session :=
  commands.foldl (fun session command => (session.step limit command).1) start

theorem reach_append_singleton (limit : Log.Limit) (commands : List Command) (command : Command) :
    reach limit (commands ++ [command]) = ((reach limit commands).step limit command).1 := by
  rw [reach, List.foldl_append]
  rfl

/-- What every command keeps, holds of all reachable sessions. -/
theorem reach_induction {kept : Session → Prop} (limit : Log.Limit) (begin_kept : kept start)
    (step : ∀ session command, kept session → kept (session.step limit command).1)
    (commands : List Command) : kept (reach limit commands) := by
  induction commands using List.reverseRecOn with
  | nil => exact begin_kept
  | append_singleton commands command ih =>
      rw [reach_append_singleton]
      exact step _ command ih

/-- The units of the registry follow scripts with distinct numbers that are in use, and so do those
of the runner. -/
structure Numbered (session : Session) : Prop where
  /-- The registry under construction. -/
  registry : ∃ number, session.registry.Numbered number session.world.positions.size
  /-- The registry of the runner. -/
  runner : ∀ runner, session.runner = some runner →
    ∃ number, runner.registry.Numbered number session.world.positions.size

theorem numbered_start : start.Numbered where
  registry := ⟨_, Registry.numbered_empty 0⟩
  runner runner present := by simp [start] at present

theorem Numbered.fresh {session : Session} (numbered : session.Numbered) :
    session.fresh.Numbered :=
  ⟨numbered.registry, numbered.runner⟩

/-- No run of numbered units puts a script in or takes one away. -/
theorem size_positions_run {runner : Runner ScriptWorld} {number : String → Option Nat}
    {bound : Nat} (numbered : runner.registry.Numbered number bound) (repetitions : Nat)
    (world : ScriptWorld) :
    (runner.run repetitions world).world.positions.size = world.positions.size := by
  refine Runner.run_induction
    (fun after : ScriptWorld => after.positions.size = world.positions.size) ?_ repetitions rfl
  intro unit member before same
  rw [(numbered.follows unit member).size_positions, same]

theorem Numbered.transition {session next : Session} {command : Command}
    (numbered : session.Numbered) (transition : Transition session command next) :
    next.Numbered := by
  obtain ⟨⟨number, registry⟩, runners⟩ := numbered
  cases transition with
  | unchanged => exact ⟨⟨number, registry⟩, runners⟩
  | emptied => exact ⟨⟨_, Registry.numbered_empty _⟩, runners⟩
  | standard => exact ⟨⟨_, Registry.numbered_standard _⟩, runners⟩
  | registered _ registered =>
      have more := registry.register _ _ registered
      rw [← Array.size_push] at more
      refine ⟨⟨_, more⟩, ?_⟩
      intro runner present
      obtain ⟨number, of_runner⟩ := runners runner present
      refine ⟨number, of_runner.mono ?_⟩
      rw [Array.size_push]
      exact Nat.le_succ _
  | selected selected => exact ⟨⟨number, registry.select selected⟩, runners⟩
  | invoked dataset found =>
      have size := (registry.follows _ (List.mem_of_getElem? found)).size_positions dataset
        session.world
      exact ⟨⟨number, by rwa [size]⟩, by rwa [size]⟩
  | built dataset =>
      refine ⟨⟨_, Registry.numbered_empty _⟩, ?_⟩
      rintro runner present
      obtain rfl := Option.some.inj present
      exact ⟨number, registry⟩
  | policy policy present =>
      refine ⟨⟨number, registry⟩, ?_⟩
      rintro runner changed
      obtain rfl := Option.some.inj changed
      obtain ⟨own, of_runner⟩ := runners _ present
      exact ⟨own, of_runner⟩
  | @ran _ repetitions runner _ _ _ present =>
      obtain ⟨own, of_runner⟩ := runners runner present
      have size := size_positions_run of_runner repetitions session.world
      refine ⟨⟨number, by rwa [size]⟩, ?_⟩
      intro after changed
      obtain rfl := Option.some.inj changed
      refine ⟨own, ?_⟩
      rw [size, Runner.runner_run]
      exact of_runner

theorem numbered_reach (limit : Log.Limit) (commands : List Command) :
    (reach limit commands).Numbered :=
  reach_induction limit numbered_start
    (fun session command numbered =>
      numbered.fresh.transition (session.transition_step limit command))
    commands

end Session
end DenseBench
