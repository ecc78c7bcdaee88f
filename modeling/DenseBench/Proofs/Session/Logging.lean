import DenseBench.Proofs.Runner.Logging
import DenseBench.Proofs.Session.Log
import Mathlib.Data.List.Forall2

/-!
# Sessions and their limits

A session under a limit writes its lines where the events happen, if the limit lets them through.
Two sessions that differ in their limits only go in step: they give the same replies, make the same
calls and are in the same state all along, and the lines under the narrower limit are those under
the wider one whose levels it admits.
-/

namespace DenseBench
namespace Session

variable {τ : Type} [Event.Sink τ]

/-- Whatever a log makes of the events, a run in a session does the same. -/
theorem runOnce_eq (log : τ) (session : Session) (runner : Runner ScriptWorld)
    (repetitions : Nat) :
    session.runOnce runner repetitions log =
      ((session.runOnce runner repetitions (#[] : Array Event)).1,
        (session.runOnce runner repetitions (#[] : Array Event)).2.told log) := by
  rw [runOnce, Runner.runTelling_eq]
  rfl

/-- Whatever a log makes of the events, a command does the same. -/
theorem performTelling_eq (log : τ) (session : Session) (command : Command) :
    session.performTelling log command =
      ((session.perform command).1, (session.perform command).2.1,
        (session.perform command).2.2.foldl Event.Sink.tell log) := by
  cases command with
  | select names =>
      simp only [performTelling, perform]
      cases session.registry.select names with
      | error => rfl
      | ok registry => cases names <;> rfl
  | run repetitions | runStatus repetitions =>
      simp only [performTelling, perform]
      cases session.runner with
      | none => rfl
      | some runner =>
          simp only [runOnce_eq log, Runner.Run.told, ← Array.foldl_toList]
          cases (session.runOnce runner repetitions (#[] : Array Event)).2.report <;> rfl
  -- no other command has events
  | register | withUnit | invoke | policy | state | pass | same =>
      simp only [performTelling, perform]
      split <;> rfl
  | _ => rfl

/-- The lines of a log under a limit. -/
structure Written (limit : Log.Limit) where
  /-- The lines so far. -/
  lines : List Log.Line

/-- The line of an event is added if the limit lets it through. -/
instance (limit : Log.Limit) : Event.Sink (Written limit) where
  tell written event :=
    if limit.admits event.level then ⟨written.lines ++ [event.line]⟩ else written

/-- `step`, which writes its lines on the way. -/
def stepWriting (limit : Log.Limit) (session : Session) (command : Command) : Session × Answer :=
  let (next, reply, written) := session.fresh.performTelling (⟨[]⟩ : Written limit) command
  (next, ⟨reply, next.world.calls, written.lines⟩)

theorem lines_foldl_tell (limit : Log.Limit) (events : List Event) (written : Written limit) :
    (events.foldl Event.Sink.tell written).lines =
      written.lines ++ (events.filter fun event => limit.admits event.level).map Event.line := by
  induction events generalizing written with
  | nil => simp
  | cons event events ih =>
      rw [List.foldl_cons, ih, List.filter_cons]
      simp only [Event.Sink.tell]
      split <;> simp

/-- Writing the lines on the way and choosing them afterwards come to the same. -/
theorem stepWriting_eq (limit : Log.Limit) (session : Session) (command : Command) :
    session.stepWriting limit command = session.step limit command := by
  rw [step_eq, stepWriting, performTelling_eq]
  simp only [lines_foldl_tell, List.nil_append]

/-- What two answers under two limits have in common: all but the lines that the narrower limit
does not let through. -/
structure Answer.Narrower (narrow : Log.Limit) (low high : Answer) : Prop where
  reply : low.reply = high.reply
  calls : low.calls = high.calls
  log : low.log = high.log.filter fun line => narrow.admits line.level

variable {narrow wide : Log.Limit}

/-- One step under two limits. -/
theorem step_narrower (le : narrow.rank ≤ wide.rank) (session : Session) (command : Command) :
    (session.step narrow command).1 = (session.step wide command).1 ∧
      Answer.Narrower narrow (session.step narrow command).2 (session.step wide command).2 := by
  refine ⟨rfl, rfl, rfl, ?_⟩
  simp only [step_eq, List.filter_map, List.filter_filter]
  congr 2
  funext event
  cases admitted : narrow.admits event.level with
  | false => simp [Event.line, admitted]
  | true => simp [Event.line, admitted, Log.Limit.admits_of_le le admitted]

/-- All answers under two limits, one by one. -/
theorem answers_narrower (le : narrow.rank ≤ wide.rank) (session : Session)
    (commands : List Command) :
    List.Forall₂ (Answer.Narrower narrow) (answers narrow session commands)
      (answers wide session commands) := by
  induction commands generalizing session with
  | nil => exact .nil
  | cons command rest ih =>
      obtain ⟨same, here⟩ := step_narrower le session command
      have later := ih (session.step narrow command).1
      refine .cons here ?_
      rwa [same] at later

theorem reach_eq_of_le (le : narrow.rank ≤ wide.rank) (commands : List Command) :
    reach narrow commands = reach wide commands := by
  induction commands using List.reverseRecOn with
  | nil => rfl
  | append_singleton commands command ih =>
      rw [reach_append_singleton, reach_append_singleton, ih]
      exact (step_narrower le (reach wide commands) command).1

/-- Logging changes nothing.  Whether a session writes its lines on the way or chooses them
afterwards, under two limits it replies the same to every command, makes the same calls and ends in
the same state, with the same registry, runner, reports and positions of the scripts, also after
refusals and panics.  The lines of every command under the narrower limit are those under the wider
one that it admits, in the same order. -/
theorem limits_noninterference (le : narrow.rank ≤ wide.rank) (commands : List Command) :
    (∀ limit session command, stepWriting limit session command = step limit session command) ∧
      reach narrow commands = reach wide commands ∧
      List.Forall₂
        (fun low high => low.reply = high.reply ∧ low.calls = high.calls ∧
          low.log = high.log.filter fun line => narrow.admits line.level)
        (answers narrow start commands) (answers wide start commands) := by
  refine ⟨stepWriting_eq, reach_eq_of_le le commands, ?_⟩
  exact (answers_narrower le start commands).imp fun _ _ common =>
    ⟨common.reply, common.calls, common.log⟩

/-- A unit that fails, and panics in the next pass. -/
def failing : List Command :=
  [.register "steady" (.statuses []), .register "failing" (.statuses [some 3, none]),
    .select ["failing"], .build .mini, .run 2]

/-- The run that panics logs four lines, of which a limit at warnings shows one. -/
theorem limits_noninterference_failing :
    Log.Limit.rank (some .warn) ≤ Log.Limit.rank (some .trace) ∧
      reach (some .warn) failing = reach (some .trace) failing ∧
      (answers (some .trace) start failing)[4]?.map Answer.log =
        some [.opening 1 2 .mini, .announcement 0 "failing", .warning "failing" 3 0,
          .announcement 1 "failing"] ∧
      (answers (some .warn) start failing)[4]?.map Answer.log =
        some [.warning "failing" 3 0] := by
  have le : Log.Limit.rank (some .warn) ≤ Log.Limit.rank (some .trace) := by decide
  obtain ⟨-, same, answered⟩ := limits_noninterference le failing
  have shown : (answers (some .trace) start failing)[4]?.map Answer.log =
      some [.opening 1 2 .mini, .announcement 0 "failing", .warning "failing" 3 0,
        .announcement 1 "failing"] := by
    decide
  have inside (limit : Log.Limit) : 4 < (answers limit start failing).length := by
    simp [failing, answers]
  obtain ⟨-, -, log⟩ := answered.get (inside _) (inside _)
  rw [List.getElem?_eq_getElem (inside _)] at shown
  refine ⟨le, same, shown, ?_⟩
  rw [List.getElem?_eq_getElem (inside _)]
  simp only [Option.map_some, Option.some.injEq, List.get_eq_getElem] at shown log ⊢
  rw [log, shown]
  rfl

end Session
end DenseBench
