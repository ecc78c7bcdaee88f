import DenseBench.Proofs.Session.Reach

/-!
# The registries of a session

However a session edits its registry and hands it to runners, no name is ever registered twice.  A
refused registration leaves no trace: the session goes on as if it had not been asked for.  The
edits that take the registry away and give it back lose it when they are refused, and a runner gets
the registry as it is.
-/

namespace DenseBench
namespace Session

/-- The registries of a reachable session have distinct names. -/
theorem distinctNames_reach (limit : Log.Limit) (commands : List Command) :
    (reach limit commands).registry.DistinctNames ∧
      ∀ runner, (reach limit commands).runner = some runner → runner.registry.DistinctNames := by
  have numbered := numbered_reach limit commands
  obtain ⟨number, registry⟩ := numbered.registry
  refine ⟨registry.distinct, ?_⟩
  intro runner present
  obtain ⟨number, of_runner⟩ := numbered.runner runner present
  exact of_runner.distinct

section Edits

variable (limit : Log.Limit) (session : Session)

/-- The session with a scripted unit at the end of its registry. -/
def extended (session : Session) (name : String) (script : Script) : Session where
  registry := ⟨session.registry.units ++ [script.unit session.world.positions.size name]⟩
  runner := session.runner
  last := session.last
  previous := session.previous
  world := ⟨session.world.positions.push 0, #[]⟩

variable {session} {name : String}

theorem registerScript_of_absent (absent : name ∉ session.registry.names) (script : Script) :
    session.fresh.registerScript name script = .ok (session.extended name script) := by
  rw [registerScript_eq_ok_iff]
  exact ⟨_, Registry.register_eq_ok_iff.mpr ⟨absent, rfl⟩, rfl⟩

theorem registerScript_of_taken (taken : name ∈ session.registry.names) (script : Script) :
    session.fresh.registerScript name script = .error (.duplicateUnit name) := by
  have refused : session.registry.register (script.unit session.world.positions.size name) =
      .error (.duplicateUnit name) :=
    Registry.register_eq_error_iff.mpr ⟨taken, rfl⟩
  rw [registerScript]
  exact congrArg (· >>= _) refused

/-- A new name is registered at the end. -/
theorem step_register_of_absent (absent : name ∉ session.registry.names) (script : Script) :
    session.step limit (.register name script) =
      (session.extended name script,
        ⟨.registry (session.extended name script).registry, #[], []⟩) := by
  rw [step_eq, perform, performTelling, registerScript_of_absent absent]
  rfl

/-- A name that is taken is refused, and the session stays as it was. -/
theorem step_register_of_taken (taken : name ∈ session.registry.names) (script : Script) :
    session.step limit (.register name script) =
      (session.fresh, ⟨.refused (.duplicateUnit name), #[], []⟩) := by
  rw [step_eq, perform, performTelling, registerScript_of_taken taken]
  rfl

/-- Handing the registry over makes no difference to a registration that succeeds. -/
theorem step_withUnit_of_absent (absent : name ∉ session.registry.names) (script : Script) :
    session.step limit (.withUnit name script) = session.step limit (.register name script) := by
  rw [step_eq, step_eq, perform, perform, performTelling, performTelling,
    registerScript_of_absent absent]

/-- A refusal loses a registry that was handed over. -/
theorem step_withUnit_of_taken (taken : name ∈ session.registry.names) (script : Script) :
    session.step limit (.withUnit name script) =
      (session.fresh.withoutRegistry, ⟨.refused (.duplicateUnit name), #[], []⟩) := by
  rw [step_eq, perform, performTelling, registerScript_of_taken taken]
  rfl

/-- A selection of known names leaves a part of the registry. -/
theorem step_select_of_known {wanted : List String}
    (known : ∀ name ∈ wanted, name ∈ session.registry.names) :
    ∃ selection, selection.units.Sublist session.registry.units ∧
      (session.step limit (.select wanted)).2.reply = .registry selection ∧
      (session.step limit (.select wanted)).1 = { session.fresh with registry := selection } := by
  obtain ⟨selection, selected⟩ := Registry.exists_select_eq_ok known
  have selected_fresh : session.fresh.registry.select wanted = .ok selection := selected
  refine ⟨selection, Registry.sublist_of_select selected, ?_, ?_⟩
  · rw [step_eq, perform, performTelling, selected_fresh]
  · rw [step_eq, perform, performTelling, selected_fresh]

/-- A selection with a name that is not known loses the registry. -/
theorem step_select_of_unknown {wanted : List String}
    (unknown : ∃ name ∈ wanted, name ∉ session.registry.names) :
    ∃ name ∈ wanted, name ∉ session.registry.names ∧
      session.step limit (.select wanted) =
        (session.fresh.withoutRegistry,
          ⟨.refused (.unknownUnit name session.registry.names), #[], []⟩) := by
  obtain ⟨name, member, absent, refused⟩ := Registry.select_of_unknown unknown
  have refused_fresh : session.fresh.registry.select wanted =
      .error (.unknownUnit name session.registry.names) := refused
  refine ⟨name, member, absent, ?_⟩
  rw [step_eq, perform, performTelling, refused_fresh]
  rfl

end Edits

/-- In every reachable session, the names of the registry are distinct, and so are those of the
runner's registry.  A registration succeeds exactly if the name is new, and then the unit is the
last one; otherwise the session is what it was, and every later answer is what it would have been.
Handing the registry over loses it in a refusal.  A selection that succeeds is a part of the
registry in the same order, and a build moves the registry into the runner. -/
theorem registry_edits (limit : Log.Limit) (commands : List Command) :
    let session := reach limit commands
    let names := session.registry.names
    session.registry.DistinctNames ∧
    (∀ runner, session.runner = some runner → runner.registry.DistinctNames) ∧
    (∀ name script,
      let unit := script.unit session.world.positions.size name
      let next := session.step limit (.register name script)
      (name ∉ names →
        next.2.reply = .registry next.1.registry ∧
        next.1 =
          { session.fresh with
            registry := ⟨session.registry.units ++ [unit]⟩
            world := ⟨session.world.positions.push 0, #[]⟩ }) ∧
      (name ∈ names →
        next.2.reply = .refused (.duplicateUnit name) ∧ next.1 = session.fresh ∧
        ∀ later, answers limit next.1 later = answers limit session later)) ∧
    (∀ name script,
      let next := session.step limit (.withUnit name script)
      (name ∉ names → next = session.step limit (.register name script)) ∧
      (name ∈ names →
        next.2.reply = .refused (.duplicateUnit name) ∧
        next.1 = { session.fresh with registry := .empty })) ∧
    (∀ wanted,
      let next := session.step limit (.select wanted)
      ((∀ name ∈ wanted, name ∈ names) →
        ∃ selection, selection.units.Sublist session.registry.units ∧
          next.2.reply = .registry selection ∧
          next.1 = { session.fresh with registry := selection }) ∧
      ((∃ name ∈ wanted, name ∉ names) →
        ∃ name ∈ wanted, name ∉ names ∧ next.2.reply = .refused (.unknownUnit name names) ∧
          next.1 = { session.fresh with registry := .empty })) ∧
    ∀ dataset,
      (session.step limit (.build dataset)).1 =
        { session.fresh with
          registry := .empty
          runner := some ⟨session.registry, dataset, .standard, .idle⟩ } := by
  intro session names
  obtain ⟨distinct, of_runner⟩ := distinctNames_reach limit commands
  refine ⟨distinct, of_runner, ?_, ?_, ?_, fun dataset => rfl⟩
  · intro name script unit next
    refine ⟨?_, ?_⟩
    · intro absent
      have step : next = _ := step_register_of_absent limit absent script
      rw [step]
      exact ⟨rfl, rfl⟩
    · intro taken
      have step : next = _ := step_register_of_taken limit taken script
      rw [step]
      exact ⟨rfl, rfl, answers_fresh limit session⟩
  · intro name script next
    refine ⟨fun absent => step_withUnit_of_absent limit absent script, ?_⟩
    intro taken
    have step : next = _ := step_withUnit_of_taken limit taken script
    rw [step]
    exact ⟨rfl, rfl⟩
  · intro wanted next
    refine ⟨step_select_of_known limit, ?_⟩
    intro unknown
    obtain ⟨name, member, absent, step⟩ := step_select_of_unknown limit unknown
    have step : next = _ := step
    rw [step]
    exact ⟨name, member, absent, rfl, rfl⟩

end Session
end DenseBench
