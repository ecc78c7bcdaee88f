import DenseBench.Registry

/-!
# Registries and their edits

Each edit of a registry is told by what it yields when it succeeds.  From there every edit keeps the
names distinct.
-/

namespace DenseBench
namespace Registry

variable {σ : Type} {registry next : Registry σ}

/-- A registration that succeeds has a new name, and appends the unit. -/
theorem register_eq_ok_iff {unit : BenchmarkUnit σ} :
    registry.register unit = .ok next ↔
      unit.name ∉ registry.names ∧ next = ⟨registry.units ++ [unit]⟩ := by
  rw [← contains_iff, Bool.not_eq_true, register]
  cases taken : registry.contains unit.name with
  | true => simp
  | false => simp [eq_comm]

/-- A registration that fails has a name that is taken. -/
theorem register_eq_error_iff {unit : BenchmarkUnit σ} {error : RegistryError} :
    registry.register unit = .error error ↔
      unit.name ∈ registry.names ∧ error = .duplicateUnit unit.name := by
  rw [← contains_iff, register]
  cases taken : registry.contains unit.name with
  | true => simp [eq_comm]
  | false => simp

/-- The units with these names. -/
def keep (registry : Registry σ) (wanted : List String) : Registry σ :=
  ⟨registry.units.filter fun unit => wanted.contains unit.name⟩

/-- A selection of known names succeeds. -/
theorem select_eq_keep {wanted : List String} (some_wanted : wanted ≠ [])
    (known : ∀ name ∈ wanted, registry.contains name = true) :
    registry.select wanted = .ok (registry.keep wanted) := by
  have none_unknown : (wanted.find? fun name => !registry.contains name) = none := by
    rw [List.find?_eq_none]
    intro name member
    simp [known name member]
  have filled : wanted.isEmpty = false := by simpa using some_wanted
  rw [select, filled, none_unknown]
  rfl

/-- A selection with a name that is not known is refused, with one of these names. -/
theorem select_of_unknown {wanted : List String}
    (unknown : ∃ name ∈ wanted, name ∉ registry.names) :
    ∃ name ∈ wanted, name ∉ registry.names ∧
      registry.select wanted = .error (.unknownUnit name registry.names) := by
  obtain ⟨name, member, absent⟩ := unknown
  have filled : wanted.isEmpty = false := by
    rw [List.isEmpty_eq_false_iff]
    exact List.ne_nil_of_mem member
  cases found : wanted.find? fun name => !registry.contains name with
  | none =>
      have known := List.find?_eq_none.mp found name member
      rw [← contains_iff] at absent
      simp [absent] at known
  | some first =>
      have first_absent := List.find?_some found
      refine ⟨first, List.mem_of_find?_eq_some found, ?_, ?_⟩
      · rw [← contains_iff]
        simpa using first_absent
      · rw [select, filled, found]
        rfl

/-- A selection of known names succeeds, also without any names. -/
theorem exists_select_eq_ok {wanted : List String}
    (known : ∀ name ∈ wanted, name ∈ registry.names) :
    ∃ selection, registry.select wanted = .ok selection := by
  rcases List.eq_nil_or_concat wanted with rfl | ⟨front, last, rfl⟩
  · exact ⟨registry, rfl⟩
  · exact ⟨_, select_eq_keep (by simp) fun name member =>
      (registry.contains_iff name).mpr (known name member)⟩

/-- A selection that succeeds is a part of the registry, in the same order. -/
theorem sublist_of_select {wanted : List String} (selected : registry.select wanted = .ok next) :
    next.units.Sublist registry.units := by
  rw [select] at selected
  split at selected
  next =>
    cases selected
    exact List.Sublist.refl _
  next =>
    split at selected
    next => contradiction
    next =>
      cases selected
      exact List.filter_sublist

/-- The names of a selection are those that are wanted, or all of them. -/
theorem names_select {wanted : List String} (selected : registry.select wanted = .ok next) :
    next.names = registry.names.filter fun name => wanted = [] ∨ name ∈ wanted := by
  rw [select] at selected
  split at selected
  next empty =>
    cases selected
    rw [List.isEmpty_iff.mp empty, List.filter_eq_self.mpr]
    simp
  next filled =>
    split at selected
    next => contradiction
    next =>
      cases selected
      have some_wanted : wanted ≠ [] := by simpa using filled
      simp [Registry.names, List.filter_map, Function.comp_def, some_wanted]

theorem distinctNames_empty : (empty : Registry σ).DistinctNames :=
  List.nodup_nil

theorem names_standard : (standard : Registry σ).names = Kernel.suite.map Kernel.Entry.name := by
  simp [standard, Registry.names, Function.comp_def, BenchmarkUnit.ofKernel]

theorem distinctNames_standard : (standard : Registry σ).DistinctNames := by
  rw [DistinctNames, names_standard]
  decide

theorem DistinctNames.register {unit : BenchmarkUnit σ} (distinct : registry.DistinctNames)
    (registered : registry.register unit = .ok next) : next.DistinctNames := by
  obtain ⟨fresh, rfl⟩ := register_eq_ok_iff.mp registered
  have names : (⟨registry.units ++ [unit]⟩ : Registry σ).names = registry.names ++ [unit.name] := by
    simp [Registry.names]
  rw [DistinctNames, names, List.nodup_append]
  refine ⟨distinct, List.pairwise_singleton _ _, ?_⟩
  rintro name member other single rfl
  rw [List.mem_singleton.mp single] at member
  exact fresh member

theorem DistinctNames.select {wanted : List String} (distinct : registry.DistinctNames)
    (selected : registry.select wanted = .ok next) : next.DistinctNames :=
  List.Sublist.nodup ((sublist_of_select selected).map _) distinct

end Registry
end DenseBench
