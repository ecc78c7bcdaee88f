import DenseBench.Proofs.Registry.Edits
import Mathlib.Data.List.Dedup

/-!
# Selections from a registry

A selection looks at the wanted names twice: once from the first name to the last one, for a name
that the registry does not know, and once for each unit of the registry.  Together the two passes
depend on the wanted names as a set only, except for the name that a refusal carries.  Main result:
`select_laws`, with the composition of two selections.
-/

namespace DenseBench
namespace Registry

variable {σ : Type} {registry selection : Registry σ} {wanted other : List String}

theorem contains_eq_false_iff {name : String} :
    registry.contains name = false ↔ name ∉ registry.names := by
  rw [← contains_iff, Bool.not_eq_true]

/-- The name that a refusal carries is the first one that is not known. -/
theorem select_of_first_unknown {before after : List String} {name : String}
    (known : ∀ other ∈ before, other ∈ registry.names) (unknown : name ∉ registry.names) :
    registry.select (before ++ name :: after) = .error (.unknownUnit name registry.names) := by
  have found : ((before ++ name :: after).find? fun name => !registry.contains name) =
      some name := by
    rw [List.find?_eq_some_iff_append]
    refine ⟨?_, before, after, rfl, ?_⟩
    · simpa using contains_eq_false_iff.mpr unknown
    · intro other member
      simpa using (registry.contains_iff other).mpr (known other member)
  have filled : (before ++ name :: after).isEmpty = false := by simp
  rw [select, filled, found]
  rfl

/-- Where a name is not known, there is a first one. -/
theorem exists_first_unknown (unknown : ∃ name ∈ wanted, name ∉ registry.names) :
    ∃ before name after, wanted = before ++ name :: after ∧
      (∀ other ∈ before, other ∈ registry.names) ∧ name ∉ registry.names := by
  obtain ⟨name, member, absent⟩ := unknown
  have found : (wanted.find? fun name => decide (name ∉ registry.names)).isSome := by
    rw [List.find?_isSome]
    exact ⟨name, member, decide_eq_true absent⟩
  obtain ⟨first, found⟩ := Option.isSome_iff_exists.mp found
  obtain ⟨first_absent, before, after, split, known⟩ := List.find?_eq_some_iff_append.mp found
  refine ⟨before, first, after, split, ?_, of_decide_eq_true first_absent⟩
  intro other member
  simpa using known other member

/-- A selection succeeds if all names are known, and then it keeps their units; no names keep every
unit. -/
theorem select_eq_ok_iff :
    registry.select wanted = .ok selection ↔
      (∀ name ∈ wanted, name ∈ registry.names) ∧
        selection = if wanted = [] then registry else registry.keep wanted := by
  by_cases unknown : ∃ name ∈ wanted, name ∉ registry.names
  · obtain ⟨before, name, after, rfl, known, absent⟩ := exists_first_unknown unknown
    rw [select_of_first_unknown known absent]
    constructor
    · intro refused
      contradiction
    · rintro ⟨all_known, -⟩
      exact absurd (all_known name (by simp)) absent
  · have known : ∀ name ∈ wanted, name ∈ registry.names := by simpa using unknown
    split_ifs with empty
    · subst empty
      simp [select, eq_comm]
    · rw [select_eq_keep empty fun name member =>
        (registry.contains_iff name).mpr (known name member)]
      constructor
      · intro same
        exact ⟨known, (Except.ok.inj same).symm⟩
      · rintro ⟨-, rfl⟩
        rfl

theorem mem_keep {unit : BenchmarkUnit σ} :
    unit ∈ (registry.keep wanted).units ↔ unit ∈ registry.units ∧ unit.name ∈ wanted := by
  simp [keep]

theorem names_keep :
    (registry.keep wanted).names = registry.names.filter fun name => wanted.contains name := by
  simp [keep, names, List.filter_map, Function.comp_def]

theorem mem_names_keep {name : String} :
    name ∈ (registry.keep wanted).names ↔ name ∈ registry.names ∧ name ∈ wanted := by
  simp [names_keep]

/-- What is kept depends on the wanted names as a set. -/
theorem keep_congr (same : ∀ name, name ∈ wanted ↔ name ∈ other) :
    registry.keep wanted = registry.keep other := by
  rw [keep, keep]
  congr 1
  apply List.filter_congr
  intro unit _
  rw [Bool.eq_iff_iff, List.contains_iff_mem, List.contains_iff_mem]
  exact same unit.name

/-- Keeping fewer units of those that were kept is keeping the fewer ones. -/
theorem keep_keep (narrower : ∀ name ∈ other, name ∈ wanted) :
    (registry.keep wanted).keep other = registry.keep other := by
  rw [keep, keep, keep]
  congr 1
  rw [List.filter_filter]
  apply List.filter_congr
  intro unit _
  by_cases kept : unit.name ∈ other
  · simp [kept, narrower unit.name kept]
  · simp [kept]

/-- Of distinct names, as many are kept as there are wanted names, not counting any twice. -/
theorem size_keep (distinct : registry.DistinctNames)
    (known : ∀ name ∈ wanted, name ∈ registry.names) :
    (registry.keep wanted).size = wanted.dedup.length := by
  have size_eq : (registry.keep wanted).size = (registry.keep wanted).names.length := by
    simp [size, names]
  rw [size_eq, names_keep]
  refine List.Perm.length_eq ((List.perm_ext_iff_of_nodup ?_ ?_).mpr ?_)
  · exact List.Nodup.filter _ distinct
  · exact List.nodup_dedup wanted
  · intro name
    simpa using known name

/-- A selection depends on the wanted names as a set, when it succeeds. -/
theorem select_congr (same : ∀ name, name ∈ wanted ↔ name ∈ other)
    (selected : registry.select wanted = .ok selection) :
    registry.select other = .ok selection := by
  obtain ⟨known, rfl⟩ := select_eq_ok_iff.mp selected
  have empty_iff : wanted = [] ↔ other = [] := by
    rw [List.eq_nil_iff_forall_not_mem, List.eq_nil_iff_forall_not_mem]
    exact forall_congr' fun name => not_congr (same name)
  rw [select_eq_ok_iff]
  refine ⟨fun name member => known name ((same name).mpr member), ?_⟩
  rw [keep_congr same]
  simp only [empty_iff]

/-- A second selection succeeds on the names that the first one has kept. -/
theorem exists_select_select_iff (some_wanted : wanted ≠ [])
    (selected : registry.select wanted = .ok selection) :
    (∃ next, selection.select other = .ok next) ↔ ∀ name ∈ other, name ∈ wanted := by
  obtain ⟨known, kept⟩ := select_eq_ok_iff.mp selected
  rw [if_neg some_wanted] at kept
  subst kept
  constructor
  · rintro ⟨next, again⟩ name member
    have member_kept := (select_eq_ok_iff.mp again).1 name member
    exact (mem_names_keep.mp member_kept).2
  · intro narrower
    apply exists_select_eq_ok
    intro name member
    exact mem_names_keep.mpr ⟨known name (narrower name member), narrower name member⟩

/-- A narrower selection may be made at once. -/
theorem select_select (some_wanted : wanted ≠ []) (some_other : other ≠ [])
    (selected : registry.select wanted = .ok selection)
    (narrower : ∀ name ∈ other, name ∈ wanted) :
    selection.select other = registry.select other := by
  obtain ⟨next, again⟩ := (exists_select_select_iff some_wanted selected).mpr narrower
  obtain ⟨known, kept⟩ := select_eq_ok_iff.mp selected
  obtain ⟨-, rfl⟩ := select_eq_ok_iff.mp again
  rw [if_neg some_wanted] at kept
  rw [again, eq_comm, select_eq_ok_iff]
  refine ⟨fun name member => known name (narrower name member), ?_⟩
  rw [if_neg some_other, if_neg some_other, kept, keep_keep narrower]

/-- Selections from a registry with distinct names.  No names select everything.  The first name
that is not known is refused, together with the names that are.  Otherwise the selection holds the
units with these names, each once, in the order of the registry, and as many as there are names
that differ.  Only the set of the names matters for it, and a selection from a selection is one
from the whole, possible for the names that were selected. -/
theorem select_laws (registry : Registry σ) (distinct : registry.DistinctNames) :
    registry.select [] = .ok registry ∧
    (∀ wanted, (∃ name ∈ wanted, name ∉ registry.names) →
      ∃ before name after, wanted = before ++ name :: after ∧
        (∀ other ∈ before, other ∈ registry.names) ∧ name ∉ registry.names ∧
        registry.select wanted = .error (.unknownUnit name registry.names)) ∧
    (∀ wanted, wanted ≠ [] → (∀ name ∈ wanted, name ∈ registry.names) →
      ∃ selection, registry.select wanted = .ok selection ∧
        selection.units.Sublist registry.units ∧
        (∀ unit, unit ∈ selection.units ↔ unit ∈ registry.units ∧ unit.name ∈ wanted) ∧
        selection.DistinctNames ∧ selection.size = wanted.dedup.length) ∧
    (∀ wanted other selection, (∀ name, name ∈ wanted ↔ name ∈ other) →
      registry.select wanted = .ok selection → registry.select other = .ok selection) ∧
    ∀ wanted other selection, wanted ≠ [] → other ≠ [] → registry.select wanted = .ok selection →
      ((∃ next, selection.select other = .ok next) ↔ ∀ name ∈ other, name ∈ wanted) ∧
      ((∀ name ∈ other, name ∈ wanted) → selection.select other = registry.select other) := by
  refine ⟨rfl, ?_, ?_, fun wanted other selection => select_congr, ?_⟩
  · intro wanted unknown
    obtain ⟨before, name, after, rfl, known, absent⟩ := exists_first_unknown unknown
    exact ⟨before, name, after, rfl, known, absent, select_of_first_unknown known absent⟩
  · intro wanted some_wanted known
    have selected : registry.select wanted = .ok (registry.keep wanted) :=
      select_eq_ok_iff.mpr ⟨known, (if_neg some_wanted).symm⟩
    exact ⟨_, selected, sublist_of_select selected, fun unit => mem_keep,
      distinct.select selected, size_keep distinct known⟩
  · intro wanted other selection some_wanted some_other selected
    exact ⟨exists_select_select_iff some_wanted selected,
      select_select some_wanted some_other selected⟩

/-- Three kernels of the suite, in another order and one of them twice; then one of the three, and
one that is not among them. -/
theorem select_laws_standard :
    (standard : Registry Unit).DistinctNames ∧
    ∃ selection,
      (standard : Registry Unit).select ["trmm", "gemm", "trmm", "mvt"] = .ok selection ∧
        selection.size = 3 ∧
        (standard : Registry Unit).select ["gemm", "mvt", "trmm"] = .ok selection ∧
        selection.select ["mvt"] = (standard : Registry Unit).select ["mvt"] ∧
        ¬ ∃ next, selection.select ["syrk"] = .ok next := by
  have distinct : (standard : Registry Unit).DistinctNames := distinctNames_standard
  obtain ⟨-, -, succeeds, as_set, composes⟩ := select_laws (standard : Registry Unit) distinct
  have known : ∀ name ∈ ["trmm", "gemm", "trmm", "mvt"],
      name ∈ (standard : Registry Unit).names := by
    rw [names_standard]
    decide
  obtain ⟨selection, selected, -, -, -, size⟩ := succeeds _ (by decide) known
  refine ⟨distinct, selection, selected, size, as_set _ _ _ ?_ selected, ?_, ?_⟩
  · intro name
    simp
    tauto
  · exact (composes _ _ _ (by decide) (by decide) selected).2 (by decide)
  · rw [(composes _ _ _ (by decide) (by decide) selected).1]
    decide

end Registry
end DenseBench
