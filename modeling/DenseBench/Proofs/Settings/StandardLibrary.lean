import DenseBench.Proofs.Settings.Environment

/-!
# The standard library is documented

The standard library does what a loader of configurations relies on, at all layers that are plain:
those without tables and without entries for parts of a setting.
-/

namespace DenseBench
namespace Settings

/-- A text file is read by its own path. -/
theorem File.layer_eq {tree : FileTree} {path text : String}
    (present : tree.find? path = some (.file text)) :
    File.layer tree path = File.read path text := by
  rw [File.layer, present]

/-- Texts come back from their settings, wherever the list of them starts. -/
theorem itemsToTexts_map (key : String) (index : Nat) (texts : List String) :
    itemsToTexts key index (texts.map fun text => .scalar none (.text text)) = .ok texts := by
  induction texts generalizing index with
  | nil => rfl
  | cons text rest ih =>
      rw [List.map_cons, itemsToTexts, ih]
      rfl

theorem toCount_natCast (key : String) (origin : Option String) (n : Nat) :
    toCount key (.scalar origin (.int n)) = .ok n := by
  rw [toCount, if_neg (by omega)]
  rfl

/-- The keys of the fields are no paths and have no capitals. -/
theorem simple_keys : ∀ key ∈ RunConfig.keys,
    Place.ofKey key = ⟨[], .key key⟩ ∧ Setting.foldKey key = key := by
  decide +kernel

theorem not_isTable_standardLayer :
    ∀ entry ∈ Library.standard.standardLayer, ¬entry.2.IsTable := by
  simp only [Library.standardLayer, List.forall_mem_cons]
  exact ⟨id, id, id, id, id, by simp⟩

/-- A layer whose keys are those of the fields, each of them once, is plain if it has no tables. -/
theorem plain_of_keys {key : String} {layer : Layer Setting} (member : key ∈ RunConfig.keys)
    (distinct : (layer.map Prod.fst).Nodup) (fields : ∀ entry ∈ layer, entry.1 ∈ RunConfig.keys)
    (no_table : ∀ entry ∈ layer, ¬entry.2.IsTable) : Plain key layer where
  simple := simple_keys key member
  distinct := distinct
  whole := by
    intro entry present reaches
    obtain ⟨direct, folded⟩ := simple_keys _ (fields entry present)
    rw [Reaches, direct] at reaches
    exact ⟨folded.symm.trans (Option.some.inj reaches), no_table entry present⟩

theorem documented_standard : Library.standard.Documented Plain where
  get?_combine_nil _ := rfl
  get?_combine_concat plain layers := get?_combine_concat plain layers
  plain_standardLayer member :=
    plain_of_keys member (by decide +kernel) (by decide +kernel) not_isTable_standardLayer
  file_eq present := File.layer_eq present
  exists_variable := by
    intro options key simple environment value given
    obtain ⟨⟨name, text⟩, present, named, rfl⟩ :=
      Environment.exists_of_mem_layer (Members.mem_of_get? given)
    exact ⟨name, text, present, (Environment.key?_eq_some_iff simple name).mp named, rfl⟩
  no_variable := by
    intro options key simple environment unset entry present named
    exact Environment.no_variable unset entry present
      ((Environment.key?_eq_some_iff simple entry.1).mpr named)
  toText_ofText _ _ := rfl
  toCount_ofInt key _ _ := toCount_natCast key none _
  toPolicy_ofText policy := by cases policy <;> rfl
  toTexts_ofTexts key texts := itemsToTexts_map key 0 texts

end Settings
end DenseBench
