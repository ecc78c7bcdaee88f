import DenseBench.Settings.Layer
import Mathlib.Logic.Basic

/-!
# Layers, key by key

Every entry of a layer reaches one key of the outermost table, and leaves the settings at all other
keys alone.  A layer is plain at a key if at most one of its entries reaches the key, and this one
names the key itself and is not a table: then it replaces what is there.
-/

namespace DenseBench

/-- The setting has members of its own. -/
def Setting.IsTable : Setting → Prop
  | table .. => True
  | _ => False

namespace Settings

variable {key : String}

namespace Place

/-- The key of the outermost table in whose setting a place is. -/
def root? (place : Place) : Option String :=
  match place.path, place.last with
  | [], .key name => some (Setting.foldKey name)
  | .key name :: _, _ => some name
  | _, _ => none

theorem exists_root?_ofSteps (name : String) (rest : List Step) :
    ∃ root, (ofSteps (.key name) rest).root? = some root := by
  cases rest with
  | nil => exact ⟨_, rfl⟩
  | cons next rest => exact ⟨_, rfl⟩

/-- Every key is in the setting at some key of the outermost table. -/
theorem exists_root?_ofKey (key : String) : ∃ root, (ofKey key).root? = some root := by
  rw [ofKey]
  dsimp only
  split
  · next first rest found =>
    obtain ⟨⟨name, text⟩, -, read⟩ := Option.bind_eq_some_iff.mp found
    obtain ⟨steps, -, same⟩ := Option.bind_eq_some_iff.mp read
    obtain ⟨rfl, rfl⟩ := Prod.mk.inj (Option.some.inj same)
    exact exists_root?_ofSteps name steps
  · exact ⟨_, rfl⟩

/-- What is put under one root leaves the settings at all other keys alone. -/
theorem get?_put_of_ne {place : Place} {root : String} (rooted : place.root? = some root)
    (different : root ≠ key) (value there : Setting) :
    Members.get? key (place.put value there).asTable.2 = Members.get? key there.asTable.2 := by
  obtain ⟨path, last⟩ := place
  cases path with
  | nil =>
      cases last with
      | key name =>
          obtain rfl := Option.some.inj rooted
          cases value <;> exact Members.get?_put_of_ne different _ _
      | position index => contradiction
  | cons step rest =>
      cases step with
      | key name =>
          obtain rfl := Option.some.inj rooted
          exact Members.get?_put_of_ne different _ _
      | position index => contradiction

/-- A setting that is not a table replaces what is at its key. -/
theorem get?_put_key {value : Setting} (no_table : ¬value.IsTable) (name : String)
    (there : Setting) :
    Members.get? (Setting.foldKey name) ((⟨[], .key name⟩ : Place).put value there).asTable.2 =
      some value := by
  cases value with
  | table origin members => exact absurd trivial no_table
  | scalar origin value => exact Members.get?_put_same _ _ _
  | list origin items => exact Members.get?_put_same _ _ _

end Place

/-- The setting of an entry goes into the setting at a key. -/
def Reaches (key : String) (entry : String × Setting) : Prop :=
  (Place.ofKey entry.1).root? = some key

/-- A layer says at most one thing about a key, which is a setting as a whole and not a table. -/
structure Plain (key : String) (layer : Layer Setting) : Prop where
  /-- The key is neither a path nor spelt in capitals. -/
  simple : Place.ofKey key = ⟨[], .key key⟩ ∧ Setting.foldKey key = key
  /-- No key of the layer is used twice. -/
  distinct : (layer.map Prod.fst).Nodup
  /-- No entry is for a part of the setting, or is added to it. -/
  whole : ∀ entry ∈ layer, Reaches key entry → entry.1 = key ∧ ¬entry.2.IsTable

theorem Plain.tail {entry : String × Setting} {rest : Layer Setting}
    (plain : Plain key (entry :: rest)) : Plain key rest where
  simple := plain.simple
  distinct := (List.nodup_cons.mp plain.distinct).2
  whole := fun other later => plain.whole other (List.mem_cons_of_mem _ later)

theorem Plain.get?_put {entry : String × Setting} {rest : Layer Setting}
    (plain : Plain key (entry :: rest)) (there : Setting) :
    Members.get? key ((Place.ofKey entry.1).put entry.2 there).asTable.2 =
      if entry.1 = key then some entry.2 else Members.get? key there.asTable.2 := by
  obtain ⟨direct, folded⟩ := plain.simple
  split
  · next same =>
    have reaches : Reaches key entry := by
      rw [Reaches, same, direct]
      exact congrArg some folded
    rw [same, direct]
    simpa only [folded] using
      Place.get?_put_key (plain.whole entry (by simp) reaches).2 key there
  · next other =>
    obtain ⟨root, rooted⟩ := Place.exists_root?_ofKey entry.1
    refine Place.get?_put_of_ne rooted ?_ entry.2 there
    rintro rfl
    exact other (plain.whole entry (by simp) rooted).1

/-- A layer that is plain at a key replaces the setting at the key, or leaves it alone. -/
theorem get?_overlay {layer : Layer Setting} (plain : Plain key layer) (there : Setting) :
    Members.get? key (overlay there layer).asTable.2 =
      (Members.get? key layer).or (Members.get? key there.asTable.2) := by
  induction layer generalizing there with
  | nil => rfl
  | cons entry rest ih =>
      obtain ⟨name, value⟩ := entry
      have later : overlay there ((name, value) :: rest) =
          overlay ((Place.ofKey name).put value there) rest := rfl
      rw [later, ih plain.tail, plain.get?_put, Members.get?]
      split
      · next same =>
        have once : name ∉ rest.map Prod.fst := (List.nodup_cons.mp plain.distinct).1
        rw [Members.get?_eq_none_iff.mpr (same ▸ once)]
        rfl
      · rfl

/-- The last one of some layers decides on the setting at a key, if it says anything about it. -/
theorem get?_combine_concat {layer : Layer Setting} (plain : Plain key layer)
    (layers : List (Layer Setting)) :
    Members.get? key (combine (layers ++ [layer])).asTable.2 =
      (Members.get? key layer).or (Members.get? key (combine layers).asTable.2) := by
  rw [combine, List.foldl_append]
  exact get?_overlay plain (combine layers)

end Settings
end DenseBench
