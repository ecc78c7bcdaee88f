import DenseBench.Proofs.Settings.Layer
import DenseBench.Proofs.Settings.Library
import Mathlib.Data.List.Induction

/-!
# Settings in environment variables

The layer of an environment holds a setting for a key exactly if a variable is named for the key.
No key has two settings and none of them is a table, so that the layer is plain at a key unless a
variable is named for a part of its setting.
-/

namespace DenseBench

namespace Members

variable {α : Type}

theorem ofList_concat (entries : List (String × α)) (key : String) (value : α) :
    ofList (entries ++ [(key, value)]) = put key value (ofList entries) := by
  rw [ofList, List.foldl_append]
  rfl

/-- Of a repeated key the last value counts. -/
theorem get?_ofList (key : String) (entries : List (String × α)) :
    get? key (ofList entries) = get? key entries.reverse := by
  induction entries using List.reverseRecOn with
  | nil => rfl
  | append_singleton entries entry ih =>
      obtain ⟨name, value⟩ := entry
      rw [ofList_concat, List.reverse_concat, get?]
      split
      · next same =>
        subst same
        exact get?_put_same _ _ _
      · next different => rw [get?_put_of_ne different, ih]

theorem mem_of_get? {key : String} {value : α} {members : List (String × α)}
    (found : get? key members = some value) : (key, value) ∈ members := by
  induction members with
  | nil => contradiction
  | cons head rest ih =>
      obtain ⟨name, old⟩ := head
      rw [get?] at found
      split at found
      · next same =>
        subst same
        obtain rfl := Option.some.inj found
        exact List.mem_cons_self
      · exact List.mem_cons_of_mem _ (ih found)

theorem eq_or_mem_of_mem_put {key : String} {value : α} {member : String × α}
    {members : List (String × α)} (present : member ∈ put key value members) :
    member = (key, value) ∨ member ∈ members := by
  induction members with
  | nil => exact .inl (List.mem_singleton.mp present)
  | cons head rest ih =>
      obtain ⟨name, old⟩ := head
      rw [put] at present
      split at present <;> grind

theorem mem_of_mem_ofList {entries : List (String × α)} {member : String × α}
    (present : member ∈ ofList entries) : member ∈ entries := by
  induction entries using List.reverseRecOn with
  | nil => exact present
  | append_singleton entries entry ih =>
      obtain ⟨key, value⟩ := entry
      rw [ofList_concat] at present
      rw [List.mem_append, List.mem_singleton]
      exact (eq_or_mem_of_mem_put present).symm.imp_left ih

theorem keys_put (key : String) (value : α) (members : List (String × α)) :
    (put key value members).map Prod.fst =
      if key ∈ members.map Prod.fst then members.map Prod.fst
      else members.map Prod.fst ++ [key] := by
  induction members with
  | nil => rfl
  | cons head rest ih =>
      obtain ⟨name, old⟩ := head
      by_cases same : name = key
      · simp [put, same]
      · have different : key ≠ name := Ne.symm same
        simp only [put, if_neg same, List.map_cons, ih, List.mem_cons, different, false_or]
        split <;> rfl

theorem nodup_keys_ofList (entries : List (String × α)) :
    ((ofList entries).map Prod.fst).Nodup := by
  induction entries using List.reverseRecOn with
  | nil => exact .nil
  | append_singleton entries entry ih =>
      obtain ⟨key, value⟩ := entry
      rw [ofList_concat, keys_put]
      split
      · exact ih
      · next unused =>
        rw [List.nodup_append]
        refine ⟨ih, List.pairwise_singleton _ key, ?_⟩
        rintro other used last member rfl
        exact unused (List.mem_singleton.mp member ▸ used)

end Members

namespace Settings
namespace Environment

/-- A text in which the separator does not occur is left alone. -/
theorem dotted_of_not_infix {separator text : List Char} (absent : ¬separator <:+: text) :
    dotted separator 0 text = text := by
  induction text with
  | nil => rfl
  | cons c rest ih =>
      have not_here : ¬separator <+: c :: rest := fun here => absent here.isInfix
      have not_later : ¬separator <:+: rest := fun later => absent (List.infix_cons later)
      rw [dotted, if_neg (by simp [not_here]), ih not_later]

/-- A text that comes out without a dot has not been changed. -/
theorem eq_of_dotted {separator text : List Char} (no_dot : '.' ∉ dotted separator 0 text) :
    dotted separator 0 text = text := by
  induction text with
  | nil => rfl
  | cons c rest ih =>
      rw [dotted] at no_dot ⊢
      split at no_dot
      · exact absurd List.mem_cons_self no_dot
      · next not_here =>
        rw [if_neg not_here, ih (not_or.mp (mt List.mem_cons.mpr no_dot)).2]

variable {options : VariableOptions} {key : String}

/-- The variables for a simple key are those that are named for it. -/
theorem key?_eq_some_iff (simple : options.Simple key) (name : String) :
    key? options name = some key ↔ options.Names key name := by
  obtain ⟨no_dot, no_separator⟩ := simple
  have named : options.Names key name ↔
      (Text.lower name).toList = (opening options).toList ++ key.toList := by
    rw [VariableOptions.Names, ← String.toList_inj, String.toList_append]
    rfl
  rw [named, key?]
  constructor
  · intro found
    split at found
    · next opened =>
      obtain ⟨rest, folded⟩ := List.isPrefixOf_iff_prefix.mp opened
      rw [← folded, List.drop_left] at found
      have key_eq : dotted options.separator.toList 0 rest = key.toList := by
        rw [← Option.some.inj found, String.toList_ofList]
      rw [← folded, ← key_eq, eq_of_dotted (key_eq ▸ no_dot)]
    · exact nomatch found
  · intro folded
    have opened : (opening options).toList.isPrefixOf (Text.lower name).toList := by
      rw [List.isPrefixOf_iff_prefix, folded]
      exact List.prefix_append _ _
    rw [if_pos opened, folded, List.drop_left, dotted_of_not_infix no_separator,
      String.ofList_toList]

/-- Each setting in the layer of an environment is that of a variable. -/
theorem exists_of_mem_layer {name : String} {value : Setting}
    {environment : List (String × String)} (present : (name, value) ∈ layer options environment) :
    ∃ entry ∈ environment, key? options entry.1 = some name ∧
      value = setting options name entry.2 := by
  obtain ⟨entry, member, mapped⟩ := List.mem_filterMap.mp (Members.mem_of_mem_ofList present)
  obtain ⟨other, named, same⟩ := Option.map_eq_some_iff.mp mapped
  obtain ⟨rfl, rfl⟩ := Prod.mk.inj same
  exact ⟨entry, member, named, rfl⟩

theorem no_variable {environment : List (String × String)}
    (unset : Members.get? key (layer options environment) = none) :
    ∀ entry ∈ environment, key? options entry.1 ≠ some key := by
  intro entry present named
  rw [layer, Members.get?_ofList, Members.get?_eq_none_iff, List.map_reverse,
    List.mem_reverse] at unset
  refine unset (List.mem_map.mpr ⟨(key, setting options key entry.2), ?_, rfl⟩)
  exact List.mem_filterMap.mpr ⟨entry, present, Option.map_eq_some_iff.mpr ⟨key, named, rfl⟩⟩

/-- No variable holds a table. -/
theorem not_isTable_setting (options : VariableOptions) (key text : String) :
    ¬(setting options key text).IsTable := by
  rw [setting, plain]
  repeat' split
  all_goals exact id

/-- The layer of an environment is plain at a key unless a variable is for a part of the setting. -/
theorem plain_layer {environment : List (String × String)}
    (simple : Place.ofKey key = ⟨[], .key key⟩ ∧ Setting.foldKey key = key)
    (whole : ∀ entry ∈ environment, ∀ name ∈ key? options entry.1,
      (Place.ofKey name).root? = some key → name = key) :
    Plain key (layer options environment) where
  simple := simple
  distinct := Members.nodup_keys_ofList _
  whole := by
    rintro ⟨name, value⟩ present reaches
    obtain ⟨entry, member, named, rfl⟩ := exists_of_mem_layer present
    exact ⟨whole entry member name named reaches, not_isTable_setting options name entry.2⟩

end Environment
end Settings
end DenseBench
