import DenseBench.Members
import DenseBench.RunConfig.Loading

/-!
# Documented libraries of settings

What a loader of configurations relies on in its library: which file is read, which variable is for
which key, that a later layer replaces an earlier one key by key, and that a value is converted back
to what it was made of.
-/

namespace DenseBench

/-- The keys of the fields of a configuration. -/
def RunConfig.keys : List String :=
  ["dataset", "repetitions", "log_level", "failure_policy", "units"]

namespace Settings
namespace VariableOptions

/-- A key with neither a dot nor what stands for one. -/
def Simple (options : VariableOptions) (key : String) : Prop :=
  '.' ∉ key.toList ∧ ¬options.separator.toList <:+: key.toList

/-- A variable with this name is for a key: the name, in any case of its letters, is the key after
the opening word. -/
def Names (options : VariableOptions) (key name : String) : Prop :=
  Text.lower name = Text.lower (options.marker ++ options.markerSeparator) ++ key

end VariableOptions

variable {ν ε : Type}

/-- What is documented of a library.  It tells which layers are plain at a key, in that they say
nothing about the key or give it one value as a whole; a library may lay only these over one another
in the simple way. -/
structure Library.Documented (library : Library ν ε) (Plain : String → Layer ν → Prop) : Prop where
  /-- Without layers there are no values. -/
  get?_combine_nil (key : String) : Members.get? key (library.combine []) = none
  /-- The last layer replaces the value at a key, or leaves it alone. -/
  get?_combine_concat {key : String} {layer : Layer ν} (plain : Plain key layer)
    (layers : List (Layer ν)) :
    Members.get? key (library.combine (layers ++ [layer])) =
      (Members.get? key layer).or (Members.get? key (library.combine layers))
  /-- Values that are set one by one make a plain layer. -/
  plain_standardLayer {key : String} (member : key ∈ RunConfig.keys) :
    Plain key library.standardLayer
  /-- The text of the file at a path is read. -/
  file_eq {tree : FileTree} {path text : String} (present : tree.find? path = some (.file text)) :
    library.file tree path = library.read path text
  /-- A value in the environment is that of one of the variables for its key. -/
  exists_variable {options : VariableOptions} {key : String} (simple : options.Simple key)
    {environment : List (String × String)} {value : ν}
    (given : Members.get? key (library.environment options environment) = some value) :
    ∃ name text, (name, text) ∈ environment ∧ options.Names key name ∧
      value = library.valueOf options key text
  /-- Every variable gives its key a value. -/
  no_variable {options : VariableOptions} {key : String} (simple : options.Simple key)
    {environment : List (String × String)}
    (unset : Members.get? key (library.environment options environment) = none) :
    ∀ entry ∈ environment, ¬options.Names key entry.1
  /-- The value of a text is converted back to the text. -/
  toText_ofText (key text : String) : library.toText key (library.ofText text) = .ok text
  /-- The value of a number that fits in 64 bits with its sign is converted back to the number. -/
  toCount_ofInt (key : String) {n : Nat} (fits : n ≤ 0x7FFFFFFFFFFFFFFF) :
    library.toCount key (library.ofInt n) = .ok n
  /-- The value of the name of a policy is converted back to the policy. -/
  toPolicy_ofText (policy : FailurePolicy) :
    library.toPolicy (library.ofText policy.name) = .ok policy
  /-- The value of a list of texts is converted back to the list. -/
  toTexts_ofTexts (key : String) (texts : List String) :
    library.toTexts key (library.ofTexts texts) = .ok texts

end Settings
end DenseBench
