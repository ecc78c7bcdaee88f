import DenseBench.Proofs.Settings.StandardLibrary
import DenseBench.Proofs.Success
import Mathlib

/-!
# Layered configurations

Each field of a configuration is chosen by itself.  Its value is that of the variable for it if
there is one, else that in the file if there is one, else the standard one.  This holds with every
library of settings that does what is documented of it.  Main result: `loadFrom_layers`.
-/

namespace DenseBench

open Settings

namespace RunConfig

variable {ν ε : Type} {library : Library ν ε} {Plain : String → Layer ν → Prop}

/-- What the library reads at a path: no layer if nothing stands there, and the layer of a text. -/
inductive Holds (library : Library ν ε) (tree : FileTree) (path : String) :
    Option (Layer ν) → Prop where
  | nothing (absent : tree.find? path = none) : Holds library tree path none
  | text {text : String} {layer : Layer ν} (present : tree.find? path = some (.file text))
      (readable : library.read path text = .ok layer) : Holds library tree path (some layer)

/-- For each key the text of a variable for it, if there is such a variable. -/
structure Chosen (environment : List (String × String)) (chosen : String → Option String) :
    Prop where
  /-- A text that is chosen is that of a variable for the key. -/
  given {key : String} (member : key ∈ keys) {text : String} (set : chosen key = some text) :
    ∃ name, (name, text) ∈ environment ∧ Text.lower name = "polybench_" ++ key
  /-- If none is chosen, no variable is for the key. -/
  unset {key : String} (member : key ∈ keys) (none : chosen key = none) :
    ∀ entry ∈ environment, Text.lower entry.1 ≠ "polybench_" ++ key

namespace Chosen

variable {environment : List (String × String)} {chosen : String → Option String} {key : String}

/-- Where only one text is given for a key, it is chosen. -/
theorem eq_some (texts : Chosen environment chosen) (member : key ∈ keys) {name text : String}
    (present : (name, text) ∈ environment) (named : Text.lower name = "polybench_" ++ key)
    (only : ∀ entry ∈ environment, Text.lower entry.1 = "polybench_" ++ key → entry.2 = text) :
    chosen key = some text := by
  cases set : chosen key with
  | none => exact absurd named (texts.unset member set (name, text) present)
  | some other =>
      obtain ⟨otherName, otherPresent, otherNamed⟩ := texts.given member set
      exact congrArg some (only _ otherPresent otherNamed)

theorem eq_none (texts : Chosen environment chosen) (member : key ∈ keys)
    (nobody : ∀ entry ∈ environment, Text.lower entry.1 ≠ "polybench_" ++ key) :
    chosen key = none := by
  cases set : chosen key with
  | none => rfl
  | some text =>
      obtain ⟨name, present, named⟩ := texts.given member set
      exact absurd named (nobody (name, text) present)

end Chosen

/-- The value that wins at a key: that of the variable, else that of the file, else the standard
one. -/
def winner (library : Library ν ε) (options : VariableOptions) (chosen : String → Option String)
    (file : Option (Layer ν)) (key : String) : Option ν :=
  ((chosen key).map (library.valueOf options key)).or
    ((file.bind (Members.get? key)).or (Members.get? key library.standardLayer))

/-- Each field of a configuration is what the value at its key is converted to. -/
structure Describes (library : Library ν ε) (value? : String → Option ν) (config : RunConfig) :
    Prop where
  dataset : ∃ value ∈ value? "dataset", ∃ text, library.toText "dataset" value = .ok text ∧
    DatasetSize.ofString text = .ok config.dataset
  repetitions : ∃ value ∈ value? "repetitions",
    library.toCount "repetitions" value = .ok config.repetitions
  logLevel : ∃ value ∈ value? "log_level", library.toText "log_level" value = .ok config.logLevel
  failurePolicy : ∃ value ∈ value? "failure_policy",
    library.toPolicy value = .ok config.failurePolicy
  units : ∃ value ∈ value? "units", library.toTexts "units" value = .ok config.units

theorem Describes.congr {value? other? : String → Option ν} {config : RunConfig}
    (same : ∀ key ∈ keys, value? key = other? key) (describes : Describes library value? config) :
    Describes library other? config := by
  simp only [keys, List.forall_mem_cons] at same
  obtain ⟨dataset, repetitions, level, policy, units, -⟩ := same
  exact ⟨dataset ▸ describes.dataset, repetitions ▸ describes.repetitions,
    level ▸ describes.logLevel, policy ▸ describes.failurePolicy, units ▸ describes.units⟩

theorem describes_congr {value? other? : String → Option ν} {config : RunConfig}
    (same : ∀ key ∈ keys, value? key = other? key) :
    Describes library value? config ↔ Describes library other? config :=
  ⟨.congr same, .congr fun key member => (same key member).symm⟩

theorem field_eq_ok_iff {settings : Layer ν} {key : String} {value : ν} :
    library.field settings key = .ok value ↔ value ∈ Members.get? key settings := by
  rw [Library.field]
  split <;> simp [*]

theorem toDataset_eq_ok_iff {key : String} {value : ν} {size : DatasetSize} :
    library.toDataset key value = .ok size ↔
      ∃ text, library.toText key value = .ok text ∧ DatasetSize.ofString text = .ok size := by
  simp only [Library.toDataset, Success.bind_eq_ok_iff, Success.mapError_eq_ok_iff]

/-- Settings describe a configuration if each field is described. -/
theorem ofSettings_eq_ok_iff {settings : Layer ν} {config : RunConfig} :
    library.ofSettings settings = .ok config ↔
      Describes library (fun key => Members.get? key settings) config := by
  simp only [Library.ofSettings, Success.bind_eq_ok_iff, field_eq_ok_iff, toDataset_eq_ok_iff, pure,
    Except.pure, Except.ok.injEq]
  constructor
  · rintro ⟨_, dataset, _, ⟨_, text, size⟩, _, repetitions, _, count, _, level, _, levelText,
      _, policy, _, policyName, _, units, _, names, rfl⟩
    exact ⟨⟨_, dataset, _, text, size⟩, ⟨_, repetitions, count⟩, ⟨_, level, levelText⟩,
      ⟨_, policy, policyName⟩, ⟨_, units, names⟩⟩
  · rintro ⟨⟨_, dataset, _, text, size⟩, ⟨_, repetitions, count⟩, ⟨_, level, levelText⟩,
      ⟨_, policy, policyName⟩, ⟨_, units, names⟩⟩
    exact ⟨_, dataset, _, ⟨_, text, size⟩, _, repetitions, _, count, _, level, _, levelText,
      _, policy, _, policyName, _, units, _, names, rfl⟩

/-- Settings that agree at the keys of the fields describe the same. -/
theorem ofSettings_congr {settings others : Layer ν}
    (same : ∀ key ∈ keys, Members.get? key settings = Members.get? key others) :
    library.ofSettings settings = library.ofSettings others := by
  have field_eq : ∀ key ∈ keys, library.field settings key = library.field others key := by
    intro key member
    rw [Library.field, Library.field, same key member]
  simp only [keys, List.forall_mem_cons] at field_eq
  obtain ⟨dataset, repetitions, level, policy, units, -⟩ := field_eq
  simp only [Library.ofSettings, dataset, repetitions, level, policy, units]

theorem simple_variableOptions : ∀ key ∈ keys, Library.variableOptions.Simple key := by
  simp only [VariableOptions.Simple]
  decide +kernel

theorem names_variableOptions {key name : String} :
    Library.variableOptions.Names key name ↔ Text.lower name = "polybench_" ++ key := by
  have opening : Text.lower ("POLYBENCH" ++ "_") = "polybench_" := by decide
  rw [← opening]
  rfl

section Documented

variable (documented : library.Documented Plain)
include documented

/-- The values in an environment are those of variables that are named for the keys. -/
theorem exists_chosen (environment : List (String × String)) :
    ∃ chosen, Chosen environment chosen ∧ ∀ key ∈ keys,
      Members.get? key (library.environment Library.variableOptions environment) =
        (chosen key).map (library.valueOf Library.variableOptions key) := by
  have pick (key : String) : ∃ choice : Option String, key ∈ keys →
      Members.get? key (library.environment Library.variableOptions environment) =
          choice.map (library.valueOf Library.variableOptions key) ∧
        (∀ text, choice = some text →
          ∃ name, (name, text) ∈ environment ∧ Text.lower name = "polybench_" ++ key) ∧
        (choice = none → ∀ entry ∈ environment, Text.lower entry.1 ≠ "polybench_" ++ key) := by
    by_cases member : key ∈ keys
    · have simple := simple_variableOptions key member
      cases found : Members.get? key (library.environment Library.variableOptions environment) with
      | none =>
          refine ⟨none, fun _ => ⟨rfl, by simp, fun _ entry present => ?_⟩⟩
          exact mt names_variableOptions.mpr (documented.no_variable simple found entry present)
      | some value =>
          obtain ⟨name, text, present, named, rfl⟩ := documented.exists_variable simple found
          refine ⟨some text, fun _ => ⟨rfl, ?_, by simp⟩⟩
          rintro _ ⟨⟩
          exact ⟨name, present, names_variableOptions.mp named⟩
    · exact ⟨none, fun impossible => absurd impossible member⟩
  choose chosen spec using pick
  exact ⟨chosen, ⟨fun member _ set => (spec _ member).2.1 _ set,
    fun member unset => (spec _ member).2.2 unset⟩, fun key member => (spec key member).1⟩

/-- Below the environment, a file replaces the standard values. -/
theorem get?_below {key : String} (member : key ∈ keys) {file : Option (Layer ν)}
    (plain : ∀ layer ∈ file, Plain key layer) :
    Members.get? key (library.combine (library.standardLayer :: file.toList)) =
      (file.bind (Members.get? key)).or (Members.get? key library.standardLayer) := by
  have lowest : Members.get? key (library.combine [library.standardLayer]) =
      Members.get? key library.standardLayer := by
    have concat := documented.get?_combine_concat (documented.plain_standardLayer member) []
    rwa [documented.get?_combine_nil, Option.or_none] at concat
  cases file with
  | none => exact lowest
  | some layer =>
      have concat := documented.get?_combine_concat (plain layer rfl) [library.standardLayer]
      rwa [lowest] at concat

/-- The value that wins is the one that the layers hold.  The file only matters where the
environment gives no value. -/
theorem get?_layers {key : String} (member : key ∈ keys) {surroundings : Surroundings}
    {chosen : String → Option String} {file : Option (Layer ν)}
    (upper : Plain key (library.variableLayer surroundings))
    (given : Members.get? key (library.variableLayer surroundings) =
      (chosen key).map (library.valueOf Library.variableOptions key))
    (lower : chosen key = none → ∀ layer ∈ file, Plain key layer) :
    Members.get? key (library.combine
        (library.standardLayer :: file.toList ++ [library.variableLayer surroundings])) =
      winner library Library.variableOptions chosen file key := by
  rw [documented.get?_combine_concat upper, given, winner]
  cases set : chosen key with
  | none => rw [get?_below documented member (lower set)]
  | some text => rfl

theorem loadFrom_of_holds {path : String} {surroundings : Surroundings} {file : Option (Layer ν)}
    (holds : Holds library surroundings.files path file) :
    library.loadFrom path surroundings = library.ofLayers file surroundings := by
  rw [Library.loadFrom]
  cases holds with
  | nothing absent => simp [absent]
  | text present readable => simp [present, documented.file_eq present, readable]; rfl

/-- The standard values describe the standard configuration. -/
theorem describes_standard :
    Describes library (fun key => Members.get? key library.standardLayer) standard where
  dataset := ⟨_, rfl, _, documented.toText_ofText _ _, rfl⟩
  repetitions := ⟨_, rfl, documented.toCount_ofInt _ (by decide)⟩
  logLevel := ⟨_, rfl, documented.toText_ofText _ _⟩
  failurePolicy := ⟨_, rfl, documented.toPolicy_ofText _⟩
  units := ⟨_, rfl, documented.toTexts_ofTexts _ _⟩

end Documented

theorem load_of_first {surroundings : Surroundings}
    (present : surroundings.files.find? "polybench.toml" ≠ none) :
    library.load surroundings = library.loadFrom "polybench.toml" surroundings := by
  rw [Library.load, usualPaths, List.find?_cons, Option.isSome_iff_ne_none.mpr present]

theorem load_of_second {surroundings : Surroundings}
    (absent : surroundings.files.find? "polybench.toml" = none) :
    library.load surroundings = library.loadFrom "polybench.yaml" surroundings := by
  rw [Library.load, usualPaths, List.find?_cons, absent, Option.isSome_none, List.find?_cons,
    List.find?_nil]
  cases present : surroundings.files.find? "polybench.yaml" with
  | none => simp [Library.loadFrom, present]
  | some entry => rfl

/-- With every documented library, a configuration is loaded if and only if the value that wins at
each of the five keys can be converted, and it is made of these five values: for each key that of a
variable if there is one, else that in the file if there is one, else the standard one.  What a file
says about a key for which there is a variable does not matter.  Of the two usual files only the
first one that is there is read; without a file and without variables for the keys the configuration
is the standard one.  If the library lays all layers over one another key by key, every layer is
plain, and this holds for all files and variables. -/
theorem loadFrom_layers (documented : library.Documented Plain) (surroundings : Surroundings) :
    let options : VariableOptions := ⟨"POLYBENCH", "_", "__", true, ",", ["units"]⟩
    (∀ key ∈ keys, Plain key (library.environment options surroundings.environment)) →
    ∃ chosen, Chosen surroundings.environment chosen ∧
      (∀ path file, Holds library surroundings.files path file →
        (∀ key ∈ keys, chosen key = none → ∀ layer ∈ file, Plain key layer) →
        (∀ config, library.loadFrom path surroundings = .ok config ↔
          Describes library (winner library options chosen file) config) ∧
        ∀ others otherPath other, others.environment = surroundings.environment →
          Holds library others.files otherPath other →
          (∀ key ∈ keys, chosen key = none → (∀ layer ∈ other, Plain key layer) ∧
            other.bind (Members.get? key) = file.bind (Members.get? key)) →
          library.loadFrom otherPath others = library.loadFrom path surroundings) ∧
      (surroundings.files.find? "polybench.toml" ≠ none →
        library.load surroundings = library.loadFrom "polybench.toml" surroundings) ∧
      (surroundings.files.find? "polybench.toml" = none →
        library.load surroundings = library.loadFrom "polybench.yaml" surroundings) ∧
      ((∀ key ∈ keys, chosen key = none) →
        (∀ path, surroundings.files.find? path = none →
          library.loadFrom path surroundings = .ok standard) ∧
        (surroundings.files.find? "polybench.toml" = none →
          surroundings.files.find? "polybench.yaml" = none →
          library.load surroundings = .ok standard)) := by
  intro options upper
  obtain ⟨chosen, variables_of, given⟩ := exists_chosen documented surroundings.environment
  have layers {file : Option (Layer ν)}
      (lower : ∀ key ∈ keys, chosen key = none → ∀ layer ∈ file, Plain key layer) :
      ∀ key ∈ keys, Members.get? key (library.combine
          (library.standardLayer :: file.toList ++ [library.variableLayer surroundings])) =
        winner library options chosen file key := fun key member =>
    get?_layers documented member (upper key member) (given key member) (lower key member)
  have loaded {path file} (holds : Holds library surroundings.files path file)
      (lower : ∀ key ∈ keys, chosen key = none → ∀ layer ∈ file, Plain key layer) (config) :
      library.loadFrom path surroundings = .ok config ↔
        Describes library (winner library options chosen file) config := by
    rw [loadFrom_of_holds documented holds, Library.ofLayers, ofSettings_eq_ok_iff]
    exact describes_congr (layers lower)
  have unset_standard (unset : ∀ key ∈ keys, chosen key = none) {path}
      (absent : surroundings.files.find? path = none) :
      library.loadFrom path surroundings = .ok standard := by
    rw [loaded (.nothing absent) (by simp)]
    refine (describes_standard documented).congr fun key member => ?_
    rw [winner, unset key member]
    rfl
  refine ⟨chosen, variables_of, ?_, load_of_first, load_of_second, fun unset =>
    ⟨fun path absent => unset_standard unset absent, ?_⟩⟩
  · intro path file holds lower
    refine ⟨loaded holds lower, ?_⟩
    intro others otherPath other same otherHolds agree
    have environment : library.variableLayer others = library.variableLayer surroundings :=
      congrArg (library.environment options) same
    rw [loadFrom_of_holds documented holds, loadFrom_of_holds documented otherHolds,
      Library.ofLayers, Library.ofLayers, environment]
    refine ofSettings_congr fun key member => ?_
    rw [layers lower key member,
      layers (fun key member unset => (agree key member unset).1) key member, winner, winner]
    cases set : chosen key with
    | none => rw [(agree key member set).2]
    | some text => rfl
  · intro noFirst noSecond
    rw [load_of_second noFirst]
    exact unset_standard unset noSecond

/-- A file that asks for a size class that there is not, which a variable overrides. -/
def overridden : Surroundings where
  files := .ofPaths [("polybench.toml", "dataset = \"gigantic\"\nrepetitions = 3\n")]
  environment := [("POLYBENCH_DATASET", "small")]

/-- The settings in that file. -/
def overriddenLayer : Layer Setting :=
  [("dataset", .scalar (some "polybench.toml") (.text "gigantic")),
   ("repetitions", .scalar (some "polybench.toml") (.int 3))]

theorem holds_overridden :
    Holds Library.standard overridden.files "polybench.toml" (some overriddenLayer) := by
  have format : File.format? "polybench.toml" = some .toml := by decide +kernel
  have origin : File.normal "polybench.toml" = "polybench.toml" := by decide +kernel
  have parsed :
      Toml.parse? (File.dropMark "dataset = \"gigantic\"\nrepetitions = 3\n".toList) =
        some (.obj [("dataset", .str "gigantic"), ("repetitions", .int 3)]) := by cbv
  refine .text rfl ?_
  simp only [Library.standard, File.read, format, File.layerOfText, origin, FileFormat.parse?,
    parsed]
  rfl

/-- The text of the file cannot be converted, and that of the variable is. -/
theorem loadFrom_layers_overridden :
    Library.standard.Documented Settings.Plain ∧
      (∀ key ∈ keys, Settings.Plain key (Library.standard.variableLayer overridden)) ∧
      load overridden = .ok { standard with dataset := .small, repetitions := 3 } := by
  have upper : ∀ key ∈ keys, Settings.Plain key (Library.standard.variableLayer overridden) := by
    intro key member
    refine Environment.plain_layer (simple_keys key member) ?_
    rintro _ (_ | ⟨_, ⟨⟩⟩) _ ⟨⟩ reaches
    exact Option.some.inj reaches
  have lower : ∀ key ∈ keys, Settings.Plain key overriddenLayer := fun key member =>
    plain_of_keys member (by decide +kernel) (by decide +kernel)
      (by simp [overriddenLayer, Setting.IsTable])
  refine ⟨documented_standard, upper, ?_⟩
  obtain ⟨chosen, texts, loaded, first, -⟩ :=
    loadFrom_layers documented_standard overridden upper
  have dataset : chosen "dataset" = some "small" :=
    texts.eq_some (by decide) (List.mem_singleton_self _) (by decide) (by decide)
  have others : ∀ key ∈ keys, key ≠ "dataset" → chosen key = none := by
    intro key member different
    refine texts.eq_none member ?_
    revert key
    decide
  have plain : ∀ key ∈ keys, chosen key = none →
      ∀ layer ∈ some overriddenLayer, Settings.Plain key layer := by
    rintro key member - _ ⟨⟩
    exact lower key member
  rw [load, first (by decide), (loaded _ _ holds_overridden plain).1]
  constructor
  · exact ⟨_, by rw [winner, dataset]; rfl, "small", rfl, rfl⟩
  all_goals
    refine ⟨_, by rw [winner, others _ (by decide) (by decide)]; rfl, ?_⟩
    rfl

end RunConfig
end DenseBench
