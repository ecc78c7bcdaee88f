import DenseBench.Proofs.Serial.Form
import DenseBench.Proofs.Serial.HeldReport
import DenseBench.Serial.RunConfig

/-!
# Records, reports and configurations as JSON values

The forms of a record, a report and a configuration are put together from the forms of their
fields, each level by itself.  Main result: `serial_forms`.
-/

namespace DenseBench
namespace Serial

open Success

/-- The forms of the outcome of an invocation. -/
def RecordForm (json : Json) (record : InvocationRecord) : Prop :=
  ∃ unit pass status, Fields ["unit", "pass", "status"] json [unit, pass, status] ∧
    TextForm unit record.unit ∧ NatForm pass record.pass ∧ StatusForm status record.status

/-- The forms of a report. -/
def ReportForm (json : Json) (report : Report) : Prop :=
  ∃ dataset repetitions unitsPerPass records haltedEarly,
    Fields ["dataset", "repetitions", "units_per_pass", "records", "halted_early"] json
      [dataset, repetitions, unitsPerPass, records, haltedEarly] ∧
    DatasetForm dataset report.dataset ∧ NatForm repetitions report.repetitions ∧
    NatForm unitsPerPass report.unitsPerPass ∧
    ListForm RecordForm records report.records.toList ∧ BoolForm haltedEarly report.haltedEarly

/-- The forms of a configuration. -/
def ConfigForm (json : Json) (config : RunConfig) : Prop :=
  ∃ dataset repetitions logLevel failurePolicy units,
    Fields ["dataset", "repetitions", "log_level", "failure_policy", "units"] json
      [dataset, repetitions, logLevel, failurePolicy, units] ∧
    DatasetForm dataset config.dataset ∧ NatForm repetitions config.repetitions ∧
    TextForm logLevel config.logLevel ∧ PolicyForm failurePolicy config.failurePolicy ∧
    ListForm TextForm units config.units

/-- The numbers of a record fit in 64 bits. -/
def RecordFits (record : InvocationRecord) : Prop :=
  record.pass ≤ Numeral.maxUInt64

/-- The numbers of a report fit in 64 bits. -/
def ReportFits (report : Report) : Prop :=
  report.repetitions ≤ Numeral.maxUInt64 ∧ report.unitsPerPass ≤ Numeral.maxUInt64 ∧
    ∀ record ∈ report.records.toList, RecordFits record

/-- The number of passes of a configuration fits in 64 bits. -/
def ConfigFits (config : RunConfig) : Prop :=
  config.repetitions ≤ Numeral.maxUInt64

theorem toList_eq_ofFn {α : Type} {n : Nat} (fields : Vector α n) :
    fields.toList = List.ofFn fields.get := by
  apply List.ext_getElem
  · simp
  · intro index inside _
    simp [Vector.get]

/-- An object of the fields with these values, in their order. -/
theorem fields_zip (names : List String) (values : List Json) (distinct : names.Nodup)
    (complete : values.length = names.length) :
    Fields names (.obj (names.zip values)) values := by
  have keys : (names.zip values).map Prod.fst = names := List.map_fst_zip (by omega)
  refine .named (List.forall₂_iff_zip.mpr ⟨complete.symm, ?_⟩)
  intro name value member
  exact (Json.holds_iff_mem (by rwa [keys])).mpr member

theorem codec_record : Codec decodeRecord encodeRecord RecordForm RecordFits where
  decode_eq_ok_iff := by
    intro json record
    simp only [decodeRecord, bind_eq_ok_iff, decodeFields_eq_ok_iff, codec_string.decode_eq_ok_iff,
      codec_nat.decode_eq_ok_iff, codec_int32.decode_eq_ok_iff, pure, Except.pure, Except.ok.injEq]
    constructor
    · rintro ⟨fields, form, unit, unit_form, pass, pass_form, status, status_form, rfl⟩
      rw [toList_eq_ofFn fields] at form
      exact ⟨_, _, _, form, unit_form, pass_form, status_form⟩
    · rintro ⟨unit, pass, status, form, unit_form, pass_form, status_form⟩
      exact ⟨#v[unit, pass, status], form, _, unit_form, _, pass_form, _, status_form, rfl⟩
  form_encode := by
    intro record within
    exact ⟨_, _, _, fields_zip ["unit", "pass", "status"] [_, _, _] (by decide) rfl,
      codec_string.form_encode trivial, codec_nat.form_encode within,
      codec_int32.form_encode trivial⟩
  inRange_of_form := by
    rintro json record ⟨_, _, _, _, _, pass_form, _⟩
    exact codec_nat.inRange_of_form pass_form

theorem codec_report : Codec decodeReport encodeReport ReportForm ReportFits where
  decode_eq_ok_iff := by
    intro json report
    simp only [decodeReport, five, bind_eq_ok_iff, decodeFields_eq_ok_iff,
      codec_dataset.decode_eq_ok_iff, codec_nat.decode_eq_ok_iff,
      (codec_list codec_record).decode_eq_ok_iff, codec_bool.decode_eq_ok_iff, pure, Except.pure,
      Except.ok.injEq]
    constructor
    · rintro ⟨fields, form, dataset, dataset_form, repetitions, repetitions_form, units, units_form,
        records, records_form, halted, halted_form, rfl⟩
      rw [toList_eq_ofFn fields] at form
      exact ⟨_, _, _, _, _, form, dataset_form, repetitions_form, units_form, records_form,
        halted_form⟩
    · rintro ⟨dataset, repetitions, units, records, halted, form, dataset_form, repetitions_form,
        units_form, records_form, halted_form⟩
      exact ⟨#v[dataset, repetitions, units, records, halted], form, _, dataset_form, _,
        repetitions_form, _, units_form, _, records_form, _, halted_form, rfl⟩
  form_encode := by
    rintro report ⟨repetitions, units, records⟩
    exact ⟨_, _, _, _, _,
      fields_zip ["dataset", "repetitions", "units_per_pass", "records", "halted_early"]
        [_, _, _, _, _] (by decide) rfl,
      codec_dataset.form_encode trivial, codec_nat.form_encode repetitions,
      codec_nat.form_encode units, (codec_list codec_record).form_encode records,
      codec_bool.form_encode trivial⟩
  inRange_of_form := by
    rintro json report ⟨_, _, _, _, _, _, _, repetitions_form, units_form, records_form, _⟩
    exact ⟨codec_nat.inRange_of_form repetitions_form, codec_nat.inRange_of_form units_form,
      (codec_list codec_record).inRange_of_form records_form⟩

theorem codec_config : Codec decodeConfig encodeConfig ConfigForm ConfigFits where
  decode_eq_ok_iff := by
    intro json config
    simp only [decodeConfig, five, bind_eq_ok_iff, decodeFields_eq_ok_iff,
      codec_dataset.decode_eq_ok_iff, codec_nat.decode_eq_ok_iff, codec_string.decode_eq_ok_iff,
      codec_policy.decode_eq_ok_iff, (codec_list codec_string).decode_eq_ok_iff, pure, Except.pure,
      Except.ok.injEq]
    constructor
    · rintro ⟨fields, form, dataset, dataset_form, repetitions, repetitions_form, level, level_form,
        policy, policy_form, units, units_form, rfl⟩
      rw [toList_eq_ofFn fields] at form
      exact ⟨_, _, _, _, _, form, dataset_form, repetitions_form, level_form, policy_form,
        units_form⟩
    · rintro ⟨dataset, repetitions, level, policy, units, form, dataset_form, repetitions_form,
        level_form, policy_form, units_form⟩
      exact ⟨#v[dataset, repetitions, level, policy, units], form, _, dataset_form, _,
        repetitions_form, _, level_form, _, policy_form, _, units_form, rfl⟩
  form_encode := by
    intro config within
    exact ⟨_, _, _, _, _,
      fields_zip ["dataset", "repetitions", "log_level", "failure_policy", "units"]
        [_, _, _, _, _] (by decide) rfl,
      codec_dataset.form_encode trivial, codec_nat.form_encode within,
      codec_string.form_encode trivial, codec_policy.form_encode trivial,
      (codec_list codec_string).form_encode (by simp)⟩
  inRange_of_form := by
    rintro json config ⟨_, _, _, _, _, _, _, repetitions_form, _⟩
    exact codec_nat.inRange_of_form repetitions_form

/-- An object is read as the map of its members: a key that is repeated is there once, with its last
value, and no reading is refused for it. -/
theorem decode_distinctMembers (members : List (String × Json)) :
    let distinct := Json.obj (Json.distinctMembers members)
    ((Json.distinctMembers members).map Prod.fst).Nodup ∧
      decodeRecord distinct = decodeRecord (.obj members) ∧
      decodeReport distinct = decodeReport (.obj members) ∧
      decodeConfig distinct = decodeConfig (.obj members) ∧
      decodePolicy distinct = decodePolicy (.obj members) := by
  refine ⟨Json.nodup_distinctMembers members, ?_, ?_, ?_, decodePolicy_distinctMembers members⟩
  · rw [decodeRecord, decodeRecord, decodeFields_distinctMembers]
  · rw [decodeReport, decodeReport, decodeFields_distinctMembers]
  · rw [decodeConfig, decodeConfig, decodeFields_distinctMembers]

/-- Configurations, reports and records are read exactly from their forms, whichever form it is, and
what is written is one of them.  Each level of a form stands by itself: fields are an object, in any
order and among others, or an array of just them.  A report that is not read leaves the held report,
and all that follows, as it was. -/
theorem serial_forms :
    (∀ {config}, ConfigFits config → decodeConfig (encodeConfig config) = .ok config) ∧
    (∀ {report}, ReportFits report → decodeReport (encodeReport report) = .ok report) ∧
    (∀ {record}, RecordFits record → decodeRecord (encodeRecord record) = .ok record) ∧
    (∀ {json config}, decodeConfig json = .ok config ↔ ConfigForm json config) ∧
    (∀ {json report}, decodeReport json = .ok report ↔ ReportForm json report) ∧
    (∀ {json record}, decodeRecord json = .ok record ↔ RecordForm json record) ∧
    (∀ {names members others values}, (members.map Prod.fst).Nodup → members.Perm others →
      (Fields names (.obj members) values ↔ Fields names (.obj others) values)) ∧
    (∀ {names key} ignored before after {values}, key ∉ names →
      (Fields names (.obj (before ++ (key, ignored) :: after)) values ↔
        Fields names (.obj (before ++ after)) values)) ∧
    (∀ {json other config}, ConfigForm json config → ConfigForm other config →
      decodeConfig json = decodeConfig other) ∧
    (∀ {json other report}, ReportForm json report → ReportForm other report →
      decodeReport json = decodeReport other) ∧
    (∀ {json other record}, RecordForm json record → RecordForm other record →
      decodeRecord json = decodeRecord other) ∧
    (∀ {json config}, decodeConfig json = .ok config →
      decodeConfig (encodeConfig config) = .ok config) ∧
    (∀ {json report}, decodeReport json = .ok report →
      decodeReport (encodeReport report) = .ok report) ∧
    (∀ {json record}, decodeRecord json = .ok record →
      decodeRecord (encodeRecord record) = .ok record) ∧
    (∀ held {json report}, ReportForm json report →
      HeldReport.perform held (.load json) = (report, .summary report)) ∧
    (∀ held {json}, (∀ report, ¬ReportForm json report) → ∃ error,
      HeldReport.perform held (.load json) = (held, .refused error) ∧
      ∀ start before after, HeldReport.performAll start (before ++ .load json :: after) =
        ((HeldReport.performAll start (before ++ after)).1,
          (HeldReport.performAll start before).2 ++ .refused error ::
            (HeldReport.performAll (HeldReport.performAll start before).1 after).2)) := by
  refine ⟨codec_config.decode_encode, codec_report.decode_encode, codec_record.decode_encode,
    codec_config.decode_eq_ok_iff, codec_report.decode_eq_ok_iff, codec_record.decode_eq_ok_iff,
    fields_perm, fields_insert, codec_config.decode_congr, codec_report.decode_congr,
    codec_record.decode_congr, codec_config.decode_encode_of_decode,
    codec_report.decode_encode_of_decode, codec_record.decode_encode_of_decode, ?_, ?_⟩
  · intro held json report form
    rw [HeldReport.perform, codec_report.decode_eq_ok_iff.mpr form]
  · intro held json formless
    obtain ⟨error, refused⟩ := codec_report.exists_error formless
    have kept : ∀ held, HeldReport.perform held (.load json) = (held, .refused error) := by
      intro held
      rw [HeldReport.perform, refused]
    refine ⟨error, kept held, fun start before after => ?_⟩
    exact HeldReport.performAll_of_refused after (by rw [kept])

end Serial
end DenseBench
