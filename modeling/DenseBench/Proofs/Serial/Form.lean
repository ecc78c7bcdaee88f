import DenseBench.Proofs.Json.Members
import DenseBench.Proofs.Spelling
import DenseBench.Proofs.Success
import DenseBench.Serial.Decoder

/-!
# Written forms

What a JSON value has to look like to be a value of a type is said once as a relation between the
two, apart from the decoders: the *form* of the type.  A decoder and an encoder fit together over a
form (`Codec`) if the decoder reads a value exactly from its forms, and the encoder writes one of
them.  This module has the forms of texts, numbers, truth values, lists, size classes and policies,
and of the fields of a record.
-/

namespace DenseBench
namespace Serial

open Success

variable {α : Type}

/-- A decoder and an encoder that fit together over a form, for the values in a range. -/
structure Codec (decode : Json → Decoded α) (encode : α → Json) (form : Json → α → Prop)
    (inRange : α → Prop) : Prop where
  /-- A value is read exactly from its forms. -/
  decode_eq_ok_iff : ∀ {json value}, decode json = .ok value ↔ form json value
  /-- Every value in range is written in one of its forms. -/
  form_encode : ∀ {value}, inRange value → form (encode value) value
  /-- No value out of range has a form. -/
  inRange_of_form : ∀ {json value}, form json value → inRange value

namespace Codec

variable {decode : Json → Decoded α} {encode : α → Json} {form : Json → α → Prop}
  {inRange : α → Prop}

/-- What was written is read again. -/
theorem decode_encode (codec : Codec decode encode form inRange) {value : α}
    (within : inRange value) : decode (encode value) = .ok value :=
  codec.decode_eq_ok_iff.mpr (codec.form_encode within)

/-- What was read, written and read again, is the same value. -/
theorem decode_encode_of_decode (codec : Codec decode encode form inRange) {json : Json}
    {value : α} (read : decode json = .ok value) : decode (encode value) = .ok value :=
  codec.decode_encode (codec.inRange_of_form (codec.decode_eq_ok_iff.mp read))

/-- Two forms of one value are read alike. -/
theorem decode_congr (codec : Codec decode encode form inRange) {json other : Json} {value : α}
    (first : form json value) (second : form other value) : decode json = decode other := by
  rw [codec.decode_eq_ok_iff.mpr first, codec.decode_eq_ok_iff.mpr second]

/-- What has no form is refused. -/
theorem exists_error (codec : Codec decode encode form inRange) {json : Json}
    (formless : ∀ value, ¬form json value) : ∃ error, decode json = .error error := by
  cases read : decode json with
  | ok value => exact absurd (codec.decode_eq_ok_iff.mp read) (formless value)
  | error error => exact ⟨error, rfl⟩

end Codec

/-- The form of a text. -/
def TextForm (json : Json) (text : String) : Prop :=
  json = .str text

/-- The form of a truth value. -/
def BoolForm (json : Json) (value : Bool) : Prop :=
  json = .bool value

/-- The form of a number that fits in 64 bits. -/
def NatForm (json : Json) (value : Nat) : Prop :=
  json = .int value ∧ value ≤ Numeral.maxUInt64

/-- The form of a status. -/
def StatusForm (json : Json) (status : Int32) : Prop :=
  json = .int status.toInt

/-- The forms of a list: the items are forms of its elements, one by one. -/
def ListForm (form : Json → α → Prop) (json : Json) (values : List α) : Prop :=
  ∃ items, json = .arr items ∧ List.Forall₂ form items values

/-- The forms of a size class: every text that is read as the class. -/
def DatasetForm (json : Json) (size : DatasetSize) : Prop :=
  ∃ text, json = .str text ∧ DatasetSize.parse text = .ok size

/-- The forms of a policy: its name, or an object with its name as the only key, which may be
repeated, and no value there in the end. -/
def PolicyForm (json : Json) (policy : FailurePolicy) : Prop :=
  json = .str policy.name ∨
    ∃ members, json = .obj members ∧ Json.Holds members policy.name .null ∧
      ∀ member ∈ members, member.1 = policy.name

/-- The forms of the fields with these names: an object that holds every field, whatever else it
holds and in whatever order, or an array of as many values, in this order.  Of a repeated key the
last value is the one that the object holds. -/
inductive Fields (names : List String) : Json → List Json → Prop where
  | named {members values} (each : List.Forall₂ (Json.Holds members) names values) :
      Fields names (.obj members) values
  | listed {values} (complete : values.length = names.length) : Fields names (.arr values) values

theorem codec_string : Codec decodeString .str TextForm fun _ => True where
  decode_eq_ok_iff := by
    intro json text
    cases json <;> simp [decodeString, TextForm]
  form_encode _ := rfl
  inRange_of_form _ := trivial

theorem codec_bool : Codec decodeBool .bool BoolForm fun _ => True where
  decode_eq_ok_iff := by
    intro json value
    cases json <;> simp [decodeBool, BoolForm]
  form_encode _ := rfl
  inRange_of_form _ := trivial

theorem codec_nat :
    Codec decodeNat (fun value => .int value) NatForm fun value => value ≤ Numeral.maxUInt64 where
  decode_eq_ok_iff := by
    intro json value
    cases json with
    | int number =>
        simp only [decodeNat, NatForm, Json.int.injEq]
        split
        · next fits =>
          simp only [Except.ok.injEq]
          omega
        · next fits =>
          simp only [reduceCtorEq, false_iff]
          omega
    | _ => simp [decodeNat, NatForm]
  form_encode within := ⟨rfl, within⟩
  inRange_of_form form := form.2

theorem codec_int32 :
    Codec decodeInt32 (fun status => .int status.toInt) StatusForm fun _ => True where
  decode_eq_ok_iff := by
    intro json status
    cases json with
    | int number =>
        simp only [decodeInt32, StatusForm, Json.int.injEq]
        split
        · next fits =>
          rw [Except.ok.injEq]
          constructor
          · rintro rfl
            exact (Int32.toInt_ofInt_of_le fits.1 fits.2).symm
          · rintro rfl
            exact Int32.ofInt_toInt status
        · next fits =>
          simp only [reduceCtorEq, false_iff]
          rintro rfl
          exact fits ⟨status.le_toInt, status.toInt_lt⟩
    | _ => simp [decodeInt32, StatusForm]
  form_encode _ := rfl
  inRange_of_form _ := trivial

theorem codec_list {decode : Json → Decoded α} {encode : α → Json} {form : Json → α → Prop}
    {inRange : α → Prop} (item : Codec decode encode form inRange) :
    Codec (decodeList decode) (fun values => .arr (values.map encode)) (ListForm form)
      fun values => ∀ value ∈ values, inRange value where
  decode_eq_ok_iff := by
    intro json values
    cases json with
    | arr items => simp [decodeList, ListForm, mapM_eq_ok_iff, item.decode_eq_ok_iff]
    | _ => simp [decodeList, ListForm]
  form_encode := by
    intro values within
    refine ⟨_, rfl, ?_⟩
    rw [List.forall₂_map_left_iff, List.forall₂_same]
    exact fun value member => item.form_encode (within value member)
  inRange_of_form := by
    rintro json values ⟨items, -, each⟩
    induction each with
    | nil => simp
    | cons head _ ih => exact List.forall_mem_cons.mpr ⟨item.inRange_of_form head, ih⟩

theorem codec_dataset : Codec decodeDataset encodeDataset DatasetForm fun _ => True where
  decode_eq_ok_iff := by
    intro json size
    cases json with
    | str text => simp [decodeDataset, DatasetForm, DatasetSize.ofString, mapError_eq_ok_iff]
    | _ => simp [decodeDataset, DatasetForm]
  form_encode {size} _ := ⟨_, rfl, size.parse_name.1⟩
  inRange_of_form _ := trivial

theorem policyOfName_eq_ok_iff {name : String} {policy : FailurePolicy} :
    policyOfName name = .ok policy ↔ name = policy.name := by
  constructor
  · intro read
    rw [policyOfName] at read
    split at read
    · next other found =>
      obtain rfl := Except.ok.inj read
      have same := List.find?_some found
      exact (eq_of_beq same).symm
    · contradiction
  · rintro rfl
    cases policy <;> rfl

theorem codec_policy : Codec decodePolicy encodePolicy PolicyForm fun _ => True where
  decode_eq_ok_iff := by
    intro json policy
    cases json with
    | str name => simp [decodePolicy, PolicyForm, policyOfName_eq_ok_iff]
    | obj members =>
        constructor
        · intro read
          rw [decodePolicy] at read
          split at read
          · next name value single =>
            obtain ⟨other, named, last⟩ := bind_eq_ok_iff.mp read
            obtain rfl := policyOfName_eq_ok_iff.mp named
            split at last
            · obtain rfl := Except.ok.inj last
              exact .inr ⟨members, rfl, Json.distinctMembers_eq_singleton_iff.mp single⟩
            · contradiction
          · contradiction
        · rintro (impossible | ⟨others, same, held⟩)
          · contradiction
          · obtain rfl := Json.obj.inj same
            rw [decodePolicy, Json.distinctMembers_eq_singleton_iff.mpr held]
            exact bind_eq_ok_iff.mpr ⟨policy, policyOfName_eq_ok_iff.mpr rfl, rfl⟩
    | _ => simp [decodePolicy, PolicyForm]
  form_encode _ := .inl rfl
  inRange_of_form _ := trivial

theorem decodePolicy_distinctMembers (members : List (String × Json)) :
    decodePolicy (.obj (Json.distinctMembers members)) = decodePolicy (.obj members) := by
  rw [decodePolicy, decodePolicy, Json.distinctMembers_distinctMembers]

theorem fields_obj_iff {names : List String} {members : List (String × Json)}
    {values : List Json} :
    Fields names (.obj members) values ↔ List.Forall₂ (Json.Holds members) names values := by
  constructor
  · rintro (each | -)
    exact each
  · exact .named

theorem fields_arr_iff {names : List String} {items values : List Json} :
    Fields names (.arr items) values ↔ items = values ∧ values.length = names.length := by
  constructor
  · rintro (- | complete)
    exact ⟨rfl, complete⟩
  · rintro ⟨rfl, complete⟩
    exact .listed complete

/-- Fields may stand in any order. -/
theorem fields_perm {names : List String} {members others : List (String × Json)}
    {values : List Json} (distinct : (members.map Prod.fst).Nodup) (same : members.Perm others) :
    Fields names (.obj members) values ↔ Fields names (.obj others) values := by
  simp only [fields_obj_iff, funext₂ fun key value =>
    propext (@Json.holds_perm key value _ _ distinct same)]

/-- Other members are ignored. -/
theorem fields_insert {names : List String} {key : String} (ignored : Json)
    (before after : List (String × Json)) {values : List Json} (unknown : key ∉ names) :
    Fields names (.obj (before ++ (key, ignored) :: after)) values ↔
      Fields names (.obj (before ++ after)) values := by
  rw [fields_obj_iff, fields_obj_iff, List.forall₂_iff_zip, List.forall₂_iff_zip]
  refine and_congr_right fun _ => forall₂_congr fun name value => imp_congr_right fun member => ?_
  have known : name ∈ names := (List.of_mem_zip member).1
  exact Json.holds_insert_of_ne ignored before after (ne_of_mem_of_not_mem known unknown).symm

theorem decodeFields_distinctMembers {n : Nat} (names : Vector String n)
    (members : List (String × Json)) :
    decodeFields names (.obj (Json.distinctMembers members)) =
      decodeFields names (.obj members) := by
  simp only [decodeFields, Json.lookup_distinctMembers]

/-- The fields of a record are read exactly from their forms. -/
theorem decodeFields_eq_ok_iff {n : Nat} {names : Vector String n} {json : Json}
    {values : Vector Json n} :
    decodeFields names json = .ok values ↔ Fields names.toList json values.toList := by
  cases json with
  | obj members =>
      rw [decodeFields, mapM_vector_eq_ok_iff, mapM_eq_ok_iff, fields_obj_iff]
      constructor
      · intro read
        refine read.imp fun name value found => ?_
        split at found
        · next last present =>
          obtain rfl := Except.ok.inj found
          exact Json.lookup_eq_some_iff.mp present
        · contradiction
      · intro each
        refine each.imp fun name value held => ?_
        rw [Json.lookup_eq_some_iff.mpr held]
  | arr items =>
      rw [decodeFields, fields_arr_iff]
      split
      · next complete =>
        rw [Except.ok.injEq, ← Vector.toList_inj]
        simp
      · next incomplete =>
        simp only [reduceCtorEq, false_iff]
        rintro ⟨rfl, -⟩
        exact incomplete (by simp)
  | _ =>
      constructor
      · intro read
        contradiction
      · intro form
        nomatch form

end Serial
end DenseBench
