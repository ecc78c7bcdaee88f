import DenseBench.DatasetSize
import DenseBench.Json.Basic
import DenseBench.Numeral.Reading
import DenseBench.Runner

/-!
# Decoding JSON values

A decoder takes a JSON value for a value of a type, or says why it cannot.  A record is written as
an object or as an array: an object needs every field and may hold others, in any order; an array
holds exactly the fields, in the order of their declaration.  An object stands for a map, so that a
repeated key is no error and its last value counts.
-/

namespace DenseBench
namespace Serial

/-- Why a JSON value does not stand for a value of the wanted type. -/
inductive DecodeError where
  | missingField (name : String)
  | unknownVariant (name : String)
  | unknownDataset (error : UnknownDatasetSize)
  /-- The value is of another kind than the type asks for. -/
  | invalidType
  /-- The value is of the right kind and outside the type. -/
  | invalidValue
  /-- An array has another number of items than the record has fields. -/
  | invalidLength
  deriving DecidableEq, Repr

namespace DecodeError

/-- The wording of the errors that have one. -/
def message? : DecodeError → Option String
  | missingField name => some ("missing field \x60" ++ name ++ "\x60")
  | unknownVariant name =>
    some ("unknown variant \x60" ++ name ++ "\x60, expected \x60continue\x60 or \x60fail_fast\x60")
  | unknownDataset error => some error.message
  | _ => none

end DecodeError

/-- The result of a decoder. -/
abbrev Decoded (α : Type) : Type :=
  Except DecodeError α

/-- A text. -/
def decodeString : Json → Decoded String
  | .str text => .ok text
  | _ => .error .invalidType

/-- A truth value. -/
def decodeBool : Json → Decoded Bool
  | .bool value => .ok value
  | _ => .error .invalidType

/-- A natural number that fits in 64 bits. -/
def decodeNat : Json → Decoded Nat
  | .int value =>
    if 0 ≤ value ∧ value ≤ Numeral.maxUInt64 then .ok value.toNat else .error .invalidValue
  | _ => .error .invalidType

/-- An integer that fits in 32 bits. -/
def decodeInt32 : Json → Decoded Int32
  | .int value =>
    if -0x80000000 ≤ value ∧ value < 0x80000000 then .ok (Int32.ofInt value)
    else .error .invalidValue
  | _ => .error .invalidType

/-- A list, item by item. -/
def decodeList {α : Type} (item : Json → Decoded α) : Json → Decoded (List α)
  | .arr items => items.mapM item
  | _ => .error .invalidType

/-- The fields of a record, in the order of their declaration.  In an object the last value of a
repeated field counts. -/
def decodeFields {n : Nat} (names : Vector String n) : Json → Decoded (Vector Json n)
  | .obj members =>
    names.mapM fun name =>
      match Json.lookup name members with
      | some value => .ok value
      | none => .error (.missingField name)
  | .arr items =>
    if complete : items.length = n then .ok ⟨items.toArray, by simpa using complete⟩
    else .error .invalidLength
  | _ => .error .invalidType

/-- The five fields of a record one by one. -/
def five (fields : Vector Json 5) : Json × Json × Json × Json × Json :=
  (fields[0], fields[1], fields[2], fields[3], fields[4])

/-- A size class by any of its spellings. -/
def decodeDataset : Json → Decoded DatasetSize
  | .str text => (DatasetSize.ofString text).mapError .unknownDataset
  | _ => .error .invalidType

/-- The written form of a size class. -/
def encodeDataset (size : DatasetSize) : Json :=
  .str size.name

/-- A policy by its exact name. -/
def policyOfName (name : String) : Decoded FailurePolicy :=
  match FailurePolicy.ofName? name with
  | some policy => .ok policy
  | none => .error (.unknownVariant name)

/-- A policy: its name, or an object with its name as the only key and no value.  A key counts once,
with its last value. -/
def decodePolicy : Json → Decoded FailurePolicy
  | .str name => policyOfName name
  | .obj members =>
    match Json.distinctMembers members with
    | [(name, value)] => do
      let policy ← policyOfName name
      match value with
      | .null => return policy
      | _ => .error .invalidType
    | _ => .error .invalidValue
  | _ => .error .invalidType

/-- The written form of a policy. -/
def encodePolicy (policy : FailurePolicy) : Json :=
  .str policy.name

end Serial
end DenseBench
