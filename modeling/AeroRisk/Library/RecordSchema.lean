/-!
# Records with required fields

A schema lists the fields of a record.  An object is validated field by field:
a field which is present has to be coerced to its type, and a field which is
absent takes its default or is reported as missing when it has none.  All
errors of an object are reported together.
-/

namespace AeroRisk.Library

universe u v

/-- A field of a record; a required field has no default. -/
structure SchemaField (FieldType : Type u) (Value : Type v) where
  name : String
  type : FieldType
  default : Option Value

/-- Why a field of an object is not accepted. -/
inductive ValidationError where
  | missing (name : String)
  | invalid (name : String)
deriving DecidableEq, Repr

namespace RecordSchema

variable
    {FieldType : Type u} {Value : Type v}
    (coerce : FieldType → Value → Option Value)
    (fields : List (SchemaField FieldType Value))
    (object : List (String × Value))

/-- The value of one field of an object. -/
def readField (field : SchemaField FieldType Value) :
    Except ValidationError (String × Value) :=
  match object.lookup field.name with
  | some value =>
      match coerce field.type value with
      | some coerced => .ok (field.name, coerced)
      | none => .error (.invalid field.name)
  | none =>
      match field.default with
      | some default => .ok (field.name, default)
      | none => .error (.missing field.name)

/-- The errors of an object. -/
def errors : List ValidationError :=
  fields.filterMap fun field =>
    match readField coerce object field with
    | .ok _ => none
    | .error error => some error

/-- The record of an object which has no errors. -/
def validate : Except (List ValidationError) (List (String × Value)) :=
  if errors coerce fields object = [] then
    .ok (fields.filterMap fun field =>
      (readField coerce object field).toOption)
  else
    .error (errors coerce fields object)

/-- The names of the required fields which an object does not have. -/
def missing : List String :=
  (fields.filter fun field =>
    field.default.isNone && (object.lookup field.name).isNone).map
      SchemaField.name

/-- Every missing field is an error. -/
theorem missing_mem_errors {name : String}
    (isMissing : name ∈ missing fields object) :
    .missing name ∈ errors coerce fields object := by
  obtain ⟨field, member, rfl⟩ := List.mem_map.mp isMissing
  rw [List.mem_filter, Bool.and_eq_true, Option.isNone_iff_eq_none,
    Option.isNone_iff_eq_none] at member
  obtain ⟨isField, required, absent⟩ := member
  rw [errors, List.mem_filterMap]
  refine ⟨field, isField, ?_⟩
  simp only [readField, absent, required]

/-- An object with a missing field is rejected, however fields are coerced. -/
theorem validate_ne_ok_of_missing {name : String}
    (isMissing : name ∈ missing fields object)
    (record : List (String × Value)) :
    validate coerce fields object ≠ .ok record := by
  have isError := missing_mem_errors coerce fields object isMissing
  rw [validate, if_neg (List.ne_nil_of_mem isError)]
  intro isRecord
  cases isRecord

end RecordSchema

end AeroRisk.Library
