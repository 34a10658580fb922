import FieldGuard.Json.Value
import FieldGuard.Subject.Basic

/-! Subject documents: the parts of a subject as they stand in a file, and the subject they
describe. Enums, fields and the values of an instance are taken in the order of their names, and the
first part that fits nothing is the error. -/
namespace FieldGuard

structure SubjectDocument where
  name : String
  enums : Dictionary (Dictionary JsonNumber)
  /-- Field names with the names of their types. -/
  fields : Dictionary String
  instances : List (Dictionary Json)

/-- Why a value does not fit its field. -/
inductive ValueError where
  | expectedInteger (n : JsonNumber)
  | notMember (member : String) (type : String)
  | expectedMember (n : JsonNumber)
  | idOutOfRange (n : JsonNumber)
  | mismatch (value : Json) (type : FieldType)

def ValueError.message : ValueError → String
  | .expectedInteger n => "expected an integer, got " ++ n.text
  | .notMember member type => "'" ++ member ++ "' is not a member of enum '" ++ type ++ "'"
  | .expectedMember n => "expected an enum member or integer, got " ++ n.text
  | .idOutOfRange n => "object id " ++ n.text ++ " out of range"
  | .mismatch value type =>
    "value " ++ value.compact ++ " does not match field type '" ++ type.name ++ "'"

/-- Why a document describes no subject. -/
inductive DocumentError where
  | memberNotInteger (type : String) (member : String) (n : JsonNumber)
  | unknownType (field : String) (type : String)
  | undeclaredField (index : Nat) (field : String)
  | badValue (index : Nat) (field : String) (cause : ValueError)

def DocumentError.message : DocumentError → String
  | .memberNotInteger type member n =>
    "enum '" ++ type ++ "' member '" ++ member ++ "' is not an integer: " ++ n.text
  | .unknownType field type =>
    "field '" ++ field ++ "' has unknown type '" ++ type ++ "'. Use bool, int8..int64, " ++
      "uint8..uint64, float, double, a declared enum, or a pointer type ending in '*'"
  | .undeclaredField index field =>
    "instances[" ++ toString index ++ "]: undeclared field '" ++ field ++ "'"
  | .badValue index field cause =>
    "instances[" ++ toString index ++ "]." ++ field ++ ": " ++ cause.message

/-- The names of objects met so far; a name has the id of its first place, counted from `2 ^ 48`. -/
abbrev Identities := List String

namespace Identities

def base : Nat := 1 <<< 48

/-- The id of a name, and the identities with the name among them. -/
def intern (ids : Identities) (name : String) : Nat × Identities :=
  (base + ids.idxOf name, if name ∈ ids then ids else ids ++ [name])

end Identities

namespace SubjectDocument

/-- The value that a JSON value gives a field of some type. -/
def fieldValue (enums : Enums) (ids : Identities) :
    FieldType → Json → Except ValueError (FieldValue × Identities)
  | .bool, .bool b => .ok (.bool b, ids)
  | .integer _, .number n =>
    match n.toInt64? with
    | some i => .ok (.integer i, ids)
    | none => .error (.expectedInteger n)
  | .float _, .number n => .ok (.float n.toFloat, ids)
  | .enum type, .string member =>
    match enums.value? type member with
    | some i => .ok (.enum i, ids)
    | none => .error (.notMember member type)
  | .enum _, .number n =>
    match n.toInt64? with
    | some i => .ok (.enum i, ids)
    | none => .error (.expectedMember n)
  | .object _, .null => .ok (.object .null, ids)
  | .object _, .number n =>
    match n.toInt64? with
    | some i =>
      if i.toInt = 0 then .ok (.object .null, ids)
      else if 0 < i.toInt ∧ i.toInt < Identities.base then
        .ok (.object (.object i.toInt.toNat), ids)
      else .error (.idOutOfRange n)
    | none => .error (.idOutOfRange n)
  | .object _, .string name =>
    let (id, ids) := ids.intern name
    .ok (.object (.object id), ids)
  | type, value => .error (.mismatch value type)

/-- The members of an enum, ordered by integer; members with one integer stay in the order of their
names. -/
def members (type : String) (written : Dictionary JsonNumber) : Except DocumentError Members := do
  let read ← written.entries.mapM fun (member, n) =>
    match n.toInt64? with
    | some i => .ok (member, i)
    | none => .error (.memberNotInteger type member n)
  return read.mergeSort fun a b => a.2 ≤ b.2

def declareEnums : List (String × Dictionary JsonNumber) → Enums → Except DocumentError Enums
  | [], enums => .ok enums
  | (type, written) :: rest, enums => do
    declareEnums rest (enums.insert type (← members type written))

def declareFields (enums : Enums) :
    List (String × String) → Dictionary FieldType → Except DocumentError (Dictionary FieldType)
  | [], fields => .ok fields
  | (field, type) :: rest, fields =>
    match FieldType.ofName? enums type with
    | some t => declareFields enums rest (fields.insert field t)
    | none => .error (.unknownType field type)

/-- Reads the values of the instance at one index. -/
def readInstance (enums : Enums) (fields : Dictionary FieldType) (index : Nat) :
    List (String × Json) → Identities → Instance → Except DocumentError (Instance × Identities)
  | [], ids, values => .ok (values, ids)
  | (field, json) :: rest, ids, values =>
    match fields.get? field with
    | none => .error (.undeclaredField index field)
    | some type =>
      match fieldValue enums ids type json with
      | .ok (value, ids) => readInstance enums fields index rest ids (values.insert field value)
      | .error cause => .error (.badValue index field cause)

/-- Reads the instances from one index on. -/
def readInstances (enums : Enums) (fields : Dictionary FieldType) :
    Nat → List (Dictionary Json) → Identities → Except DocumentError (List Instance)
  | _, [], _ => .ok []
  | index, written :: rest, ids => do
    let (values, ids) ← readInstance enums fields index written.entries ids .empty
    return values :: (← readInstances enums fields (index + 1) rest ids)

/-- The subject that a document describes. -/
def toSubject (d : SubjectDocument) : Except DocumentError Subject := do
  let enums ← declareEnums d.enums.entries .empty
  let fields ← declareFields enums d.fields.entries .empty
  let instances ← readInstances enums fields 0 d.instances []
  return { name := d.name, enums, fields, instances }

end SubjectDocument
end FieldGuard
