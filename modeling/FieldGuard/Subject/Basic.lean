import FieldGuard.Condition.Context
import FieldGuard.Dictionary

/-! Subjects: declared fields, enums, and the selected instances with their field values. -/
namespace FieldGuard

/-- The members of an enum with their integers, in the order in which they are looked up. -/
abbrev Members := List (String × Int64)

/-- Enum types by name. -/
abbrev Enums := Dictionary Members

namespace Enums

/-- The integer under a member. -/
def value? (enums : Enums) (type member : String) : Option Int64 :=
  (enums.get? type).bind fun members => members.lookup member

/-- The first member with an integer. -/
def member? (enums : Enums) (type : String) (value : Int64) : Option String :=
  (enums.get? type).bind fun members => (members.find? (·.2 == value)).map (·.1)

end Enums

/-- The declared type of a field; all but `bool` keep the name they were declared by. -/
inductive FieldType where
  | bool
  | integer (name : String)
  | float (name : String)
  | enum (name : String)
  | object (name : String)
  deriving DecidableEq, Repr

namespace FieldType

def name : FieldType → String
  | .bool => "bool"
  | .integer name | .float name | .enum name | .object name => name

def integerNames : List String :=
  ["int8", "int16", "int32", "int64", "uint8", "uint16", "uint32", "uint64", "int"]

def floatNames : List String := ["float", "double"]

/-- The type that a name stands for: a number type, a declared enum, or a pointer type `T*`. -/
def ofName? (enums : Enums) (name : String) : Option FieldType :=
  if name = "bool" then some .bool
  else if name ∈ integerNames then some (.integer name)
  else if name ∈ floatNames then some (.float name)
  else if enums.contains name then some (.enum name)
  else if 1 < name.length ∧ name.toList.getLast? = some '*' then some (.object name)
  else none

end FieldType

/-- The value of a field on one instance; an enum value is the integer under its member. -/
inductive FieldValue where
  | bool (value : Bool)
  | integer (value : Int64)
  | float (value : Float)
  | enum (value : Int64)
  | object (value : ObjectRef)
  deriving DecidableEq, Repr

/-- The field values of one object. -/
abbrev Instance := Dictionary FieldValue

structure Subject where
  name : String
  enums : Enums
  fields : Dictionary FieldType
  /-- The selected objects, in order of selection. -/
  instances : List Instance

namespace Subject

/-- A subject without fields and instances. -/
def named (name : String) : Subject where
  name := name
  enums := .empty
  fields := .empty
  instances := []

/-- Declares an enum, over an older one of the same name. -/
def withEnum (s : Subject) (name : String) (members : Members) : Subject :=
  { s with enums := s.enums.insert name members }

/-- Declares a field, over an older one of the same name. -/
def withField (s : Subject) (name : String) (type : FieldType) : Subject :=
  { s with fields := s.fields.insert name type }

/-- Selects one more object; of values for one field the last counts. -/
def push (s : Subject) (values : List (String × FieldValue)) : Subject :=
  { s with instances := s.instances ++ [Dictionary.ofList values] }

/-- The value of a field on each instance, where it has one. -/
def values (s : Subject) (field : String) : List (Option FieldValue) :=
  s.instances.map (·.get? field)

end Subject
end FieldGuard
