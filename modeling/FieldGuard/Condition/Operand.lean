import FieldGuard.Decimal.Layout

/-! Operands: what a condition names or computes. Literals and intermediate results are of one type,
because a literal evaluates to itself and a property stays a name until an operator asks for it. -/
namespace FieldGuard

inductive Operand where
  | bool (value : Bool)
  | number (value : Float)
  | null
  /-- A field of the subject. -/
  | property (name : String)
  /-- A member of an enum, `Type::Member`. -/
  | enum (type : String) (member : String)
  deriving DecidableEq, Repr

/-- The kind of an operand, by which operations are chosen. -/
inductive Kind where
  | bool
  | number
  | property
  | enum
  | null
  deriving DecidableEq, Repr

namespace Kind

def text : Kind → String
  | .bool => "bool"
  | .number => "number"
  | .property => "property"
  | .enum => "enum"
  | .null => "nullptr"

def all : List Kind := [.bool, .number, .property, .enum, .null]

theorem mem_all (k : Kind) : k ∈ all := by cases k <;> decide

end Kind

namespace Operand

def kind : Operand → Kind
  | .bool _ => .bool
  | .number _ => .number
  | .null => .null
  | .property _ => .property
  | .enum _ _ => .enum

def text : Operand → String
  | .bool b => if b then "true" else "false"
  | .number x => Layout.plain.write x
  | .null => "nullptr"
  | .property name => name
  | .enum type member => type ++ "::" ++ member

/-- The name of the property an operand stands for. -/
def propertyName? : Operand → Option String
  | .property name => some name
  | _ => none

end Operand
end FieldGuard
