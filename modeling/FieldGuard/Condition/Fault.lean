import FieldGuard.Condition.Operand
import FieldGuard.Condition.Symbol

/-! Faults: why a condition has no truth value. -/
namespace FieldGuard

inductive Fault where
  /-- A property without a value of the requested kind. -/
  | invalidOperand (name : String)
  | invalidMember (type : String) (member : String)
  | typeMismatch (left : String) (right : String)
  /-- No operation takes operands of these kinds. -/
  | unsupported (operator : Symbol) (left : Kind) (right : Option Kind)
  | notBoolean (kind : Kind)
  | notBooleanProperty (name : String)
  /-- A sequence of steps that is no postfix sequence, or an operation given a foreign kind. -/
  | malformed
  deriving DecidableEq, Repr

namespace Fault

/-- The one field a fault is about. -/
def operandName? : Fault → Option String
  | .invalidOperand name | .notBooleanProperty name => some name
  | _ => none

def message : Fault → String
  | .invalidOperand name => "attempted to use an invalid operand \"" ++ name ++ "\""
  | .invalidMember type member =>
    "attempted to use an invalid enum value \"" ++ type ++ "::" ++ member ++ "\""
  | .typeMismatch left right =>
    "attempted to compare operands of different types: \"" ++ left ++ "\" and \"" ++ right ++ "\""
  | .unsupported operator left right =>
    "unsupported operand kinds for '" ++ operator.text ++ "': " ++
      match right with
      | some right => left.text ++ " and " ++ right.text
      | none => left.text
  | .notBoolean kind => "expression did not reduce to a boolean (got " ++ kind.text ++ ")"
  | .notBooleanProperty name => "property \"" ++ name ++ "\" is not a bool field"
  | .malformed => "malformed compiled expression"

end Fault
end FieldGuard
