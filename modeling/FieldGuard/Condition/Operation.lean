import FieldGuard.Condition.Context
import FieldGuard.Condition.Fault

/-! The operations behind the operators. Each takes its operands as they stand on the stack and asks
the context for the values of properties. -/
namespace FieldGuard

/-- What an operator does; a prefix operator gets `null` as its right operand. -/
abbrev Operation := Context → Operand → Operand → Logged Fault Operand

/-- Equality up to a tolerance; equal infinities are equal and NaN equals nothing. -/
def nearlyEqual (epsilon a b : Float) : Bool :=
  a == b || (a - b).abs <= epsilon

namespace Operation

def resolveBool (ctx : Context) : Operand → Logged Fault Bool
  | .bool b => pure b
  | .property name => do Logged.require (.invalidOperand name) (← ctx.ask .bool name)
  | _ => .fail .malformed

def resolveNumber (ctx : Context) : Operand → Logged Fault Float
  | .number x => pure x
  | .property name => do Logged.require (.invalidOperand name) (← ctx.ask .number name)
  | _ => .fail .malformed

def negation : Operation := fun ctx a _ => do
  return .bool !(← resolveBool ctx a)

/-- Both operands are resolved, whatever the first one is. -/
def onBools (f : Bool → Bool → Bool) : Operation := fun ctx a b => do
  let x ← resolveBool ctx a
  let y ← resolveBool ctx b
  return .bool (f x y)

def comparing (f : Float → Float → Bool) : Operation := fun ctx a b => do
  let x ← resolveNumber ctx a
  let y ← resolveNumber ctx b
  return .bool (f x y)

def computing (f : Float → Float → Float) : Operation := fun ctx a b => do
  let x ← resolveNumber ctx a
  let y ← resolveNumber ctx b
  return .number (f x y)

/-- Whether a declared object field is null, or is not. -/
def isNull (negate : Bool) (name : String) (ctx : Context) : Logged Fault Operand := do
  let _ ← Logged.require (.invalidOperand name) (← ctx.ask .typeName name)
  let ref ← Logged.require (.invalidOperand name) (← ctx.ask .object name)
  return .bool (ref.isNull != negate)

/-- Applies a comparison where both sides have a value; both are asked for in any case. -/
def both {α β : Type} (f : α → α → β) (a b : Option α) : Option β :=
  match a, b with
  | some x, some y => some (f x y)
  | _, _ => none

/-- Equality of two fields. Two object references are compared by identity. Otherwise the types must
match, and of the comparisons as bools, as numbers and as enum members the last one that both
sides allow decides. -/
def sameValue (epsilon : Float) (negate : Bool) (a b : String) (ctx : Context) :
    Logged Fault Operand := do
  let refA ← ctx.ask .object a
  let refB ← ctx.ask .object b
  match both (fun x y => decide (x = y)) refA refB with
  | some equal => return .bool (equal != negate)
  | none =>
    let typeA ← Logged.require (.invalidOperand a) (← ctx.ask .typeName a)
    let typeB ← Logged.require (.invalidOperand b) (← ctx.ask .typeName b)
    if typeA ≠ typeB then .fail (.typeMismatch a b)
    else
      let asBools := both (fun x y => x == y) (← ctx.ask .bool a) (← ctx.ask .bool b)
      let asNumbers := both (nearlyEqual epsilon) (← ctx.ask .number a) (← ctx.ask .number b)
      let asMembers := both (fun x y => decide (x = y)) (← ctx.ask .member a) (← ctx.ask .member b)
      let equal ← Logged.require (.typeMismatch a b) (asMembers <|> asNumbers <|> asBools)
      return .bool (equal != negate)

/-- Whether an enum field stands at a member, or does not. -/
def standsAt (negate : Bool) (name type member : String) (ctx : Context) :
    Logged Fault Operand := do
  let fieldType ← Logged.require (.invalidOperand name) (← ctx.ask .typeName name)
  if fieldType ≠ type then .fail (.typeMismatch name (Operand.enum type member).text)
  else
    let current ← Logged.require (.invalidOperand name) (← ctx.ask .member name)
    return .bool (decide (current = member) != negate)

/-- Whether a field shares a flag bit with a member. -/
def sharesFlag (name type member : String) (ctx : Context) : Logged Fault Operand := do
  let flag ← Logged.require (.invalidMember type member) (ctx.memberValue type member)
  let current ← Logged.require (.invalidOperand name) (← ctx.ask .integer name)
  return .bool (current &&& flag != 0)

/-- `==` and `!=` on operands of any kinds that have them, by the kinds of the operands. -/
def equality (epsilon : Float) (negate : Bool) : Kind → Kind → Option Operation
  | .property, .property => some fun ctx a b =>
    match a, b with
    | .property a, .property b => sameValue epsilon negate a b ctx
    | _, _ => .fail .malformed
  | .property, .null => some fun ctx a _ =>
    match a with
    | .property name => isNull negate name ctx
    | _ => .fail .malformed
  | .null, .property => some fun ctx _ b =>
    match b with
    | .property name => isNull negate name ctx
    | _ => .fail .malformed
  | .bool, .bool | .bool, .property | .property, .bool =>
    some (onBools fun x y => (x == y) != negate)
  | .number, .number | .number, .property | .property, .number =>
    some (comparing fun x y => nearlyEqual epsilon x y != negate)
  | .enum, .enum => some fun _ a b => pure (.bool (decide (a = b) != negate))
  | .property, .enum => some fun ctx a b =>
    match a, b with
    | .property name, .enum type member => standsAt negate name type member ctx
    | _, _ => .fail .malformed
  | .enum, .property => some fun ctx a b =>
    match a, b with
    | .enum type member, .property name => standsAt negate name type member ctx
    | _, _ => .fail .malformed
  | _, _ => none

/-- The flag test, in either order. -/
def flagTest : Kind → Kind → Option Operation
  | .property, .enum => some fun ctx a b =>
    match a, b with
    | .property name, .enum type member => sharesFlag name type member ctx
    | _, _ => .fail .malformed
  | .enum, .property => some fun ctx a b =>
    match a, b with
    | .enum type member, .property name => sharesFlag name type member ctx
    | _, _ => .fail .malformed
  | _, _ => none

/-- An operation for literals of one kind and properties in any combination. -/
def forKind (kind : Kind) (f : Operation) (left right : Kind) : Option Operation :=
  if (left = kind ∨ left = .property) ∧ (right = kind ∨ right = .property) then some f else none

/-- The operation of a binary operator on operands of two kinds. -/
def binary (epsilon : Float) : BinaryOp → Kind → Kind → Option Operation
  | .equal => equality epsilon false
  | .notEqual => equality epsilon true
  | .less => forKind .number (comparing fun x y => x < y)
  | .lessEqual => forKind .number (comparing fun x y => x <= y)
  | .greater => forKind .number (comparing fun x y => x > y)
  | .greaterEqual => forKind .number (comparing fun x y => x >= y)
  | .and => forKind .bool (onBools fun x y => x && y)
  | .or => forKind .bool (onBools fun x y => x || y)
  | .add => forKind .number (computing fun x y => x + y)
  | .subtract => forKind .number (computing fun x y => x - y)
  | .multiply => forKind .number (computing fun x y => x * y)
  | .divide => forKind .number (computing fun x y => x / y)
  | .bitAnd => flagTest

end Operation
end FieldGuard
