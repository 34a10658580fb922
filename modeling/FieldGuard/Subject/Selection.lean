import FieldGuard.Condition.Operation
import FieldGuard.Subject.Basic

/-! A subject seen as one context. A getter answers only if the field is declared with a type that
the getter serves, every instance has a fitting value, and all values agree with the first. -/
namespace FieldGuard

/-- What comes of asking all instances for one value. -/
inductive Agreement (α : Type) where
  /-- There is no instance, or one without a fitting value. -/
  | unset
  | disagreement
  | value (a : α)
  deriving DecidableEq, Repr

namespace Agreement

variable {α β : Type}

def toOption : Agreement α → Option α
  | .value a => some a
  | _ => none

def isDisagreement : Agreement α → Bool
  | .disagreement => true
  | _ => false

/-- Compares the values after the first with it, up to the first that is missing or differs. -/
def withFirst (same : α → α → Bool) (first : α) : List (Option α) → Agreement α
  | [] => .value first
  | none :: _ => .unset
  | some a :: rest => if same first a then withFirst same first rest else .disagreement

/-- The agreement of a list of values. -/
def of (same : α → α → Bool) : List (Option α) → Agreement α
  | some a :: rest => withFirst same a rest
  | _ => .unset

end Agreement

/-- A subject with the tolerance within which its numbers agree, and whether questions about
undeclared fields are reported. -/
structure Selection where
  subject : Subject
  epsilon : Float
  attached : Bool

namespace Selection

/-- What the instances agree on for a field, read through `extract`. -/
def agreement {α : Type} (s : Selection) (field : String) (extract : FieldValue → Option α)
    (same : α → α → Bool) : Agreement α :=
  .of same ((s.subject.values field).map fun v => v.bind extract)

def bool (s : Selection) (field : String) : Agreement Bool :=
  match s.subject.fields.get? field with
  | some .bool =>
    s.agreement field (fun v => match v with
      | .bool b => some b
      | _ => none) fun a b => a == b
  | _ => .unset

def integer (s : Selection) (field : String) : Agreement Int64 :=
  match s.subject.fields.get? field with
  | some (.integer _) | some (.enum _) =>
    s.agreement field (fun v => match v with
      | .integer i | .enum i => some i
      | _ => none) fun a b => a == b
  | _ => .unset

/-- Numbers agree when they are within the tolerance of the first instance's number. -/
def number (s : Selection) (field : String) : Agreement Float :=
  match s.subject.fields.get? field with
  | some (.integer _) | some (.float _) =>
    s.agreement field (fun v => match v with
      | .integer i => some (Binary64.ofInt i.toInt)
      | .float x => some x
      | _ => none) fun a b => nearlyEqual s.epsilon a b
  | _ => .unset

def enumValue (s : Selection) (field : String) : Agreement Int64 :=
  match s.subject.fields.get? field with
  | some (.enum _) =>
    s.agreement field (fun v => match v with
      | .enum i => some i
      | _ => none) fun a b => a == b
  | _ => .unset

def object (s : Selection) (field : String) : Agreement ObjectRef :=
  match s.subject.fields.get? field with
  | some (.object _) =>
    s.agreement field (fun v => match v with
      | .object ref => some ref
      | _ => none) fun a b => a == b
  | _ => .unset

/-- The name of the member that all instances stand at. -/
def member (s : Selection) (field : String) : Option String :=
  match s.subject.fields.get? field with
  | some (.enum type) => (s.enumValue field).toOption.bind (s.subject.enums.member? type)
  | _ => none

/-- Whether a getter meets a value that differs from the first. -/
def disagrees (s : Selection) (field : String) : Getter → Bool
  | .bool => (s.bool field).isDisagreement
  | .integer => (s.integer field).isDisagreement
  | .number => (s.number field).isDisagreement
  | .member => (s.enumValue field).isDisagreement
  | .object => (s.object field).isDisagreement
  | .typeName => false

/-- The message about a field that is not declared. -/
def notFound (s : Selection) (field : String) : String :=
  "field \"" ++ field ++ "\" was not found in \"" ++ s.subject.name ++ "\""

/-- Questions about undeclared fields are reported, and disagreements leave a trace. -/
def remarks (s : Selection) (getter : Getter) (field : String) : List Note :=
  if s.subject.fields.contains field then
    if s.disagrees field getter then
      [.trace .selection ("instances of " ++ s.subject.name ++ " disagree on " ++ field)]
    else []
  else if s.attached then [.report (some s.subject.name) (s.notFound field)]
  else []

def context (s : Selection) : Context where
  name := s.subject.name
  bool field := (s.bool field).toOption
  integer field := (s.integer field).toOption
  number field := (s.number field).toOption
  member field := s.member field
  object field := (s.object field).toOption
  typeName field := (s.subject.fields.get? field).map (·.name)
  memberValue type member := s.subject.enums.value? type member
  remarks := s.remarks

end Selection
end FieldGuard
