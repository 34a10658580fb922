import FieldGuard.Logged

/-! Contexts: what a condition can ask about a subject. Every getter answers nothing where the name
is no field of the requested kind or has no single value. -/
namespace FieldGuard

/-- The identity of an object a field refers to. -/
inductive ObjectRef where
  | null
  | object (id : Nat)
  deriving DecidableEq, Repr

def ObjectRef.isNull : ObjectRef → Bool
  | .null => true
  | .object _ => false

/-- The getters that answer about one field. -/
inductive Getter where
  | bool
  | integer
  | number
  | member
  | object
  | typeName
  deriving DecidableEq, Repr

/-- What a getter answers with. -/
abbrev Getter.Answer : Getter → Type
  | .bool => Bool
  | .integer => Int64
  | .number => Float
  | .member => String
  | .object => ObjectRef
  | .typeName => String

structure Context where
  /-- The subject's name, for messages only. -/
  name : String
  bool : String → Option Bool
  /-- The integer of an integer field, and the integer under an enum field. -/
  integer : String → Option Int64
  number : String → Option Float
  /-- The name of an enum field's current member. -/
  member : String → Option String
  object : String → Option ObjectRef
  typeName : String → Option String
  /-- The integer under a member of an enum. -/
  memberValue : String → String → Option Int64
  /-- What asking a getter about a field leaves in the log. -/
  remarks : Getter → String → List Note

namespace Context

/-- Any getter. -/
@[simp] def get (c : Context) : (getter : Getter) → String → Option getter.Answer
  | .bool => c.bool
  | .integer => c.integer
  | .number => c.number
  | .member => c.member
  | .object => c.object
  | .typeName => c.typeName

variable {ε : Type}

/-- Asks a getter about a field, with what asking it leaves in the log. -/
def ask (c : Context) (getter : Getter) (field : String) : Logged ε (Option getter.Answer) :=
  ⟨c.remarks getter field, .ok (c.get getter field)⟩

@[simp] theorem outcome_ask (c : Context) (getter : Getter) (field : String) :
    (c.ask getter field : Logged ε _).outcome = .ok (c.get getter field) := rfl

@[simp] theorem notes_ask (c : Context) (getter : Getter) (field : String) :
    (c.ask getter field : Logged ε _).notes = c.remarks getter field := rfl

/-- All answers about one field. -/
structure Answers where
  bool : Option Bool
  integer : Option Int64
  number : Option Float
  member : Option String
  object : Option ObjectRef
  typeName : Option String

/-- Asks every getter about one field. -/
def askAll (c : Context) (field : String) : Logged ε Answers := do
  return {
    bool := ← c.ask .bool field
    integer := ← c.ask .integer field
    number := ← c.ask .number field
    member := ← c.ask .member field
    object := ← c.ask .object field
    typeName := ← c.ask .typeName field }

end Context
end FieldGuard
