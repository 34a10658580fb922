import FieldGuard.Condition.Operation

/-! Rules: which operation stands behind an operator on operands of given kinds. A host may add
entries; they come before the built-in ones. -/
namespace FieldGuard

/-- What an operation is chosen by; a prefix operator has no right kind. -/
structure Key where
  operator : Symbol
  left : Kind
  right : Option Kind
  deriving DecidableEq, Repr

namespace Key

def text (k : Key) : String :=
  match k.right with
  | some right => k.left.text ++ " " ++ k.operator.text ++ " " ++ right.text
  | none => k.operator.text ++ k.left.text

def all : List Key :=
  Symbol.all.flatMap fun s =>
    Kind.all.flatMap fun l => ⟨s, l, none⟩ :: Kind.all.map fun r => ⟨s, l, some r⟩

theorem mem_all (k : Key) : k ∈ all := by
  obtain ⟨s, l, r⟩ := k
  refine List.mem_flatMap.2 ⟨s, s.mem_all, List.mem_flatMap.2 ⟨l, l.mem_all, ?_⟩⟩
  cases r with
  | none => simp
  | some r => simpa using r.mem_all

end Key

structure Rules where
  /-- The tolerance of `==` and `!=` on numbers. -/
  epsilon : Float
  /-- Entries of the host, latest first. -/
  host : List (Key × Operation)

namespace Rules

def defaultEpsilon : Float := 1e-8

/-- The rules without host entries. -/
def standard (epsilon : Float) : Rules where
  epsilon := epsilon
  host := []

/-- The built-in operation of a key. -/
def builtIn (epsilon : Float) : Key → Option Operation
  | ⟨.not, .bool, none⟩ | ⟨.not, .property, none⟩ => some Operation.negation
  | ⟨.binary op, left, some right⟩ => Operation.binary epsilon op left right
  | _ => none

def find? (r : Rules) (k : Key) : Option Operation :=
  r.host.lookup k <|> builtIn r.epsilon k

def contains (r : Rules) (k : Key) : Bool :=
  (r.find? k).isSome

/-- Adds an entry, over an older one of the same key. -/
def register (r : Rules) (k : Key) (f : Operation) : Rules :=
  { r with host := (k, f) :: r.host }

theorem find?_register (r : Rules) (k k' : Key) (f : Operation) :
    (r.register k f).find? k' = if k' = k then some f else r.find? k' := by
  by_cases h : k' = k
  · simp [find?, register, h]
  · simp [find?, register, List.lookup_cons, beq_eq_false_iff_ne.2 h, h]

/-- The keys that have an operation, in the order of their texts. -/
def keys (r : Rules) : List Key :=
  (Key.all.filter r.contains).mergeSort fun a b => a.text ≤ b.text

theorem mem_keys_iff {r : Rules} {k : Key} : k ∈ r.keys ↔ r.contains k = true := by
  simp [keys, k.mem_all]

def size (r : Rules) : Nat :=
  (Key.all.filter r.contains).length

def applyPrefix (r : Rules) (ctx : Context) (operator : Symbol) (a : Operand) :
    Logged Fault Operand :=
  match r.find? ⟨operator, a.kind, none⟩ with
  | some f => f ctx a .null
  | none => .fail (.unsupported operator a.kind none)

def applyBinary (r : Rules) (ctx : Context) (operator : Symbol) (a b : Operand) :
    Logged Fault Operand :=
  match r.find? ⟨operator, a.kind, some b.kind⟩ with
  | some f => f ctx a b
  | none => .fail (.unsupported operator a.kind (some b.kind))

/-- A summary of the rules. -/
def summary (r : Rules) : String :=
  "OperatorTable \x7b entries: " ++ toString r.size ++ ", epsilon: " ++
    Layout.diagnostic.write r.epsilon ++ " \x7d"

end Rules

example : (Rules.standard 0).size = 68 := by decide +kernel

end FieldGuard
