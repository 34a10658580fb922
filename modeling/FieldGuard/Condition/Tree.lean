import FieldGuard.Condition.Evaluation

/-! Conditions as trees. A tree is evaluated from its leaves up, left before right; walking it from
its leaves up writes its postfix sequence, and the stack machine on that sequence does what the tree
does. -/
namespace FieldGuard

/-- An operand, a negation, or two conditions under a binary operator, each with its byte offset. -/
inductive ConditionTree where
  | operand (o : Operand) (position : Nat)
  | not (position : Nat) (body : ConditionTree)
  | binary (op : BinaryOp) (position : Nat) (left right : ConditionTree)
  deriving DecidableEq, Repr

namespace ConditionTree

/-- The postfix sequence of a tree. -/
def steps : ConditionTree → List (Placed Step)
  | .operand o p => [⟨.operand o, p⟩]
  | .not p body => body.steps ++ [⟨.not, p⟩]
  | .binary op p left right => left.steps ++ (right.steps ++ [⟨.binary op, p⟩])

/-- The steps of a tree without their places. -/
def bareSteps (t : ConditionTree) : List Step := t.steps.map (·.item)

/-- The operand that a tree comes to. -/
def value (rules : Rules) (ctx : Context) : ConditionTree → Logged Fault Operand
  | .operand o _ => pure o
  | .not _ body => do rules.negate ctx (← body.value rules ctx)
  | .binary op _ left right => do
    let a ← left.value rules ctx
    let b ← right.value rules ctx
    rules.combine ctx op a b

@[simp] theorem bareSteps_operand (o : Operand) (p : Nat) :
    (operand o p).bareSteps = [.operand o] := rfl

@[simp] theorem bareSteps_not (p : Nat) (body : ConditionTree) :
    (ConditionTree.not p body).bareSteps = body.bareSteps ++ [.not] := by
  simp [bareSteps, steps]

@[simp] theorem bareSteps_binary (op : BinaryOp) (p : Nat) (left right : ConditionTree) :
    (binary op p left right).bareSteps = left.bareSteps ++ (right.bareSteps ++ [.binary op]) := by
  simp [bareSteps, steps]

/-- The machine puts the value of a tree on whatever stack it starts from. -/
theorem run_bareSteps (rules : Rules) (ctx : Context) (t : ConditionTree) (stack : List Operand) :
    Machine.run rules ctx stack t.bareSteps = (· :: stack) <$> t.value rules ctx := by
  induction t generalizing stack with
  | operand o p => simp [Machine.run, Machine.step, value]
  | not p body ih =>
    simp [Machine.run_append, ih, Machine.run, Machine.step, value]
  | binary op p left right ihl ihr =>
    simp [Machine.run_append, ihl, ihr, Machine.run, Machine.step, value]

end ConditionTree
end FieldGuard
