import FieldGuard.Condition.Basic
import FieldGuard.Condition.Rules

/-! Evaluation of conditions: a machine with a stack of operands walks the postfix sequence, and the
one operand left is asked for its truth value. -/
namespace FieldGuard
namespace Rules

/-- Applies the prefix `!`, with a trace of what came of it. -/
def negate (r : Rules) (ctx : Context) (a : Operand) : Logged Fault Operand := do
  let result ← r.applyPrefix ctx .not a
  Logged.note (.trace .evaluation (Symbol.not.text ++ a.text ++ " -> " ++ result.text))
  return result

@[simp] theorem outcome_negate (r : Rules) (ctx : Context) (a : Operand) :
    (r.negate ctx a).outcome = (r.applyPrefix ctx .not a).outcome := by
  unfold negate
  cases h : (r.applyPrefix ctx .not a).outcome <;> simp [h, Except.bind, Except.map]

/-- Applies a binary operator, with a trace of what came of it. -/
def combine (r : Rules) (ctx : Context) (op : BinaryOp) (a b : Operand) : Logged Fault Operand := do
  let result ← r.applyBinary ctx (.binary op) a b
  Logged.note (.trace .evaluation
    (a.text ++ " " ++ op.text ++ " " ++ b.text ++ " -> " ++ result.text))
  return result

@[simp] theorem outcome_combine (r : Rules) (ctx : Context) (op : BinaryOp) (a b : Operand) :
    (r.combine ctx op a b).outcome = (r.applyBinary ctx (.binary op) a b).outcome := by
  unfold combine
  cases h : (r.applyBinary ctx (.binary op) a b).outcome <;> simp [h, Except.bind, Except.map]

end Rules

namespace Machine

/-- One step on the stack, topmost operand first. -/
def step (rules : Rules) (ctx : Context) (stack : List Operand) : Step → Logged Fault (List Operand)
  | .operand o => pure (o :: stack)
  | .not =>
    match stack with
    | a :: rest => (· :: rest) <$> rules.negate ctx a
    | [] => .fail .malformed
  | .binary op =>
    match stack with
    | b :: a :: rest => (· :: rest) <$> rules.combine ctx op a b
    | _ => .fail .malformed

/-- All steps in turn. -/
def run (rules : Rules) (ctx : Context) : List Operand → List Step → Logged Fault (List Operand)
  | stack, [] => pure stack
  | stack, s :: rest => do run rules ctx (← step rules ctx stack s) rest

theorem run_append (rules : Rules) (ctx : Context) (stack : List Operand) (xs ys : List Step) :
    run rules ctx stack (xs ++ ys) = run rules ctx stack xs >>= fun s => run rules ctx s ys := by
  induction xs generalizing stack with
  | nil => simp [run]
  | cons x xs ih => simp [run, ih]

/-- The truth value of a result: a bool is its own, and a bare property is asked for its. -/
def verdict (ctx : Context) : Operand → Logged Fault Bool
  | .bool b => pure b
  | .property name => do
    match ← ctx.ask .bool name with
    | some b => return b
    | none =>
      match ← ctx.ask .typeName name with
      | some type =>
        .fail (if type ≠ "bool" then .notBooleanProperty name else .invalidOperand name)
      | none => .fail (.invalidOperand name)
  | o => .fail (.notBoolean o.kind)

end Machine

/-- The truth value of a condition in a context. -/
def evaluate (rules : Rules) (ctx : Context) (c : Condition) : Logged Fault Bool := do
  match ← Machine.run rules ctx [] (c.steps.map (·.item)) with
  | [result] =>
    let b ← Machine.verdict ctx result
    Logged.note (.debug .evaluation
      ("evaluated \"" ++ c.source ++ "\" against " ++ ctx.name ++ " -> " ++ (Operand.bool b).text))
    return b
  | _ => .fail .malformed

/-- The truth value of a condition; a fault is reported for the context's subject. -/
def evaluateReported (rules : Rules) (ctx : Context) (c : Condition) : Logged Fault Bool :=
  let result := evaluate rules ctx c
  match result.outcome with
  | .ok _ => result
  | .error fault => ⟨result.notes ++ [.report (some ctx.name) fault.message], .error fault⟩

@[simp] theorem outcome_evaluateReported (rules : Rules) (ctx : Context) (c : Condition) :
    (evaluateReported rules ctx c).outcome = (evaluate rules ctx c).outcome := by
  cases h : (evaluate rules ctx c).outcome <;> simp [evaluateReported, h]

/-- The one property a condition mentions, if it is a bool field. -/
def singleBoolProperty {ε : Type} (ctx : Context) (c : Condition) : Logged ε (Option String) :=
  match c.names with
  | [name] => do
    let type ← ctx.ask .typeName name
    return if type = some "bool" then some name else none
  | _ => pure none

end FieldGuard
