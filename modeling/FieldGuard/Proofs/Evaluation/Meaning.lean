import FieldGuard.Proofs.Evaluation.Answers
import FieldGuard.Proofs.Grammar.Sentence

/-! What evaluation means. The stack machine on a postfix sequence and the recursive evaluation of
the derivation it walks come to the same result, faults included. The machine never takes more
operands than its stack has, and ends with exactly one; so a malformed sequence is a fault of an
operation only. -/
namespace FieldGuard

namespace ConditionTree

/-- The operand a tree comes to: the left part, then the right part, then the operator, and the
first fault in this order is the result. Properties go to the operators as they are. -/
def meaning (rules : Rules) (ctx : Context) : ConditionTree → Except Fault Operand
  | .operand o _ => .ok o
  | .not _ body =>
    match body.meaning rules ctx with
    | .error e => .error e
    | .ok a => (rules.applyPrefix ctx .not a).outcome
  | .binary op _ left right =>
    match left.meaning rules ctx with
    | .error e => .error e
    | .ok a =>
      match right.meaning rules ctx with
      | .error e => .error e
      | .ok b => (rules.applyBinary ctx (.binary op) a b).outcome

theorem outcome_value (rules : Rules) (ctx : Context) (t : ConditionTree) :
    (t.value rules ctx).outcome = t.meaning rules ctx := by
  induction t with
  | operand o p => rfl
  | not p body ih =>
    simp only [value, meaning, Logged.outcome_bind, ih, Rules.outcome_negate]
    cases body.meaning rules ctx <;> rfl
  | binary op p left right ihl ihr =>
    simp only [value, meaning, Logged.outcome_bind, ihl, ihr, Rules.outcome_combine]
    cases left.meaning rules ctx with
    | error e => rfl
    | ok a => cases right.meaning rules ctx <;> rfl

/-- The machine adds the meaning of a tree to any stack. -/
theorem outcome_run_bareSteps (rules : Rules) (ctx : Context) (t : ConditionTree)
    (stack : List Operand) :
    (Machine.run rules ctx stack t.bareSteps).outcome =
      (t.meaning rules ctx).map (· :: stack) := by
  rw [run_bareSteps, Logged.outcome_map, outcome_value]

/-- A tree means that its form is malformed only where an operation said so. -/
theorem malformed_of_meaning {rules : Rules} {ctx : Context} {t : ConditionTree}
    (h : t.meaning rules ctx = .error .malformed) :
    (∃ a, (rules.applyPrefix ctx .not a).outcome = .error .malformed) ∨
      ∃ op a b, (rules.applyBinary ctx (.binary op) a b).outcome = .error .malformed := by
  induction t with
  | operand o p => simp [meaning] at h
  | not p body ih =>
    unfold meaning at h
    cases hb : body.meaning rules ctx with
    | error e =>
      rw [hb] at h
      exact ih (hb.trans h)
    | ok a =>
      rw [hb] at h
      exact .inl ⟨a, h⟩
  | binary op p left right ihl ihr =>
    unfold meaning at h
    cases hl : left.meaning rules ctx with
    | error e =>
      rw [hl] at h
      exact ihl (hl.trans h)
    | ok a =>
      cases hr : right.meaning rules ctx with
      | error e =>
        rw [hl, hr] at h
        exact ihr (hr.trans h)
      | ok b =>
        rw [hl, hr] at h
        exact .inr ⟨op, a, b, h⟩

end ConditionTree

namespace Operand

/-- The truth value of the operand a condition comes to. -/
def truth (ctx : Context) : Operand → Except Fault Bool
  | .bool b => .ok b
  | .property name =>
    match ctx.bool name, ctx.typeName name with
    | some b, _ => .ok b
    | none, some type =>
      if type = "bool" then .error (.invalidOperand name) else .error (.notBooleanProperty name)
    | none, none => .error (.invalidOperand name)
  | .number _ => .error (.notBoolean .number)
  | .null => .error (.notBoolean .null)
  | .enum _ _ => .error (.notBoolean .enum)

theorem outcome_verdict (ctx : Context) (a : Operand) :
    (Machine.verdict ctx a).outcome = a.truth ctx := by
  cases a with
  | property name =>
    simp only [Machine.verdict, truth, Logged.outcome_bind, Context.outcome_ask, Context.get]
    cases hb : ctx.bool name with
    | some b => rfl
    | none =>
      cases ht : ctx.typeName name with
      | none => simp [Except.bind, ht]
      | some type => by_cases h : type = "bool" <;> simp [Except.bind, ht, h]
  | _ => rfl

theorem truth_ne_malformed (ctx : Context) (a : Operand) : a.truth ctx ≠ .error .malformed := by
  cases a with
  | property name =>
    cases hb : ctx.bool name with
    | some b => simp [truth, hb]
    | none =>
      cases ht : ctx.typeName name with
      | none => simp [truth, hb, ht]
      | some type => by_cases h : type = "bool" <;> simp [truth, hb, ht, h]
  | bool _ | number _ | enum _ _ | null => simp [truth]

end Operand

/-- How many operands a step takes off the stack. -/
def Step.arity : Step → Nat
  | .operand _ => 0
  | .not => 1
  | .binary _ => 2

namespace Machine

/-- How high the stack is after some steps, if none of them takes more than there is. -/
def height? (n : Nat) : List Step → Option Nat
  | [] => some n
  | s :: rest => if s.arity ≤ n then height? (n + 1 - s.arity) rest else none

theorem height?_append (n : Nat) (xs ys : List Step) :
    height? n (xs ++ ys) = (height? n xs).bind fun m => height? m ys := by
  induction xs generalizing n with
  | nil => rfl
  | cons s xs ih =>
    by_cases h : s.arity ≤ n
    · simp [height?, h, ih]
    · simp [height?, h]

/-- The steps of a tree add one operand. -/
theorem height?_bareSteps (t : ConditionTree) (n : Nat) (rest : List Step) :
    height? n (t.bareSteps ++ rest) = height? (n + 1) rest := by
  induction t generalizing n rest with
  | operand o p => simp [height?, Step.arity]
  | not p body ih => simp [ih, height?, Step.arity]
  | binary op p left right ihl ihr =>
    simp only [ConditionTree.bareSteps_binary, List.append_assoc, List.singleton_append, ihl, ihr]
    simp [height?, Step.arity]

variable {rules : Rules} {ctx : Context}

/-- A step that comes through leaves one operand for those it took. -/
theorem length_step {stack stack' : List Operand} {s : Step}
    (h : (step rules ctx stack s).outcome = .ok stack') :
    s.arity ≤ stack.length ∧ stack'.length = stack.length + 1 - s.arity := by
  cases step_eq_ok_iff.mp h <;> simp [Step.arity]

theorem height?_of_run {stack stack' : List Operand} {xs : List Step}
    (h : (run rules ctx stack xs).outcome = .ok stack') :
    height? stack.length xs = some stack'.length := by
  induction xs generalizing stack with
  | nil =>
    obtain rfl : stack = stack' := by simpa [run] using h
    rfl
  | cons s xs ih =>
    obtain ⟨next, hs, hr⟩ := Logged.bind_eq_ok_iff.mp h
    obtain ⟨hle, hlen⟩ := length_step hs
    rw [height?, if_pos hle, ← hlen]
    exact ih hr

/-- Along the steps of a tree, every step finds the operands it takes. -/
theorem arity_le_of_bareSteps {t : ConditionTree} {stack : List Operand} {xs ys : List Step}
    {s : Step} (h : t.bareSteps = xs ++ s :: ys)
    (hr : (run rules ctx [] xs).outcome = .ok stack) : s.arity ≤ stack.length := by
  have ht := height?_bareSteps t 0 []
  have hx : height? 0 xs = some stack.length := height?_of_run hr
  rw [List.append_nil, h, height?_append, hx] at ht
  by_cases hle : s.arity ≤ stack.length
  · exact hle
  · simp [height?, hle] at ht

end Machine

/-- A condition with the steps of a tree, at whatever places, has the truth value of what the tree
means. -/
theorem evaluate_eq_of_bareSteps (rules : Rules) (ctx : Context) {c : Condition} {t : ConditionTree}
    (h : c.steps.map (·.item) = t.bareSteps) :
    (evaluate rules ctx c).outcome = (t.meaning rules ctx).bind (Operand.truth ctx) := by
  have hrun := t.outcome_run_bareSteps rules ctx []
  unfold evaluate
  rw [Logged.outcome_bind, h, hrun]
  cases t.meaning rules ctx with
  | error e => rfl
  | ok a =>
    have hv := a.outcome_verdict ctx
    cases ht : a.truth ctx <;> simp_all [Except.bind, Except.map]

theorem evaluate_eq_meaning (rules : Rules) (ctx : Context) (source : String) (t : ConditionTree) :
    (evaluate rules ctx ⟨source, t.steps⟩).outcome =
      (t.meaning rules ctx).bind (Operand.truth ctx) :=
  evaluate_eq_of_bareSteps rules ctx rfl

/-- What a postfix sequence does in a context, told by the tree that it walks. -/
structure ConditionTree.Explains (t : ConditionTree) (steps : List (Placed Step)) (rules : Rules)
    (ctx : Context) : Prop where
  /-- The condition has the truth value of what the tree means, or the first fault the tree comes
  to. -/
  evaluate_eq : ∀ source, (evaluate rules ctx ⟨source, steps⟩).outcome =
    (t.meaning rules ctx).bind (Operand.truth ctx)
  /-- The machine ends with exactly one operand. -/
  run_eq : (Machine.run rules ctx [] (steps.map (·.item))).outcome =
    (t.meaning rules ctx).map ([·])
  /-- Every step that is reached finds the operands it takes. -/
  arity_le : ∀ xs s ys stack, steps.map (·.item) = xs ++ s :: ys →
    (Machine.run rules ctx [] xs).outcome = .ok stack → s.arity ≤ stack.length
  /-- The sequence is malformed only in the words of an operation. -/
  of_malformed : ∀ source, (evaluate rules ctx ⟨source, steps⟩).outcome = .error .malformed →
    (∃ a, (rules.applyPrefix ctx .not a).outcome = .error .malformed) ∨
      ∃ op a b, (rules.applyBinary ctx (.binary op) a b).outcome = .error .malformed

theorem ConditionTree.explains_steps (t : ConditionTree) (rules : Rules) (ctx : Context) :
    t.Explains t.steps rules ctx where
  evaluate_eq source := evaluate_eq_meaning rules ctx source t
  run_eq := t.outcome_run_bareSteps rules ctx []
  arity_le _ _ _ _ hs hr := Machine.arity_le_of_bareSteps hs hr
  of_malformed source hm := by
    rw [evaluate_eq_meaning] at hm
    cases hv : t.meaning rules ctx with
    | error e =>
      rw [hv] at hm
      obtain rfl : e = .malformed := by simpa [Except.bind] using hm
      exact malformed_of_meaning hv
    | ok a =>
      rw [hv] at hm
      exact absurd hm (a.truth_ne_malformed ctx)

/-- The sequence of a sentence does, under any rules and in any context, what its derivation tree
means: left before right, the operator after both, and the first fault is the result. -/
theorem evaluate_toPostfix_eq_meaning (tokens : List (Placed Token)) (steps : List (Placed Step))
    (h : toPostfix tokens = .ok steps) :
    ∃ d : Derivation 4, d.tokens = tokens ∧
      ∀ rules ctx, d.tree.Explains steps rules ctx := by
  obtain ⟨d, ht, rfl⟩ := toPostfix_eq_ok_iff.mp h
  exact ⟨d, ht, fun rules ctx => d.tree.explains_steps rules ctx⟩

/-- The tokens and the steps of `!(A&&true)==B`. -/
theorem evaluate_negated_group_eq_meaning :
    let tokens : List (Placed Token) :=
      [⟨.symbol .not, 0⟩, ⟨.symbol .leftParen, 1⟩, ⟨.operand (.property "A"), 2⟩,
        ⟨.symbol (.binary .and), 3⟩, ⟨.operand (.bool true), 5⟩, ⟨.symbol .rightParen, 9⟩,
        ⟨.symbol (.binary .equal), 10⟩, ⟨.operand (.property "B"), 12⟩]
    let steps : List (Placed Step) :=
      [⟨.operand (.property "A"), 2⟩, ⟨.operand (.bool true), 5⟩, ⟨.binary .and, 3⟩, ⟨.not, 0⟩,
        ⟨.operand (.property "B"), 12⟩, ⟨.binary .equal, 10⟩]
    toPostfix tokens = .ok steps ∧ ∃ d : Derivation 4, d.tokens = tokens ∧
      ∀ rules ctx, d.tree.Explains steps rules ctx :=
  ⟨rfl, evaluate_toPostfix_eq_meaning _ _ rfl⟩

end FieldGuard
