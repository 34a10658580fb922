import FieldGuard.Condition.Tree

/-! The grammar of conditions. A primary is an operand, a group or a negated primary; each of the
four tiers above it joins phrases of the tier below by its binary operators, from left to right. A
derivation is indexed by its tier, so every value of the type is a derivation tree of the grammar.
-/
namespace FieldGuard

/-- The binary operators of each tier. -/
def BinaryOp.ofTier : Nat → List BinaryOp
  | 1 => [.multiply, .divide]
  | 2 => [.bitAnd, .add, .subtract]
  | 3 => [.equal, .notEqual, .less, .lessEqual, .greater, .greaterEqual]
  | 4 => [.and, .or]
  | _ => []

/-- An operator is listed at the tier by which it binds. -/
theorem BinaryOp.mem_ofTier_iff {op : BinaryOp} {k : Nat} : op ∈ ofTier k ↔ op.tier = k := by
  constructor
  · intro h
    match k, h with
    | 0, h => simp [ofTier] at h
    | 1, h | 2, h | 3, h | 4, h => cases op <;> simp_all [ofTier, tier]
    | k + 5, h => simp [ofTier] at h
  · rintro rfl
    cases op <;> decide

/-- One constructor for each form of production; primaries are tier 0. -/
inductive Derivation : Nat → Type where
  | operand (o : Operand) (position : Nat) : Derivation 0
  | group (opening : Nat) (body : Derivation 4) (closing : Nat) : Derivation 0
  | not (position : Nat) (body : Derivation 0) : Derivation 0
  | raise {k : Nat} (body : Derivation k) : Derivation (k + 1)
  | binary {k : Nat} (op : BinaryOp) (member : op ∈ BinaryOp.ofTier (k + 1)) (position : Nat)
      (left : Derivation (k + 1)) (right : Derivation k) : Derivation (k + 1)

namespace Derivation

/-- The tokens at the leaves, from left to right. -/
def tokens : {k : Nat} → Derivation k → List (Placed Token)
  | _, .operand o p => [⟨.operand o, p⟩]
  | _, .group p body q => ⟨.symbol .leftParen, p⟩ :: (body.tokens ++ [⟨.symbol .rightParen, q⟩])
  | _, .not p body => ⟨.symbol .not, p⟩ :: body.tokens
  | _, .raise body => body.tokens
  | _, .binary op _ p left right => left.tokens ++ ⟨.symbol (.binary op), p⟩ :: right.tokens

/-- The tree without its parentheses. -/
def tree : {k : Nat} → Derivation k → ConditionTree
  | _, .operand o p => .operand o p
  | _, .group _ body _ => body.tree
  | _, .not p body => .not p body.tree
  | _, .raise body => body.tree
  | _, .binary op _ p left right => .binary op p left.tree right.tree

/-- The walk of the tree from its leaves up. -/
def steps {k : Nat} (d : Derivation k) : List (Placed Step) := d.tree.steps

variable {k : Nat}

@[simp] theorem steps_operand (o : Operand) (p : Nat) :
    (operand o p).steps = [⟨.operand o, p⟩] := rfl
@[simp] theorem steps_group (p q : Nat) (body : Derivation 4) :
    (group p body q).steps = body.steps := rfl
@[simp] theorem steps_not (p : Nat) (body : Derivation 0) :
    (Derivation.not p body).steps = body.steps ++ [⟨.not, p⟩] := rfl
@[simp] theorem steps_raise (body : Derivation k) : body.raise.steps = body.steps := rfl
@[simp] theorem steps_binary (op : BinaryOp) (h : op ∈ BinaryOp.ofTier (k + 1)) (p : Nat)
    (left : Derivation (k + 1)) (right : Derivation k) :
    (binary op h p left right).steps = left.steps ++ (right.steps ++ [⟨.binary op, p⟩]) := rfl

/-- A derivation of a tier is one of every looser tier. -/
theorem exists_raise {j : Nat} (d : Derivation j) (h : j ≤ k) :
    ∃ e : Derivation k, e.tokens = d.tokens ∧ e.steps = d.steps := by
  induction h with
  | refl => exact ⟨d, rfl, rfl⟩
  | step _ ih =>
    obtain ⟨e, ht, hs⟩ := ih
    exact ⟨e.raise, ht, hs⟩

end Derivation

/-- The step that a token becomes; parentheses become none. -/
def Token.step? : Token → Option Step
  | .operand o => some (.operand o)
  | .symbol .not => some .not
  | .symbol (.binary op) => some (.binary op)
  | .symbol .leftParen => none
  | .symbol .rightParen => none

/-- The step that a token becomes, at the place of the token. -/
def stepOf? (t : Placed Token) : Option (Placed Step) :=
  t.item.step?.map fun s => ⟨s, t.position⟩

@[simp] theorem stepOf?_operand (o : Operand) (p : Nat) :
    stepOf? ⟨.operand o, p⟩ = some ⟨.operand o, p⟩ := rfl
@[simp] theorem stepOf?_not (p : Nat) : stepOf? ⟨.symbol .not, p⟩ = some ⟨.not, p⟩ := rfl
@[simp] theorem stepOf?_binary (op : BinaryOp) (p : Nat) :
    stepOf? ⟨.symbol (.binary op), p⟩ = some ⟨.binary op, p⟩ := rfl
@[simp] theorem stepOf?_leftParen (p : Nat) : stepOf? ⟨.symbol .leftParen, p⟩ = none := rfl
@[simp] theorem stepOf?_rightParen (p : Nat) : stepOf? ⟨.symbol .rightParen, p⟩ = none := rfl

def Step.isOperand : Step → Bool
  | .operand _ => true
  | _ => false

@[simp] theorem Step.isOperand_operand (o : Operand) : (Step.operand o).isOperand = true := rfl
@[simp] theorem Step.isOperand_not : Step.not.isOperand = false := rfl
@[simp] theorem Step.isOperand_binary (op : BinaryOp) : (Step.binary op).isOperand = false := rfl

namespace Derivation

variable {k : Nat}

/-- A walk has every operand and operator of its tokens once, at its own place. -/
theorem steps_perm (d : Derivation k) : d.steps.Perm (d.tokens.filterMap stepOf?) := by
  induction d with
  | operand o p => exact List.Perm.refl _
  | group p body q ih =>
    simp only [tokens, steps_group, List.filterMap_cons, List.filterMap_append, stepOf?_leftParen,
      stepOf?_rightParen, List.filterMap_nil, List.append_nil]
    exact ih
  | not p body ih =>
    simp only [tokens, steps_not, List.filterMap_cons, stepOf?_not]
    exact (List.perm_append_singleton _ _).trans (ih.cons _)
  | raise body ih => exact ih
  | binary op h p left right ihl ihr =>
    simp only [tokens, steps_binary, List.filterMap_append, List.filterMap_cons, stepOf?_binary]
    exact ihl.append ((List.perm_append_singleton _ _).trans (ihr.cons _))

/-- The operands of a walk stand in the order of the tokens. -/
theorem operands_steps (d : Derivation k) :
    d.steps.filter (·.item.isOperand) =
      (d.tokens.filterMap stepOf?).filter (·.item.isOperand) := by
  induction d with
  | operand o p => rfl
  | group p body q ih => simpa [tokens, List.filterMap_cons] using ih
  | not p body ih => simpa [tokens, List.filterMap_cons] using ih
  | raise body ih => exact ih
  | binary op h p left right ihl ihr => simp [tokens, ihl, ihr]

end Derivation
end FieldGuard
