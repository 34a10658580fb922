import FieldGuard.Condition.Evaluation

/-! What the built-in rules can make of operands. Each application is one of a few bodies on
operands of fitting kinds; what holds of every body holds of the rules. -/
namespace FieldGuard

/-- An operand of a kind, or a property that may resolve to it. -/
def Operand.Fits (k : Kind) (a : Operand) : Prop := a.kind = k ∨ a.kind = .property

/-- The kind of what an operator yields. -/
def BinaryOp.resultKind : BinaryOp → Kind
  | .add | .subtract | .multiply | .divide => .number
  | _ => .bool

theorem BinaryOp.resultKind_ne_property (op : BinaryOp) : op.resultKind ≠ .property := by
  cases op <;> decide

namespace Operation

/-- All that the built-in rules can make of a binary operator and two operands. -/
inductive Applies (ε : Float) :
    BinaryOp → Operand → Operand → (Context → Logged Fault Operand) → Prop
  | bools {op a b} (f : Bool → Bool → Bool) (hop : op.resultKind = .bool) (ha : a.Fits .bool)
      (hb : b.Fits .bool) : Applies ε op a b fun ctx => onBools f ctx a b
  | comparing {op a b} (f : Float → Float → Bool) (hop : op.resultKind = .bool)
      (ha : a.Fits .number) (hb : b.Fits .number) :
      Applies ε op a b fun ctx => comparing f ctx a b
  | computing {op a b} (f : Float → Float → Float) (hop : op.resultKind = .number)
      (ha : a.Fits .number) (hb : b.Fits .number) :
      Applies ε op a b fun ctx => computing f ctx a b
  | isNull {op} (negate : Bool) (name : String) (hop : op.resultKind = .bool) :
      Applies ε op (.property name) .null (isNull negate name)
  | nullIs {op} (negate : Bool) (name : String) (hop : op.resultKind = .bool) :
      Applies ε op .null (.property name) (isNull negate name)
  | sameValue {op} (negate : Bool) (a b : String) (hop : op.resultKind = .bool) :
      Applies ε op (.property a) (.property b) (sameValue ε negate a b)
  | sameMember {op a b} (result : Bool) (hop : op.resultKind = .bool) (ha : a.kind = .enum)
      (hb : b.kind = .enum) : Applies ε op a b fun _ => pure (.bool result)
  | standsAt {op} (negate : Bool) (name type member : String) (hop : op.resultKind = .bool) :
      Applies ε op (.property name) (.enum type member) (standsAt negate name type member)
  | memberStands {op} (negate : Bool) (name type member : String) (hop : op.resultKind = .bool) :
      Applies ε op (.enum type member) (.property name) (standsAt negate name type member)
  | sharesFlag {op} (name type member : String) (hop : op.resultKind = .bool) :
      Applies ε op (.property name) (.enum type member) (sharesFlag name type member)
  | flagShares {op} (name type member : String) (hop : op.resultKind = .bool) :
      Applies ε op (.enum type member) (.property name) (sharesFlag name type member)

theorem forKind_eq_some_iff {k left right : Kind} {f g : Operation} :
    forKind k f left right = some g ↔
      ((left = k ∨ left = .property) ∧ (right = k ∨ right = .property)) ∧ f = g := by
  simp [forKind]

variable {ε : Float} {op : BinaryOp} {a b : Operand} {f : Operation}

theorem applies_of_equality {negate : Bool} (hop : op.resultKind = .bool)
    (h : equality ε negate a.kind b.kind = some f) : Applies ε op a b fun ctx => f ctx a b := by
  match a, b, h with
  | .property x, .property y, rfl => exact .sameValue negate x y hop
  | .property x, .null, rfl => exact .isNull negate x hop
  | .null, .property y, rfl => exact .nullIs negate y hop
  | .bool _, .bool _, rfl => exact .bools _ hop (.inl rfl) (.inl rfl)
  | .bool _, .property _, rfl => exact .bools _ hop (.inl rfl) (.inr rfl)
  | .property _, .bool _, rfl => exact .bools _ hop (.inr rfl) (.inl rfl)
  | .number _, .number _, rfl => exact .comparing _ hop (.inl rfl) (.inl rfl)
  | .number _, .property _, rfl => exact .comparing _ hop (.inl rfl) (.inr rfl)
  | .property _, .number _, rfl => exact .comparing _ hop (.inr rfl) (.inl rfl)
  | .enum _ _, .enum _ _, rfl => exact .sameMember _ hop rfl rfl
  | .property x, .enum type member, rfl => exact .standsAt negate x type member hop
  | .enum type member, .property y, rfl => exact .memberStands negate y type member hop

theorem applies_of_flagTest (hop : op.resultKind = .bool)
    (h : flagTest a.kind b.kind = some f) : Applies ε op a b fun ctx => f ctx a b := by
  match a, b, h with
  | .property x, .enum type member, rfl => exact .sharesFlag x type member hop
  | .enum type member, .property y, rfl => exact .flagShares y type member hop

/-- Every entry of a binary operator is one of the bodies. -/
theorem applies_of_binary (h : binary ε op a.kind b.kind = some f) :
    Applies ε op a b fun ctx => f ctx a b := by
  cases op with
  | equal | notEqual => exact applies_of_equality rfl h
  | less | lessEqual | greater | greaterEqual =>
    obtain ⟨⟨ha, hb⟩, rfl⟩ := forKind_eq_some_iff.mp h
    exact .comparing _ rfl ha hb
  | and | or =>
    obtain ⟨⟨ha, hb⟩, rfl⟩ := forKind_eq_some_iff.mp h
    exact .bools _ rfl ha hb
  | add | subtract | multiply | divide =>
    obtain ⟨⟨ha, hb⟩, rfl⟩ := forKind_eq_some_iff.mp h
    exact .computing _ rfl ha hb
  | bitAnd => exact applies_of_flagTest rfl h

end Operation

/-- A key that has a built-in operation. -/
def Key.isBuiltIn (k : Key) : Bool := (Rules.builtIn Rules.defaultEpsilon k).isSome

namespace Rules

/-- The tolerance has no part in which keys have an operation. -/
theorem isSome_builtIn_congr (ε ε' : Float) (k : Key) :
    (builtIn ε k).isSome = (builtIn ε' k).isSome := by
  have heq (negate : Bool) (l r : Kind) :
      (Operation.equality ε negate l r).isSome = (Operation.equality ε' negate l r).isSome := by
    cases l <;> cases r <;> simp only [Operation.equality, Option.isSome]
  obtain ⟨s, l, r⟩ := k
  match s, r with
  | .binary op, some r =>
    cases op with
    | equal => exact heq false l r
    | notEqual => exact heq true l r
    | _ => rfl
  | .binary _, none => rfl
  | .not, r => cases l <;> cases r <;> rfl
  | .leftParen, _ => rfl
  | .rightParen, _ => rfl

theorem isSome_builtIn (ε : Float) (k : Key) : (builtIn ε k).isSome = k.isBuiltIn :=
  isSome_builtIn_congr ε defaultEpsilon k

@[simp] theorem find?_standard (ε : Float) (k : Key) : (standard ε).find? k = builtIn ε k := rfl

/-- A binary operator on operands without an entry is unsupported; with one, it is one of the
bodies. -/
theorem applyBinary_standard (ε : Float) (op : BinaryOp) (a b : Operand) :
    (Key.isBuiltIn ⟨.binary op, a.kind, some b.kind⟩ = false ∧
      ∀ ctx, (standard ε).applyBinary ctx (.binary op) a b =
        .fail (.unsupported (.binary op) a.kind (some b.kind))) ∨
    (Key.isBuiltIn ⟨.binary op, a.kind, some b.kind⟩ = true ∧
      ∃ f, Operation.Applies ε op a b f ∧
        ∀ ctx, (standard ε).applyBinary ctx (.binary op) a b = f ctx) := by
  rw [← isSome_builtIn ε]
  cases h : builtIn ε ⟨.binary op, a.kind, some b.kind⟩ with
  | none => exact .inl ⟨rfl, fun ctx => by simp [applyBinary, h]⟩
  | some f =>
    exact .inr ⟨rfl, _, Operation.applies_of_binary h, fun ctx => by simp [applyBinary, h]⟩

/-- The prefix `!` negates bools and properties, and nothing else. -/
theorem applyPrefix_standard (ε : Float) (a : Operand) :
    (Key.isBuiltIn ⟨.not, a.kind, none⟩ = false ∧
      ∀ ctx, (standard ε).applyPrefix ctx .not a = .fail (.unsupported .not a.kind none)) ∨
    (Key.isBuiltIn ⟨.not, a.kind, none⟩ = true ∧ a.Fits .bool ∧
      ∀ ctx, (standard ε).applyPrefix ctx .not a = Operation.negation ctx a .null) := by
  cases a with
  | bool _ => exact .inr ⟨rfl, .inl rfl, fun ctx => rfl⟩
  | property _ => exact .inr ⟨rfl, .inr rfl, fun ctx => rfl⟩
  | number _ | enum _ _ | null => exact .inl ⟨rfl, fun ctx => rfl⟩

section Results

variable {ε : Float} {ctx : Context} {op : BinaryOp} {a b v : Operand}

/-- A binary operator that comes to a result does so by one of the bodies, the same in every context.
-/
theorem body_of_combine (hv : ((standard ε).combine ctx op a b).outcome = .ok v) :
    ∃ f, Operation.Applies ε op a b f ∧
      ∀ ctx', ((standard ε).combine ctx' op a b).outcome = (f ctx').outcome := by
  obtain ⟨-, hf⟩ | ⟨-, f, happ, hf⟩ := applyBinary_standard ε op a b
  · rw [outcome_combine, hf] at hv
    cases hv
  · exact ⟨f, happ, fun ctx' => by rw [outcome_combine, hf]⟩

/-- The prefix `!` comes to a result on what fits a bool only. -/
theorem body_of_negate (hv : ((standard ε).negate ctx a).outcome = .ok v) :
    a.Fits .bool ∧
      ∀ ctx', ((standard ε).negate ctx' a).outcome = (Operation.negation ctx' a .null).outcome := by
  obtain ⟨-, hf⟩ | ⟨-, hfits, hf⟩ := applyPrefix_standard ε a
  · rw [outcome_negate, hf] at hv
    cases hv
  · exact ⟨hfits, fun ctx' => by rw [outcome_negate, hf]⟩

end Results

end Rules
end FieldGuard
