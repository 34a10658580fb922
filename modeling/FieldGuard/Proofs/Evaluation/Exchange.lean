import FieldGuard.Proofs.Decimal.Distance
import FieldGuard.Proofs.Evaluation.Kinds
import FieldGuard.Proofs.Evaluation.Meaning

/-! Operands in the other order. An operator that asks something symmetric, and a comparison with
its reverse, come to one truth value in both orders, or to a fault in both; only what the fault
names may differ. So operands can be exchanged anywhere in a condition. -/
namespace FieldGuard

/-- The operator that asks the same of exchanged operands. Arithmetic has none: a difference or a
quotient is not symmetric, and sums and products are no truth values. -/
def BinaryOp.mirrored? : BinaryOp → Option BinaryOp
  | .equal => some .equal
  | .notEqual => some .notEqual
  | .and => some .and
  | .or => some .or
  | .bitAnd => some .bitAnd
  | .less => some .greater
  | .greater => some .less
  | .lessEqual => some .greaterEqual
  | .greaterEqual => some .lessEqual
  | .add | .subtract | .multiply | .divide => none

namespace Operation

/-- Operations that come to the same results on exchanged operands. -/
def Mirrors (f g : Operation) : Prop :=
  ∀ ctx a b v, (f ctx a b).outcome = .ok v ↔ (g ctx b a).outcome = .ok v

theorem onBools_mirrors {f g : Bool → Bool → Bool} (h : ∀ x y, f x y = g y x) :
    Mirrors (onBools f) (onBools g) := by
  intro ctx a b v
  rw [onBools_eq_ok_iff, onBools_eq_ok_iff]
  constructor
  · rintro ⟨x, hx, y, hy, rfl⟩
    exact ⟨y, hy, x, hx, by rw [h]⟩
  · rintro ⟨y, hy, x, hx, rfl⟩
    exact ⟨x, hx, y, hy, by rw [h]⟩

theorem comparing_mirrors {f g : Float → Float → Bool} (h : ∀ x y, f x y = g y x) :
    Mirrors (comparing f) (comparing g) := by
  intro ctx a b v
  rw [comparing_eq_ok_iff, comparing_eq_ok_iff]
  constructor
  · rintro ⟨x, hx, y, hy, rfl⟩
    exact ⟨y, hy, x, hx, by rw [h]⟩
  · rintro ⟨y, hy, x, hx, rfl⟩
    exact ⟨x, hx, y, hy, by rw [h]⟩

variable {ε : Float} {ctx : Context} {v : Operand}

theorem both_comm {α β : Type} {f : α → α → β} (h : ∀ x y, f x y = f y x) (p q : Option α) :
    both f p q = both f q p := by
  cases p with
  | none => cases q <;> rfl
  | some x =>
    cases q with
    | none => rfl
    | some y => exact congrArg some (h x y)

theorem decide_eq_comm {α : Type} [DecidableEq α] (x y : α) : decide (x = y) = decide (y = x) :=
  decide_eq_decide.mpr eq_comm

theorem valuesEqual?_comm (x y : String) : valuesEqual? ε ctx x y = valuesEqual? ε ctx y x := by
  have hmembers := both_comm decide_eq_comm (ctx.member x) (ctx.member y)
  have hnumbers := both_comm (nearlyEqual_comm ε) (ctx.number x) (ctx.number y)
  have hbools := both_comm (fun p q => Bool.beq_comm (a := p) (b := q)) (ctx.bool x) (ctx.bool y)
  rw [valuesEqual?, valuesEqual?, hmembers, hnumbers, hbools]

/-- All comparisons of two fields are symmetric, and the choice between them is. -/
theorem sameValue_exchange (negate : Bool) (x y : String) :
    (sameValue ε negate x y ctx).outcome = .ok v ↔
      (sameValue ε negate y x ctx).outcome = .ok v := by
  have hobjects := both_comm decide_eq_comm (ctx.object x) (ctx.object y)
  rw [sameValue_eq_ok_iff, sameValue_eq_ok_iff, hobjects, valuesEqual?_comm]
  simp only [and_comm (a := ctx.typeName x = _)]

/-- Equality has an entry for two kinds in both orders or in neither. -/
theorem equality_mirrors (ε : Float) (negate : Bool) (left right : Kind) :
    Option.Rel Mirrors (equality ε negate left right) (equality ε negate right left) := by
  match left, right with
  | .property, .property =>
    refine .some fun ctx a b v => ?_
    cases a with
    | property x =>
      cases b with
      | property y => exact sameValue_exchange negate x y
      | bool _ | number _ | enum _ _ | null => exact .rfl
    | bool _ | number _ | enum _ _ | null => cases b <;> exact .rfl
  | .property, .null | .null, .property => exact .some fun ctx a b v => .rfl
  | .bool, .bool | .bool, .property | .property, .bool =>
    exact .some (onBools_mirrors fun x y => by rw [Bool.beq_comm])
  | .number, .number | .number, .property | .property, .number =>
    exact .some (comparing_mirrors fun x y => by rw [nearlyEqual_comm])
  | .enum, .enum => exact .some fun ctx a b v => by rw [decide_eq_comm]
  | .property, .enum | .enum, .property =>
    refine .some fun ctx a b v => ?_
    cases a <;> cases b <;> exact .rfl
  | .bool, .number | .bool, .enum | .bool, .null | .number, .bool | .number, .enum
  | .number, .null | .enum, .bool | .enum, .number | .enum, .null | .null, .bool
  | .null, .number | .null, .enum | .null, .null => exact .none

/-- A flag is tested in both orders alike. -/
theorem flagTest_mirrors (left right : Kind) :
    Option.Rel Mirrors (flagTest left right) (flagTest right left) := by
  match left, right with
  | .property, .enum | .enum, .property =>
    refine .some fun ctx a b v => ?_
    cases a <;> cases b <;> exact .rfl
  | .bool, other | .number, other | .null, other => cases other <;> exact .none
  | .property, .bool | .property, .number | .property, .property | .property, .null
  | .enum, .bool | .enum, .number | .enum, .enum | .enum, .null => exact .none

theorem forKind_mirrors {f g : Operation} (h : Mirrors f g) (kind left right : Kind) :
    Option.Rel Mirrors (forKind kind f left right) (forKind kind g right left) := by
  by_cases hfits : (left = kind ∨ left = .property) ∧ (right = kind ∨ right = .property)
  · rw [forKind, forKind, if_pos hfits, if_pos hfits.symm]
    exact .some h
  · rw [forKind, forKind, if_neg hfits, if_neg fun hfits' => hfits hfits'.symm]
    exact .none

/-- An operator has an operation on operands of two kinds exactly if its mirror image has one on
exchanged operands, and both come to the same results. -/
theorem binary_mirrors (ε : Float) {op op' : BinaryOp} (h : op.mirrored? = some op')
    (left right : Kind) :
    Option.Rel Mirrors (binary ε op left right) (binary ε op' right left) := by
  cases op with
  | equal =>
    cases h
    exact equality_mirrors ε false left right
  | notEqual =>
    cases h
    exact equality_mirrors ε true left right
  | and =>
    cases h
    exact forKind_mirrors (onBools_mirrors Bool.and_comm) .bool left right
  | or =>
    cases h
    exact forKind_mirrors (onBools_mirrors Bool.or_comm) .bool left right
  | less | lessEqual | greater | greaterEqual =>
    cases h
    exact forKind_mirrors (comparing_mirrors fun _ _ => rfl) .number left right
  | bitAnd =>
    cases h
    exact flagTest_mirrors left right
  | add | subtract | multiply | divide => cases h

end Operation

/-- Outcomes with one truth value, or two faults. -/
inductive SameTruth : Except Fault Operand → Except Fault Operand → Prop
  | truth (x : Bool) : SameTruth (.ok (.bool x)) (.ok (.bool x))
  | fault (e e' : Fault) : SameTruth (.error e) (.error e')

namespace Rules

variable {ε : Float} {ctx : Context} {op op' : BinaryOp} {a b v : Operand}

/-- An operator comes to what its mirror image comes to on exchanged operands. -/
theorem applyBinary_exchange (h : op.mirrored? = some op') :
    ((standard ε).applyBinary ctx (.binary op) a b).outcome = .ok v ↔
      ((standard ε).applyBinary ctx (.binary op') b a).outcome = .ok v := by
  have hentries := Operation.binary_mirrors ε h a.kind b.kind
  unfold applyBinary
  rw [find?_standard, find?_standard, builtIn, builtIn]
  cases hf : Operation.binary ε op a.kind b.kind with
  | none =>
    rw [hf] at hentries
    generalize Operation.binary ε op' b.kind a.kind = entry at hentries ⊢
    cases hentries
    simp
  | some f =>
    rw [hf] at hentries
    generalize Operation.binary ε op' b.kind a.kind = entry at hentries ⊢
    cases hentries with
    | some hmirrors => exact hmirrors ctx a b v

/-- What has a mirror image yields truth values. -/
theorem exists_bool_of_mirrored (h : op.mirrored? = some op')
    (hv : ((standard ε).applyBinary ctx (.binary op) a b).outcome = .ok v) :
    ∃ x, v = .bool x := by
  rw [← outcome_combine] at hv
  have hkind := kind_of_combine hv
  have hbool : op.resultKind = .bool := by
    cases op with
    | add | subtract | multiply | divide => cases h
    | _ => rfl
  rw [hbool] at hkind
  cases v with
  | bool x => exact ⟨x, rfl⟩
  | number _ | null | property _ | enum _ _ => cases hkind

theorem sameTruth_exchange (h : op.mirrored? = some op') :
    SameTruth ((standard ε).applyBinary ctx (.binary op) a b).outcome
      ((standard ε).applyBinary ctx (.binary op') b a).outcome := by
  cases hab : ((standard ε).applyBinary ctx (.binary op) a b).outcome with
  | ok v =>
    obtain ⟨x, rfl⟩ := exists_bool_of_mirrored h hab
    rw [(applyBinary_exchange h).mp hab]
    exact .truth x
  | error e =>
    cases hba : ((standard ε).applyBinary ctx (.binary op') b a).outcome with
    | ok v =>
      rw [(applyBinary_exchange h).mpr hba] at hab
      cases hab
    | error e' => exact .fault e e'

end Rules

namespace ConditionTree

/-- The same condition with operands exchanged, wherever an operator has a mirror image. -/
inductive Exchanges : ConditionTree → ConditionTree → Prop
  | operand (o : Operand) (p p' : Nat) : Exchanges (operand o p) (operand o p')
  | not (p p' : Nat) {body body' : ConditionTree} (hbody : Exchanges body body') :
    Exchanges (not p body) (not p' body')
  | keep (op : BinaryOp) (p p' : Nat) {left left' right right' : ConditionTree}
    (hleft : Exchanges left left') (hright : Exchanges right right') :
    Exchanges (binary op p left right) (binary op p' left' right')
  | exchange {op op' : BinaryOp} (h : op.mirrored? = some op') (p p' : Nat)
    {left left' right right' : ConditionTree} (hleft : Exchanges left left')
    (hright : Exchanges right right') :
    Exchanges (binary op p left right) (binary op' p' right' left')

variable {rules : Rules} {ε : Float} {ctx : Context} {v : Operand}

theorem meaning_not_eq_ok_iff {p : Nat} {body : ConditionTree} :
    (ConditionTree.not p body).meaning rules ctx = .ok v ↔
      ∃ a, body.meaning rules ctx = .ok a ∧ (rules.applyPrefix ctx .not a).outcome = .ok v := by
  rw [meaning]
  cases body.meaning rules ctx <;> simp

theorem meaning_binary_eq_ok_iff {op : BinaryOp} {p : Nat} {left right : ConditionTree} :
    (binary op p left right).meaning rules ctx = .ok v ↔
      ∃ a, left.meaning rules ctx = .ok a ∧ ∃ b, right.meaning rules ctx = .ok b ∧
        (rules.applyBinary ctx (.binary op) a b).outcome = .ok v := by
  rw [meaning]
  cases left.meaning rules ctx with
  | error e => simp
  | ok a => cases right.meaning rules ctx <;> simp

/-- Exchanged operands are evaluated in the other order, which shows in faults only. -/
theorem Exchanges.meaning_eq_ok_iff {t t' : ConditionTree} (h : t.Exchanges t') :
    t.meaning (.standard ε) ctx = .ok v ↔ t'.meaning (.standard ε) ctx = .ok v := by
  induction h generalizing v with
  | operand o p p' => exact .rfl
  | not p p' hbody ih => simp only [meaning_not_eq_ok_iff, ih]
  | keep op p p' hleft hright ihl ihr => simp only [meaning_binary_eq_ok_iff, ihl, ihr]
  | exchange h p p' hleft hright ihl ihr =>
    simp only [meaning_binary_eq_ok_iff, ihl, ihr, Rules.applyBinary_exchange h]
    constructor
    · rintro ⟨a, ha, b, hb, hv⟩
      exact ⟨b, hb, a, ha, hv⟩
    · rintro ⟨b, hb, a, ha, hv⟩
      exact ⟨a, ha, b, hb, hv⟩

end ConditionTree

/-- The truth value of a condition is that of what its tree means. -/
theorem evaluate_eq_ok_iff_meaning {rules : Rules} {ctx : Context} {c : Condition}
    {t : ConditionTree} (h : c.steps.map (·.item) = t.bareSteps) {x : Bool} :
    (evaluate rules ctx c).outcome = .ok x ↔
      ∃ a, t.meaning rules ctx = .ok a ∧ a.truth ctx = .ok x := by
  rw [evaluate_eq_of_bareSteps rules ctx h]
  cases t.meaning rules ctx <;> simp [Except.bind]

/-- Under the built-in rules and in every context, `==`, `!=`, `&&`, `||` and `&` come to the same
truth value on exchanged operands or to a fault on both, and so do `<` and `>` and `<=` and `>=`. So
a condition in which operands were exchanged in any places has the same truth value, if it has one.
-/
theorem exchanged_operands_agree (ε : Float) (ctx : Context) :
    (∀ op op' a b, BinaryOp.mirrored? op = some op' →
      SameTruth ((Rules.standard ε).applyBinary ctx (.binary op) a b).outcome
        ((Rules.standard ε).applyBinary ctx (.binary op') b a).outcome) ∧
    ∀ t t' c c', ConditionTree.Exchanges t t' → c.steps.map (·.item) = t.bareSteps →
      c'.steps.map (·.item) = t'.bareSteps → ∀ x,
        ((evaluate (.standard ε) ctx c).outcome = .ok x ↔
          (evaluate (.standard ε) ctx c').outcome = .ok x) := by
  refine ⟨fun op op' a b h => Rules.sameTruth_exchange h, fun t t' c c' h hc hc' x => ?_⟩
  rw [evaluate_eq_ok_iff_meaning hc, evaluate_eq_ok_iff_meaning hc']
  simp only [h.meaning_eq_ok_iff]

/-- A comparison under a conjunction, both with their operands exchanged. -/
theorem exchanged_operands_agree_less :
    let ε := Rules.defaultEpsilon
    let ctx : Context :=
      { name := "S"
        bool := fun n => if n = "A" then some true else none
        integer := fun _ => none
        number := fun n => if n = "X" then some 1 else none
        member := fun _ => none
        object := fun _ => none
        typeName := fun _ => none
        memberValue := fun _ _ => none
        remarks := fun _ _ => [] }
    let t : ConditionTree :=
      .binary .and 3 (.binary .less 1 (.operand (.property "X") 0) (.operand (.number 2) 2))
        (.operand (.property "A") 5)
    let t' : ConditionTree :=
      .binary .and 1 (.operand (.property "A") 0)
        (.binary .greater 4 (.operand (.number 2) 3) (.operand (.property "X") 5))
    BinaryOp.mirrored? .less = some .greater ∧
      SameTruth
        ((Rules.standard ε).applyBinary ctx (.binary .less) (.property "X") (.number 2)).outcome
        ((Rules.standard ε).applyBinary ctx (.binary .greater) (.number 2)
          (.property "X")).outcome ∧
      t.Exchanges t' ∧
      (evaluate (.standard ε) ctx ⟨"X<2&&A", t.steps⟩).outcome = .ok true ∧
      (evaluate (.standard ε) ctx ⟨"A&&2>X", t'.steps⟩).outcome = .ok true := by
  intro ε ctx t t'
  obtain ⟨hoperators, hconditions⟩ := exchanged_operands_agree ε ctx
  have hexchanges : t.Exchanges t' :=
    .exchange rfl 3 1 (.exchange rfl 1 4 (.operand _ 0 5) (.operand _ 2 3)) (.operand _ 5 0)
  have htrue : (evaluate (.standard ε) ctx ⟨"X<2&&A", t.steps⟩).outcome = .ok true := rfl
  have htrue' := (hconditions t t' ⟨"X<2&&A", t.steps⟩ ⟨"A&&2>X", t'.steps⟩ hexchanges rfl rfl
    true).mp htrue
  exact ⟨rfl, hoperators .less .greater _ _ rfl, hexchanges, htrue, htrue'⟩

end FieldGuard
