import FieldGuard.Condition.Evaluation
import FieldGuard.Proofs.Evaluation.Applications

/-! Kinds are decided by a condition alone. A stack of kinds runs along with the machine; where it
comes through, no context makes a fault of kind, and where it does not, every context makes a fault.
-/
namespace FieldGuard

/-- Faults of operands of the wrong kind, and of a sequence that is none. -/
def Fault.isKindFault : Fault → Bool
  | .unsupported _ _ _ | .notBoolean _ | .malformed => true
  | _ => false

namespace Logged

variable {α β : Type} {P : α → Prop} {Q : β → Prop}

/-- A computation that comes to a result as `P` says, or to a fault that is none of kind. -/
def Kinded (P : α → Prop) (x : Logged Fault α) : Prop :=
  match x.outcome with
  | .ok a => P a
  | .error e => e.isKindFault = false

theorem Kinded.bind {x : Logged Fault α} {f : α → Logged Fault β} (hx : x.Kinded P)
    (hf : ∀ a, P a → (f a).Kinded Q) : (x >>= f).Kinded Q := by
  unfold Kinded at hx ⊢
  rw [outcome_bind]
  cases h : x.outcome with
  | error e =>
    rw [h] at hx
    exact hx
  | ok a =>
    rw [h] at hx
    exact hf a hx

theorem Kinded.map {x : Logged Fault α} {f : α → β} (hx : x.Kinded P) (hf : ∀ a, P a → Q (f a)) :
    (f <$> x).Kinded Q := by
  rw [map_eq_pure_bind]
  exact hx.bind hf

/-- Only the outcome counts. -/
theorem kinded_congr {x y : Logged Fault α} (h : x.outcome = y.outcome) :
    x.Kinded P ↔ y.Kinded P := by
  unfold Kinded
  rw [h]

/-- A result as `P` says, or some fault. -/
theorem Kinded.cases {x : Logged Fault α} (h : x.Kinded P) :
    (∃ a, x.outcome = .ok a ∧ P a) ∨ ∃ e, x.outcome = .error e ∧ e.isKindFault = false := by
  unfold Kinded at h
  cases hx : x.outcome with
  | error e =>
    rw [hx] at h
    exact .inr ⟨e, rfl, h⟩
  | ok a =>
    rw [hx] at h
    exact .inl ⟨a, rfl, h⟩

theorem Kinded.of_ok {x : Logged Fault α} (h : x.Kinded P) {a : α} (ha : x.outcome = .ok a) :
    P a := by
  unfold Kinded at h
  rw [ha] at h
  exact h

theorem Kinded.of_error {x : Logged Fault α} (h : x.Kinded P) {e : Fault}
    (he : x.outcome = .error e) : e.isKindFault = false := by
  unfold Kinded at h
  rw [he] at h
  exact h

theorem kinded_fail {e : Fault} (he : e.isKindFault = false) :
    (fail e : Logged Fault α).Kinded P := he

theorem kinded_require {e : Fault} (he : e.isKindFault = false) (a : Option α) :
    (require e a).Kinded fun _ => True := by
  cases a with
  | none => exact he
  | some a => trivial

theorem kinded_note (n : Note) : (note n : Logged Fault Unit).Kinded fun _ => True := trivial

section Ask

variable {ctx : Context} {getter : Getter} {field : String}

theorem kinded_ask {f : Option getter.Answer → Logged Fault β}
    (hf : (f (ctx.get getter field)).Kinded Q) : (ctx.ask getter field >>= f).Kinded Q := by
  have hanswer : (ctx.ask getter field : Logged Fault _).Kinded fun x => x = ctx.get getter field :=
    rfl
  apply hanswer.bind
  rintro x rfl
  exact hf

/-- Asking for a value and faulting where there is none. -/
theorem kinded_demand {e : Fault} (he : e.isKindFault = false) {f : getter.Answer → Logged Fault β}
    (hf : ∀ a, (f a).Kinded Q) :
    (ctx.ask getter field >>= fun a => require e a >>= f).Kinded Q :=
  kinded_ask ((kinded_require he _).bind fun a _ => hf a)

end Ask

end Logged

namespace Operation

variable {ε : Float} {op : BinaryOp} {a b : Operand}

theorem kinded_resolveBool (ctx : Context) (h : a.Fits .bool) :
    (resolveBool ctx a).Kinded fun _ => True := by
  cases a with
  | bool _ => trivial
  | property name => exact Logged.kinded_ask (Logged.kinded_require rfl _)
  | number _ | enum _ _ | null => simp [Operand.Fits, Operand.kind] at h

theorem kinded_resolveNumber (ctx : Context) (h : a.Fits .number) :
    (resolveNumber ctx a).Kinded fun _ => True := by
  cases a with
  | number _ => trivial
  | property name => exact Logged.kinded_ask (Logged.kinded_require rfl _)
  | bool _ | enum _ _ | null => simp [Operand.Fits, Operand.kind] at h

theorem kinded_isNull (negate : Bool) (name : String) (ctx : Context) :
    (isNull negate name ctx).Kinded fun v => v.kind = .bool := by
  unfold isNull
  apply Logged.kinded_demand rfl
  intro type
  apply Logged.kinded_demand rfl
  intro ref
  exact rfl

theorem kinded_sameValue (negate : Bool) (a b : String) (ctx : Context) :
    (sameValue ε negate a b ctx).Kinded fun v => v.kind = .bool := by
  unfold sameValue
  refine Logged.kinded_ask (Logged.kinded_ask ?_)
  split
  · exact rfl
  · apply Logged.kinded_demand rfl
    intro typeA
    apply Logged.kinded_demand rfl
    intro typeB
    split
    · exact rfl
    · iterate 6 apply Logged.kinded_ask
      exact (Logged.kinded_require rfl _).bind fun _ _ => rfl

theorem kinded_standsAt (negate : Bool) (name type member : String) (ctx : Context) :
    (standsAt negate name type member ctx).Kinded fun v => v.kind = .bool := by
  unfold standsAt
  apply Logged.kinded_demand rfl
  intro fieldType
  split
  · exact rfl
  · apply Logged.kinded_demand rfl
    intro current
    exact rfl

theorem kinded_sharesFlag (name type member : String) (ctx : Context) :
    (sharesFlag name type member ctx).Kinded fun v => v.kind = .bool := by
  unfold sharesFlag
  refine (Logged.kinded_require rfl _).bind fun flag _ => ?_
  apply Logged.kinded_demand rfl
  intro current
  exact rfl

theorem kinded_negation (ctx : Context) (h : a.Fits .bool) :
    (negation ctx a .null).Kinded fun v => v.kind = .bool :=
  .bind (kinded_resolveBool ctx h) fun _ _ => rfl

/-- Every body yields the kind of its operator. -/
theorem Applies.kinded {f : Context → Logged Fault Operand} (h : Applies ε op a b f)
    (ctx : Context) : (f ctx).Kinded fun v => v.kind = op.resultKind := by
  cases h with
  | bools f hop ha hb =>
    rw [hop]
    exact .bind (kinded_resolveBool ctx ha) fun _ _ =>
      .bind (kinded_resolveBool ctx hb) fun _ _ => rfl
  | comparing f hop ha hb =>
    rw [hop]
    exact .bind (kinded_resolveNumber ctx ha) fun _ _ =>
      .bind (kinded_resolveNumber ctx hb) fun _ _ => rfl
  | computing f hop ha hb =>
    rw [hop]
    exact .bind (kinded_resolveNumber ctx ha) fun _ _ =>
      .bind (kinded_resolveNumber ctx hb) fun _ _ => rfl
  | isNull negate name hop | nullIs negate name hop =>
    rw [hop]
    exact kinded_isNull negate name ctx
  | sameValue negate a b hop =>
    rw [hop]
    exact kinded_sameValue negate a b ctx
  | sameMember result hop ha hb => exact hop.symm
  | standsAt negate name type member hop | memberStands negate name type member hop =>
    rw [hop]
    exact kinded_standsAt negate name type member ctx
  | sharesFlag name type member hop | flagShares name type member hop =>
    rw [hop]
    exact kinded_sharesFlag name type member ctx

end Operation

namespace Rules

variable {ε : Float} {ctx : Context} {op : BinaryOp} {a b v : Operand}

/-- What a binary operator yields has the kind of the operator. -/
theorem kind_of_combine (hv : ((standard ε).combine ctx op a b).outcome = .ok v) :
    v.kind = op.resultKind := by
  obtain ⟨f, happ, hf⟩ := body_of_combine hv
  rw [hf] at hv
  exact (happ.kinded ctx).of_ok hv

theorem kind_of_negate (hv : ((standard ε).negate ctx a).outcome = .ok v) : v.kind = .bool := by
  obtain ⟨hfits, hf⟩ := body_of_negate hv
  rw [hf] at hv
  exact (Operation.kinded_negation ctx hfits).of_ok hv

end Rules

namespace Kinds

/-- One step on a stack of kinds, topmost first; an operator without an entry for its kinds ends it.
-/
def step? : List Kind → Step → Option (List Kind)
  | stack, .operand o => some (o.kind :: stack)
  | a :: rest, .not => if Key.isBuiltIn ⟨.not, a, none⟩ then some (.bool :: rest) else none
  | b :: a :: rest, .binary op =>
    if Key.isBuiltIn ⟨.binary op, a, some b⟩ then some (op.resultKind :: rest) else none
  | _, _ => none

def run? : List Kind → List Step → Option (List Kind)
  | stack, [] => some stack
  | stack, s :: rest => (step? stack s).bind fun next => run? next rest

end Kinds

/-- Whether the kinds in a condition fit, and it ends with a bool or a property. -/
def Condition.wellKinded (c : Condition) : Bool :=
  match Kinds.run? [] (c.steps.map (·.item)) with
  | some [k] => k == .bool || k == .property
  | _ => false

theorem Condition.wellKinded_iff {c : Condition} :
    c.wellKinded = true ↔
      ∃ k, Kinds.run? [] (c.steps.map (·.item)) = some [k] ∧ (k = .bool ∨ k = .property) := by
  unfold wellKinded
  split
  · next k hk => simp [hk]
  · next hk => simpa using fun k h => absurd h (hk k)

namespace Machine

variable (ε : Float) (ctx : Context) {ks : List Kind} {s : Step}

/-- The stack of kinds goes along with the machine. -/
theorem kinded_step {stack : List Operand}
    (h : Kinds.step? (stack.map Operand.kind) s = some ks) :
    (step (.standard ε) ctx stack s).Kinded fun st => st.map Operand.kind = ks := by
  match s, stack, h with
  | .operand o, stack, h => exact Option.some.inj h
  | .not, a :: rest, h =>
    obtain ⟨hk, -⟩ | ⟨hk, ha, hf⟩ := Rules.applyPrefix_standard ε a
    · simp [Kinds.step?, hk] at h
    · obtain rfl : Kind.bool :: rest.map Operand.kind = ks := by simpa [Kinds.step?, hk] using h
      have hn : (Rules.negate (.standard ε) ctx a).Kinded fun v => v.kind = .bool := by
        rw [Logged.kinded_congr (Rules.outcome_negate _ ctx a), hf]
        exact Operation.kinded_negation ctx ha
      exact hn.map fun v hv => by rw [List.map_cons, hv]
  | .binary op, b :: a :: rest, h =>
    obtain ⟨hk, -⟩ | ⟨hk, f, ha, hf⟩ := Rules.applyBinary_standard ε op a b
    · simp [Kinds.step?, hk] at h
    · obtain rfl : op.resultKind :: rest.map Operand.kind = ks := by
        simpa [Kinds.step?, hk] using h
      have hc : (Rules.combine (.standard ε) ctx op a b).Kinded
          fun v => v.kind = op.resultKind := by
        rw [Logged.kinded_congr (Rules.outcome_combine _ ctx op a b), hf]
        exact ha.kinded ctx
      exact hc.map fun v hv => by rw [List.map_cons, hv]

/-- Where the stack of kinds ends, the machine faults. -/
theorem step_fails {stack : List Operand}
    (h : Kinds.step? (stack.map Operand.kind) s = none) :
    ∃ e, (step (.standard ε) ctx stack s).outcome = .error e := by
  match s, stack, h with
  | .not, [], h => exact ⟨_, rfl⟩
  | .not, a :: rest, h =>
    obtain ⟨-, hf⟩ | ⟨hk, -⟩ := Rules.applyPrefix_standard ε a
    · exact ⟨.unsupported .not a.kind none, by simp [step, hf, Except.map]⟩
    · simp [Kinds.step?, hk] at h
  | .binary op, [], h => exact ⟨_, rfl⟩
  | .binary op, [a], h => exact ⟨_, rfl⟩
  | .binary op, b :: a :: rest, h =>
    obtain ⟨-, hf⟩ | ⟨hk, -⟩ := Rules.applyBinary_standard ε op a b
    · exact ⟨.unsupported (.binary op) a.kind (some b.kind), by simp [step, hf, Except.map]⟩
    · simp [Kinds.step?, hk] at h

theorem kinded_run (stack : List Operand) {steps : List Step}
    (h : Kinds.run? (stack.map Operand.kind) steps = some ks) :
    (run (.standard ε) ctx stack steps).Kinded fun st => st.map Operand.kind = ks := by
  induction steps generalizing stack with
  | nil => exact Option.some.inj h
  | cons s rest ih =>
    obtain ⟨next, hs, hr⟩ := Option.bind_eq_some_iff.mp h
    refine (kinded_step ε ctx hs).bind fun st hst => ih st ?_
    rw [hst]
    exact hr

theorem run_fails (stack : List Operand) {steps : List Step}
    (h : Kinds.run? (stack.map Operand.kind) steps = none) :
    ∃ e, (run (.standard ε) ctx stack steps).outcome = .error e := by
  induction steps generalizing stack with
  | nil => simp [Kinds.run?] at h
  | cons s rest ih =>
    rw [run, Logged.outcome_bind]
    cases hs : Kinds.step? (stack.map Operand.kind) s with
    | none =>
      obtain ⟨e, he⟩ := step_fails ε ctx hs
      exact ⟨e, by rw [he, Except.bind]⟩
    | some next =>
      obtain ⟨st, hst, hk⟩ | ⟨e, he, -⟩ := (kinded_step ε ctx hs).cases
      · rw [hst]
        apply ih
        rw [hk]
        simpa [Kinds.run?, hs] using h
      · exact ⟨e, by rw [he, Except.bind]⟩

/-- The verdict on a bool or a property is no fault of kind. -/
theorem kinded_verdict {a : Operand} (h : a.Fits .bool) :
    (verdict ctx a).Kinded fun _ => True := by
  cases a with
  | bool _ => trivial
  | property name =>
    apply Logged.kinded_ask
    cases ctx.get .bool name with
    | some b => trivial
    | none =>
      apply Logged.kinded_ask
      cases ctx.get .typeName name with
      | none => exact rfl
      | some type =>
        apply Logged.kinded_fail
        by_cases ht : type = "bool" <;> simp [ht, Fault.isKindFault]
  | number _ | enum _ _ | null => simp [Operand.Fits, Operand.kind] at h

/-- Anything else has no verdict. -/
theorem verdict_fails {a : Operand} (h : ¬ a.Fits .bool) :
    ∃ e, (verdict ctx a).outcome = .error e := by
  cases a with
  | bool _ => exact absurd (.inl rfl) h
  | property _ => exact absurd (.inr rfl) h
  | number _ | enum _ _ | null => exact ⟨_, rfl⟩

end Machine

/-- Where the kinds fit, a condition comes to a truth value or to a fault that is none of kind. -/
theorem kinded_evaluate {c : Condition} (h : c.wellKinded = true) (ε : Float) (ctx : Context) :
    (evaluate (.standard ε) ctx c).Kinded fun _ => True := by
  obtain ⟨k, hrun, hk⟩ := Condition.wellKinded_iff.mp h
  refine (Machine.kinded_run ε ctx [] hrun).bind fun st hst => ?_
  obtain ⟨a, rfl, rfl⟩ := List.map_eq_singleton_iff.mp hst
  refine (Machine.kinded_verdict ctx hk).bind fun b _ => ?_
  exact (Logged.kinded_note _).bind fun _ _ => trivial

/-- Where they do not fit, it comes to a fault. -/
theorem evaluate_fails {c : Condition} (h : c.wellKinded = false) (ε : Float) (ctx : Context) :
    ∃ e, (evaluate (.standard ε) ctx c).outcome = .error e := by
  unfold evaluate
  rw [Logged.outcome_bind]
  cases hk : Kinds.run? [] (c.steps.map (·.item)) with
  | none =>
    obtain ⟨e, he⟩ := Machine.run_fails ε ctx [] hk
    exact ⟨e, by rw [he, Except.bind]⟩
  | some ks =>
    obtain ⟨st, hst, rfl⟩ | ⟨e, he, -⟩ :=
      (Machine.kinded_run ε ctx [] hk).cases
    · rw [hst]
      match st, hk with
      | [], hk => exact ⟨.malformed, rfl⟩
      | _ :: _ :: _, hk => exact ⟨.malformed, rfl⟩
      | [a], hk =>
        have hfits : ¬ a.Fits .bool := fun ha =>
          Bool.false_ne_true (h.symm.trans (Condition.wellKinded_iff.mpr ⟨a.kind, hk, ha⟩))
        obtain ⟨e, he⟩ := Machine.verdict_fails ctx hfits
        exact ⟨e, by simp [Except.bind, he]⟩
    · exact ⟨e, by rw [he, Except.bind]⟩

/-- Faults of kind are decided by the condition alone. Where its kinds fit, no context makes one;
where they do not, every context makes a fault. So a condition with a truth value in one context has
no fault of kind in another. -/
theorem kind_faults_decided (c : Condition) :
    (c.wellKinded = true → ∀ ε ctx e,
      (evaluate (.standard ε) ctx c).outcome = .error e → e.isKindFault = false) ∧
    (c.wellKinded = false → ∀ ε ctx, ∃ e, (evaluate (.standard ε) ctx c).outcome = .error e) ∧
    ∀ ε ε' ctx ctx' b e, (evaluate (.standard ε) ctx c).outcome = .ok b →
      (evaluate (.standard ε') ctx' c).outcome = .error e → e.isKindFault = false := by
  have safe (h : c.wellKinded = true) (ε : Float) (ctx : Context) (e : Fault)
      (he : (evaluate (.standard ε) ctx c).outcome = .error e) : e.isKindFault = false :=
    (kinded_evaluate h ε ctx).of_error he
  refine ⟨safe, evaluate_fails, fun ε ε' ctx ctx' b e hb he => ?_⟩
  cases h : c.wellKinded with
  | true => exact safe h ε' ctx' e he
  | false =>
    obtain ⟨e', he'⟩ := evaluate_fails h ε ctx
    rw [hb] at he'
    cases he'

example : Condition.wellKinded ⟨"!A", [⟨.operand (.property "A"), 1⟩, ⟨.not, 0⟩]⟩ = true := rfl

example : Condition.wellKinded ⟨"!nullptr", [⟨.operand .null, 1⟩, ⟨.not, 0⟩]⟩ = false := rfl

end FieldGuard
