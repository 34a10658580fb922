import FieldGuard.Proofs.Evaluation.Answers
import FieldGuard.Proofs.Evaluation.Kinds

/-! What an outcome depends on. With the built-in rules a condition asks a context only about the
properties and enum members that stand in its steps; contexts that answer alike about these make the
same truth value of it, or the same fault. -/
namespace FieldGuard

/-- Two contexts give the same answers about a name. -/
structure Context.AgreeAt (ctx ctx' : Context) (name : String) : Prop where
  bool : ctx.bool name = ctx'.bool name
  integer : ctx.integer name = ctx'.integer name
  number : ctx.number name = ctx'.number name
  member : ctx.member name = ctx'.member name
  object : ctx.object name = ctx'.object name
  typeName : ctx.typeName name = ctx'.typeName name

/-- Two contexts give the same answers about what an operand names. -/
def Context.AgreeOn (ctx ctx' : Context) : Operand → Prop
  | .property name => ctx.AgreeAt ctx' name
  | .enum type member => ctx.memberValue type member = ctx'.memberValue type member
  | _ => True

/-- Computations in sequence come to the same when each of them does. -/
theorem Logged.outcome_bind_congr {α β : Type} {x y : Logged Fault α} {f g : α → Logged Fault β}
    (hx : x.outcome = y.outcome) (hf : ∀ a, (f a).outcome = (g a).outcome) :
    (x >>= f).outcome = (y >>= g).outcome := by
  rw [Logged.outcome_bind, Logged.outcome_bind, hx, funext hf]

namespace Operation

variable {ε : Float} {ctx ctx' : Context} {op : BinaryOp} {a b : Operand}

theorem resolveBool_congr (h : ctx.AgreeOn ctx' a) :
    (resolveBool ctx a).outcome = (resolveBool ctx' a).outcome := by
  cases a with
  | property name => simp [resolveBool, h.bool]
  | _ => rfl

theorem resolveNumber_congr (h : ctx.AgreeOn ctx' a) :
    (resolveNumber ctx a).outcome = (resolveNumber ctx' a).outcome := by
  cases a with
  | property name => simp [resolveNumber, h.number]
  | _ => rfl

theorem negation_congr (h : ctx.AgreeOn ctx' a) :
    (negation ctx a b).outcome = (negation ctx' a b).outcome :=
  Logged.outcome_bind_congr (resolveBool_congr h) fun _ => rfl

variable {negate : Bool} {name type member : String}

theorem isNull_congr (h : ctx.AgreeAt ctx' name) :
    (isNull negate name ctx).outcome = (isNull negate name ctx').outcome := by
  simp [isNull, h.typeName, h.object]

theorem standsAt_congr (h : ctx.AgreeAt ctx' name) :
    (standsAt negate name type member ctx).outcome =
      (standsAt negate name type member ctx').outcome := by
  refine Logged.outcome_bind_congr (by simp [h.typeName]) fun answer => ?_
  refine Logged.outcome_bind_congr rfl fun declared => ?_
  by_cases ht : declared = type
  · simp [ht, h.member]
  · simp [ht]

theorem sharesFlag_congr (h : ctx.AgreeAt ctx' name)
    (hm : ctx.memberValue type member = ctx'.memberValue type member) :
    (sharesFlag name type member ctx).outcome = (sharesFlag name type member ctx').outcome := by
  simp [sharesFlag, hm, h.integer]

theorem sameValue_congr {x y : String} (hx : ctx.AgreeAt ctx' x) (hy : ctx.AgreeAt ctx' y) :
    (sameValue ε negate x y ctx).outcome = (sameValue ε negate x y ctx').outcome := by
  rw [outcome_sameValue, outcome_sameValue, valuesEqual?, valuesEqual?, hx.object, hy.object,
    hx.typeName, hy.typeName, hx.member, hy.member, hx.number, hy.number, hx.bool, hy.bool]

/-- A body comes to the same in contexts that agree on its operands. -/
theorem Applies.congr {f : Context → Logged Fault Operand} (hf : Applies ε op a b f)
    (ha : ctx.AgreeOn ctx' a) (hb : ctx.AgreeOn ctx' b) : (f ctx).outcome = (f ctx').outcome := by
  cases hf with
  | bools f hop _ _ =>
    exact Logged.outcome_bind_congr (resolveBool_congr ha) fun _ =>
      Logged.outcome_bind_congr (resolveBool_congr hb) fun _ => rfl
  | comparing f hop _ _ | computing f hop _ _ =>
    exact Logged.outcome_bind_congr (resolveNumber_congr ha) fun _ =>
      Logged.outcome_bind_congr (resolveNumber_congr hb) fun _ => rfl
  | isNull negate name hop => exact isNull_congr ha
  | nullIs negate name hop => exact isNull_congr hb
  | sameValue negate x y hop => exact sameValue_congr ha hb
  | sameMember result hop _ _ => rfl
  | standsAt negate name type member hop => exact standsAt_congr ha
  | memberStands negate name type member hop => exact standsAt_congr hb
  | sharesFlag name type member hop => exact sharesFlag_congr ha hb
  | flagShares name type member hop => exact sharesFlag_congr hb ha

end Operation

/-- Contexts agree on an operand that names nothing. -/
theorem Context.agreeOn_of_kind {ctx ctx' : Context} {a : Operand} (hp : a.kind ≠ .property)
    (he : a.kind ≠ .enum) : ctx.AgreeOn ctx' a := by
  cases a with
  | property _ => exact absurd rfl hp
  | enum _ _ => exact absurd rfl he
  | _ => trivial

theorem BinaryOp.resultKind_ne_enum (op : BinaryOp) : op.resultKind ≠ .enum := by
  cases op <;> decide

namespace Machine

variable {ε : Float} {ctx ctx' : Context} {stack st : List Operand}

theorem negate_congr {a : Operand} (h : ctx.AgreeOn ctx' a) :
    ((Rules.standard ε).negate ctx a).outcome = ((Rules.standard ε).negate ctx' a).outcome := by
  rw [Rules.outcome_negate, Rules.outcome_negate]
  obtain ⟨-, hf⟩ | ⟨-, -, hf⟩ := Rules.applyPrefix_standard ε a
  · rw [hf, hf]
  · rw [hf, hf]
    exact Operation.negation_congr h

theorem combine_congr {op : BinaryOp} {a b : Operand} (ha : ctx.AgreeOn ctx' a)
    (hb : ctx.AgreeOn ctx' b) :
    ((Rules.standard ε).combine ctx op a b).outcome =
      ((Rules.standard ε).combine ctx' op a b).outcome := by
  rw [Rules.outcome_combine, Rules.outcome_combine]
  obtain ⟨-, hf⟩ | ⟨-, f, happ, hf⟩ := Rules.applyBinary_standard ε op a b
  · rw [hf, hf]
  · rw [hf, hf]
    exact happ.congr ha hb

/-- What an operator yields names nothing, so contexts agree on it. -/
theorem negate_agreeOn {a v : Operand} (hv : ((Rules.standard ε).negate ctx a).outcome = .ok v) :
    ctx.AgreeOn ctx' v := by
  have hk := Rules.kind_of_negate hv
  exact Context.agreeOn_of_kind (by rw [hk]; decide) (by rw [hk]; decide)

theorem combine_agreeOn {op : BinaryOp} {a b v : Operand}
    (hv : ((Rules.standard ε).combine ctx op a b).outcome = .ok v) : ctx.AgreeOn ctx' v := by
  have hk := Rules.kind_of_combine hv
  exact Context.agreeOn_of_kind (hk ▸ op.resultKind_ne_property) (hk ▸ op.resultKind_ne_enum)

/-- Contexts that agree on the stack and on a step make the same of it, and agree on what they make.
-/
theorem step_congr (ε : Float) {s : Step} (hstack : ∀ a ∈ stack, ctx.AgreeOn ctx' a)
    (hs : ∀ o, s = .operand o → ctx.AgreeOn ctx' o) :
    (step (.standard ε) ctx stack s).outcome = (step (.standard ε) ctx' stack s).outcome ∧
      ∀ st, (step (.standard ε) ctx stack s).outcome = .ok st →
        ∀ a ∈ st, ctx.AgreeOn ctx' a := by
  constructor
  · cases s with
    | operand o => rfl
    | not =>
      cases stack with
      | nil => rfl
      | cons a rest =>
        obtain ⟨ha, -⟩ := List.forall_mem_cons.mp hstack
        simp only [step, Logged.outcome_map, negate_congr ha]
    | binary op =>
      rcases stack with _ | ⟨b, _ | ⟨a, rest⟩⟩
      · rfl
      · rfl
      · obtain ⟨hb, hrest⟩ := List.forall_mem_cons.mp hstack
        obtain ⟨ha, -⟩ := List.forall_mem_cons.mp hrest
        simp only [step, Logged.outcome_map, combine_congr ha hb]
  · intro st hst
    cases step_eq_ok_iff.mp hst with
    | operand o => exact List.forall_mem_cons.mpr ⟨hs o rfl, hstack⟩
    | not rest hv =>
      obtain ⟨-, hrest⟩ := List.forall_mem_cons.mp hstack
      exact List.forall_mem_cons.mpr ⟨negate_agreeOn hv, hrest⟩
    | binary rest hv =>
      obtain ⟨-, hrest⟩ := List.forall_mem_cons.mp hstack
      obtain ⟨-, hrest⟩ := List.forall_mem_cons.mp hrest
      exact List.forall_mem_cons.mpr ⟨combine_agreeOn hv, hrest⟩

theorem run_congr (ε : Float) {steps : List Step} (hstack : ∀ a ∈ stack, ctx.AgreeOn ctx' a)
    (hsteps : ∀ o, Step.operand o ∈ steps → ctx.AgreeOn ctx' o) :
    (run (.standard ε) ctx stack steps).outcome = (run (.standard ε) ctx' stack steps).outcome ∧
      ∀ st, (run (.standard ε) ctx stack steps).outcome = .ok st →
        ∀ a ∈ st, ctx.AgreeOn ctx' a := by
  induction steps generalizing stack with
  | nil =>
    refine ⟨rfl, fun st hst => ?_⟩
    obtain rfl : stack = st := by simpa [run] using hst
    exact hstack
  | cons s rest ih =>
    obtain ⟨heq, hnext⟩ := step_congr ε hstack fun o ho => hsteps o (ho ▸ List.mem_cons_self)
    simp only [run, Logged.outcome_bind, ← heq]
    cases hs : (step (.standard ε) ctx stack s).outcome with
    | error e => exact ⟨rfl, fun st hst => by cases hst⟩
    | ok next => exact ih (hnext next hs) fun o ho => hsteps o (List.mem_cons_of_mem s ho)

theorem verdict_congr {a : Operand} (h : ctx.AgreeOn ctx' a) :
    (verdict ctx a).outcome = (verdict ctx' a).outcome := by
  cases a with
  | property name =>
    refine Logged.outcome_bind_congr (by simp [h.bool]) fun answer => ?_
    split
    · rfl
    · exact Logged.outcome_bind_congr (by simp [h.typeName]) fun _ => rfl
  | _ => rfl

end Machine

/-- A condition comes to the same, truth value or fault, in contexts that agree on its operands. -/
theorem evaluate_congr {ε : Float} {ctx ctx' : Context} {c : Condition}
    (h : ∀ o, Step.operand o ∈ c.steps.map (·.item) → ctx.AgreeOn ctx' o) :
    (evaluate (.standard ε) ctx c).outcome = (evaluate (.standard ε) ctx' c).outcome := by
  have hempty : ∀ a ∈ ([] : List Operand), ctx.AgreeOn ctx' a := nofun
  obtain ⟨heq, hst⟩ := Machine.run_congr ε hempty h
  unfold evaluate
  rw [Logged.outcome_bind, Logged.outcome_bind, ← heq]
  cases hrun : (Machine.run (.standard ε) ctx [] (c.steps.map (·.item))).outcome with
  | error e => rfl
  | ok st =>
    match st, hrun with
    | [a], hrun =>
      have ha := hst [a] hrun a List.mem_cons_self
      exact Logged.outcome_bind_congr (Machine.verdict_congr ha) fun _ => rfl
    | [], _ => rfl
    | _ :: _ :: _, _ => rfl

/-- Contexts that agree on the names and on the enum members that a condition mentions agree on its
operands. -/
theorem Context.agreeOn_of_names {ctx ctx' : Context} {c : Condition}
    (hnames : ∀ n ∈ c.names, ctx.AgreeAt ctx' n)
    (hmembers : ∀ type member, Step.operand (.enum type member) ∈ c.steps.map (·.item) →
      ctx.memberValue type member = ctx'.memberValue type member)
    (o : Operand) (ho : Step.operand o ∈ c.steps.map (·.item)) : ctx.AgreeOn ctx' o := by
  cases o with
  | property n => exact hnames n (Condition.mem_names_iff.mpr ho)
  | enum type member => exact hmembers type member ho
  | _ => trivial

/-- A condition asks only about what it mentions. Contexts that answer alike about its names, and
give its enum members the same integers, make the same truth value or the same fault of it, whatever
they answer about other names and members, and whatever they are called. -/
theorem outcome_rests_on_mentions (ε : Float) (c : Condition) (ctx ctx' : Context)
    (hnames : ∀ n ∈ c.names, ctx.AgreeAt ctx' n)
    (hmembers : ∀ type member, Step.operand (.enum type member) ∈ c.steps.map (·.item) →
      ctx.memberValue type member = ctx'.memberValue type member) :
    (evaluate (.standard ε) ctx c).outcome = (evaluate (.standard ε) ctx' c).outcome :=
  evaluate_congr (Context.agreeOn_of_names hnames hmembers)

/-- Two contexts that share nothing but the flags `F` and the member `E::A`. -/
theorem outcome_rests_on_mentioned_flag :
    let host (name : String) (other : Option Int64) (type : String) : Context :=
      { name := name
        bool := fun n => if n = "F" then none else some (n == name)
        integer := fun n => if n = "F" then some 6 else other
        number := fun n => if n = "F" then some 6 else none
        member := fun n => if n = "F" then none else some type
        object := fun n => if n = "F" then none else some .null
        typeName := fun n => if n = "F" then some "int32" else some type
        memberValue := fun t m => if t = "E" ∧ m = "A" then some 2 else other
        remarks := fun _ _ => [] }
    let c : Condition :=
      ⟨"F & E::A", [⟨.operand (.property "F"), 0⟩, ⟨.operand (.enum "E" "A"), 4⟩,
        ⟨.binary .bitAnd, 2⟩]⟩
    (∀ n ∈ c.names, (host "S" none "T").AgreeAt (host "R" (some 1) "U") n) ∧
    (∀ type member, Step.operand (.enum type member) ∈ c.steps.map (·.item) →
      (host "S" none "T").memberValue type member =
        (host "R" (some 1) "U").memberValue type member) ∧
    (evaluate (.standard Rules.defaultEpsilon) (host "S" none "T") c).outcome =
      (evaluate (.standard Rules.defaultEpsilon) (host "R" (some 1) "U") c).outcome := by
  intro host c
  have hnames : ∀ n ∈ c.names, (host "S" none "T").AgreeAt (host "R" (some 1) "U") n := by
    intro n hn
    obtain rfl : n = "F" := List.mem_singleton.mp hn
    exact ⟨rfl, rfl, rfl, rfl, rfl, rfl⟩
  have hmembers : ∀ type member, Step.operand (.enum type member) ∈ c.steps.map (·.item) →
      (host "S" none "T").memberValue type member =
        (host "R" (some 1) "U").memberValue type member := by
    intro type member h
    obtain ⟨rfl, rfl⟩ : type = "E" ∧ member = "A" := by simpa [c] using h
    rfl
  exact ⟨hnames, hmembers, outcome_rests_on_mentions _ c _ _ hnames hmembers⟩

end FieldGuard
