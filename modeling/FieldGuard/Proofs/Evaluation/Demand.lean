import FieldGuard.Proofs.Evaluation.Answers
import FieldGuard.Proofs.Evaluation.Applications

/-! What a truth value demands. No operation of the built-in rules comes to a result past a property
without a value, so such a property stays on the stack of the machine to its end, where the verdict
faults; nothing is decided by a part of a condition alone. -/
namespace FieldGuard

/-- No getter has a value for a name. -/
structure Context.Unset (ctx : Context) (name : String) : Prop where
  bool : ctx.bool name = none
  integer : ctx.integer name = none
  number : ctx.number name = none
  member : ctx.member name = none
  object : ctx.object name = none

namespace Operation

variable {ε : Float} {ctx : Context} {name : String} {op : BinaryOp} {a b v : Operand}

theorem ne_property_of_resolveBool {x : Bool} (hu : ctx.Unset name)
    (h : (resolveBool ctx a).outcome = .ok x) : a ≠ .property name := by
  rintro rfl
  obtain hb | ⟨n, hn, hx⟩ := resolveBool_eq_ok_iff.mp h
  · cases hb
  · cases hn
    rw [hu.bool] at hx
    cases hx

theorem ne_property_of_resolveNumber {x : Float} (hu : ctx.Unset name)
    (h : (resolveNumber ctx a).outcome = .ok x) : a ≠ .property name := by
  rintro rfl
  obtain hb | ⟨n, hn, hx⟩ := resolveNumber_eq_ok_iff.mp h
  · cases hb
  · cases hn
    rw [hu.number] at hx
    cases hx

theorem ne_of_isNull {negate : Bool} {x : String} (hu : ctx.Unset name)
    (h : (isNull negate x ctx).outcome = .ok v) : x ≠ name := by
  rintro rfl
  obtain ⟨-, ref, href, -⟩ := isNull_eq_ok_iff.mp h
  rw [hu.object] at href
  cases href

theorem ne_of_standsAt {negate : Bool} {x type member : String} (hu : ctx.Unset name)
    (h : (standsAt negate x type member ctx).outcome = .ok v) : x ≠ name := by
  rintro rfl
  obtain ⟨-, current, hc, -⟩ := standsAt_eq_ok_iff.mp h
  rw [hu.member] at hc
  cases hc

theorem ne_of_sharesFlag {x type member : String} (hu : ctx.Unset name)
    (h : (sharesFlag x type member ctx).outcome = .ok v) : x ≠ name := by
  rintro rfl
  obtain ⟨flag, -, current, hc, -⟩ := sharesFlag_eq_ok_iff.mp h
  rw [hu.integer] at hc
  cases hc

/-- A comparison of two fields by one getter needs a value of each. -/
theorem ne_of_both {α β : Type} {f : α → α → β} {get : String → Option α} {x y : String} {r : β}
    (hu : get name = none) (h : both f (get x) (get y) = some r) : x ≠ name ∧ y ≠ name := by
  obtain ⟨p, hp, q, hq, -⟩ := both_eq_some_iff.mp h
  constructor
  · rintro rfl
    rw [hu] at hp
    cases hp
  · rintro rfl
    rw [hu] at hq
    cases hq

theorem ne_of_sameValue {negate : Bool} {x y : String} (hu : ctx.Unset name)
    (h : (sameValue ε negate x y ctx).outcome = .ok v) : x ≠ name ∧ y ≠ name := by
  obtain ⟨equal, -, ho | ⟨-, -, he⟩⟩ := sameValue_eq_ok_iff.mp h
  · exact ne_of_both hu.object ho
  · obtain hm | ⟨-, hn | ⟨-, hb⟩⟩ := valuesEqual?_eq_some_iff.mp he
    · exact ne_of_both hu.member hm
    · exact ne_of_both hu.number hn
    · exact ne_of_both hu.bool hb

theorem property_ne_of_ne {x : String} (h : x ≠ name) : Operand.property x ≠ .property name := by
  rintro ⟨⟩
  exact h rfl

/-- A body that comes to a result had no property without a value on either side. -/
theorem Applies.ne_property {f : Context → Logged Fault Operand} (hf : Applies ε op a b f)
    (hu : ctx.Unset name) (hv : (f ctx).outcome = .ok v) :
    a ≠ .property name ∧ b ≠ .property name := by
  cases hf with
  | bools f hop _ _ =>
    obtain ⟨x, hx, y, hy, -⟩ := onBools_eq_ok_iff.mp hv
    exact ⟨ne_property_of_resolveBool hu hx, ne_property_of_resolveBool hu hy⟩
  | comparing f hop _ _ =>
    obtain ⟨x, hx, y, hy, -⟩ := comparing_eq_ok_iff.mp hv
    exact ⟨ne_property_of_resolveNumber hu hx, ne_property_of_resolveNumber hu hy⟩
  | computing f hop _ _ =>
    obtain ⟨x, hx, y, hy, -⟩ := computing_eq_ok_iff.mp hv
    exact ⟨ne_property_of_resolveNumber hu hx, ne_property_of_resolveNumber hu hy⟩
  | isNull negate x hop => exact ⟨property_ne_of_ne (ne_of_isNull hu hv), nofun⟩
  | nullIs negate x hop => exact ⟨nofun, property_ne_of_ne (ne_of_isNull hu hv)⟩
  | sameValue negate x y hop =>
    obtain ⟨hx, hy⟩ := ne_of_sameValue hu hv
    exact ⟨property_ne_of_ne hx, property_ne_of_ne hy⟩
  | sameMember result hop ha hb =>
    constructor
    · rintro rfl
      cases ha
    · rintro rfl
      cases hb
  | standsAt negate x type member hop => exact ⟨property_ne_of_ne (ne_of_standsAt hu hv), nofun⟩
  | memberStands negate x type member hop =>
    exact ⟨nofun, property_ne_of_ne (ne_of_standsAt hu hv)⟩
  | sharesFlag x type member hop => exact ⟨property_ne_of_ne (ne_of_sharesFlag hu hv), nofun⟩
  | flagShares x type member hop => exact ⟨nofun, property_ne_of_ne (ne_of_sharesFlag hu hv)⟩

end Operation

namespace Machine

variable {ε : Float} {ctx : Context} {name : String} {op : BinaryOp} {a b v : Operand}
variable {stack st : List Operand}

theorem ne_property_of_negate (hu : ctx.Unset name)
    (hv : ((Rules.standard ε).negate ctx a).outcome = .ok v) : a ≠ .property name := by
  obtain ⟨-, hf⟩ := Rules.body_of_negate hv
  rw [hf] at hv
  obtain ⟨x, hx, -⟩ := Operation.negation_eq_ok_iff.mp hv
  exact Operation.ne_property_of_resolveBool hu hx

theorem ne_property_of_combine (hu : ctx.Unset name)
    (hv : ((Rules.standard ε).combine ctx op a b).outcome = .ok v) :
    a ≠ .property name ∧ b ≠ .property name := by
  obtain ⟨f, happ, hf⟩ := Rules.body_of_combine hv
  rw [hf] at hv
  exact happ.ne_property hu hv

/-- A step that comes through leaves a property without a value on the stack. -/
theorem unset_mem_of_step {s : Step} (hu : ctx.Unset name)
    (hv : (step (.standard ε) ctx stack s).outcome = .ok st)
    (hn : .property name ∈ stack ∨ s = .operand (.property name)) : .property name ∈ st := by
  cases step_eq_ok_iff.mp hv with
  | operand o =>
    obtain hn | hn := hn
    · exact List.mem_cons_of_mem o hn
    · obtain rfl : o = .property name := by simpa using hn
      exact List.mem_cons_self
  | not rest hr =>
    have ha := ne_property_of_negate hu hr
    obtain hn | hn := hn
    · exact List.mem_cons_of_mem _ (List.mem_of_ne_of_mem ha.symm hn)
    · cases hn
  | binary rest hr =>
    obtain ⟨ha, hb⟩ := ne_property_of_combine hu hr
    obtain hn | hn := hn
    · have hrest := List.mem_of_ne_of_mem ha.symm (List.mem_of_ne_of_mem hb.symm hn)
      exact List.mem_cons_of_mem _ hrest
    · cases hn

/-- So does a run, wherever the property comes in. -/
theorem unset_mem_of_run {steps : List Step} (hu : ctx.Unset name)
    (hv : (run (.standard ε) ctx stack steps).outcome = .ok st)
    (hn : .property name ∈ stack ∨ .operand (.property name) ∈ steps) : .property name ∈ st := by
  induction steps generalizing stack with
  | nil =>
    obtain rfl : stack = st := by simpa [run] using hv
    exact hn.resolve_right List.not_mem_nil
  | cons s rest ih =>
    obtain ⟨next, hnext, hrest⟩ := Logged.bind_eq_ok_iff.mp hv
    refine ih hrest ?_
    obtain hn | hn := hn
    · exact .inl (unset_mem_of_step hu hnext (.inl hn))
    · obtain hs | hn := List.mem_cons.mp hn
      · exact .inl (unset_mem_of_step hu hnext (.inr hs.symm))
      · exact .inr hn

end Machine

theorem not_unset_of_evaluate {c : Condition} {ε : Float} {ctx : Context} {b : Bool} {name : String}
    (hb : (evaluate (.standard ε) ctx c).outcome = .ok b) (hn : name ∈ c.names) :
    ¬ ctx.Unset name := by
  intro hu
  obtain ⟨a, hrun, hverdict⟩ := evaluate_eq_ok_iff.mp hb
  have ha := Machine.unset_mem_of_run hu hrun (.inr (Condition.mem_names_iff.mp hn))
  obtain rfl : .property name = a := List.mem_singleton.mp ha
  obtain hbool | ⟨n, hname, hbool⟩ := Machine.verdict_eq_ok_iff.mp hverdict
  · cases hbool
  · cases hname
    rw [hu.bool] at hbool
    cases hbool

/-- There are no partial results. A condition that mentions a property without a value is a fault,
wherever it mentions it; so a truth value means that every property has a value. -/
theorem truth_demands_every_property (c : Condition) (ε : Float) (ctx : Context) :
    (∀ n ∈ c.names, ctx.Unset n → ∃ e, (evaluate (.standard ε) ctx c).outcome = .error e) ∧
    ∀ b, (evaluate (.standard ε) ctx c).outcome = .ok b → ∀ n ∈ c.names, ¬ ctx.Unset n := by
  refine ⟨fun n hn hu => ?_, fun b hb n hn => not_unset_of_evaluate hb hn⟩
  cases h : (evaluate (.standard ε) ctx c).outcome with
  | error e => exact ⟨e, rfl⟩
  | ok b => exact absurd hu (not_unset_of_evaluate h hn)

/-- A field `A` with a value and a field `X` without one, on the right of a decided `true||`. -/
theorem decided_side_demands_the_other :
    let ctx : Context :=
      { name := "S"
        bool := fun n => if n = "A" then some true else none
        integer := fun _ => none
        number := fun _ => none
        member := fun _ => none
        object := fun _ => none
        typeName := fun _ => some "bool"
        memberValue := fun _ _ => none
        remarks := fun _ _ => [] }
    let either (n : String) : Condition :=
      ⟨"true||" ++ n,
        [⟨.operand (.bool true), 0⟩, ⟨.operand (.property n), 6⟩, ⟨.binary .or, 4⟩]⟩
    (ctx.Unset "X" ∧ ∃ e, (evaluate (.standard Rules.defaultEpsilon) ctx (either "X")).outcome =
      .error e) ∧
    (evaluate (.standard Rules.defaultEpsilon) ctx (either "A")).outcome = .ok true ∧
      ∀ n ∈ (either "A").names, ¬ ctx.Unset n := by
  intro ctx either
  have hu : ctx.Unset "X" := ⟨rfl, rfl, rfl, rfl, rfl⟩
  have hb : (evaluate (.standard Rules.defaultEpsilon) ctx (either "A")).outcome = .ok true := rfl
  exact ⟨⟨hu, (truth_demands_every_property (either "X") _ ctx).1 "X" List.mem_cons_self hu⟩, hb,
    (truth_demands_every_property (either "A") _ ctx).2 true hb⟩

end FieldGuard
