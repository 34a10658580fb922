import FieldGuard.Proofs.Evaluation.Answers
import FieldGuard.Proofs.Evaluation.Kinds

/-! Contexts that answer more. With the built-in rules a truth value survives when answers are
added, as long as no field answers as two kinds of value: the equality of two fields prefers some
kinds to others, and an added answer of a preferred kind would take over. -/
namespace FieldGuard

/-- Whatever the first context answers about some fields, the second answers as well. -/
structure Context.Refines (names : List String) (ctx ctx' : Context) : Prop where
  bool : ∀ n ∈ names, ∀ v, ctx.bool n = some v → ctx'.bool n = some v
  integer : ∀ n ∈ names, ∀ v, ctx.integer n = some v → ctx'.integer n = some v
  number : ∀ n ∈ names, ∀ v, ctx.number n = some v → ctx'.number n = some v
  member : ∀ n ∈ names, ∀ v, ctx.member n = some v → ctx'.member n = some v
  object : ∀ n ∈ names, ∀ v, ctx.object n = some v → ctx'.object n = some v
  typeName : ∀ n ∈ names, ∀ v, ctx.typeName n = some v → ctx'.typeName n = some v
  memberValue : ∀ t m v, ctx.memberValue t m = some v → ctx'.memberValue t m = some v

/-- Every field has one getter, of those that equality asks, that may answer. -/
structure Context.Sorted (ctx : Context) (getter : String → Getter) : Prop where
  bool : ∀ n v, ctx.bool n = some v → getter n = .bool
  number : ∀ n v, ctx.number n = some v → getter n = .number
  member : ∀ n v, ctx.member n = some v → getter n = .member
  object : ∀ n v, ctx.object n = some v → getter n = .object

/-- An operand that is no property, or one of some names. -/
def Operand.Within (names : List String) (a : Operand) : Prop :=
  ∀ n, a = .property n → n ∈ names

theorem Operand.within_of_kind {names : List String} {a : Operand} (h : a.kind ≠ .property) :
    a.Within names := by
  rintro n rfl
  exact absurd rfl h

namespace Operation

variable {ε : Float} {names : List String} {ctx ctx' : Context} {getter : String → Getter}
variable {op : BinaryOp} {a b v : Operand}

/-- Two fields that answer to one getter do not both answer to another. -/
theorem both_eq_none {α β γ δ : Type} {f : α → α → β} {g : γ → γ → δ} {p : String → Option α}
    {q : String → Option γ} {P Q : Getter} {x y : String} {r : β}
    (hp : ∀ n v, p n = some v → getter n = P) (hq : ∀ n v, q n = some v → getter n = Q)
    (hne : P ≠ Q) (h : both f (p x) (p y) = some r) : both g (q x) (q y) = none := by
  obtain ⟨u, hu, -⟩ := both_eq_some_iff.mp h
  cases hx : q x with
  | none => rfl
  | some w => exact absurd ((hp x u hu).symm.trans (hq x w hx)) hne

theorem both_mono {α β : Type} {f : α → α → β} {p q : String → Option α} {x y : String} {r : β}
    (hpq : ∀ n ∈ names, ∀ v, p n = some v → q n = some v) (hx : x ∈ names) (hy : y ∈ names)
    (h : both f (p x) (p y) = some r) : both f (q x) (q y) = some r := by
  obtain ⟨u, hu, w, hw, hr⟩ := both_eq_some_iff.mp h
  exact both_eq_some_iff.mpr ⟨u, hpq x hx u hu, w, hpq y hy w hw, hr⟩

theorem resolveBool_mono {x : Bool} (h : ctx.Refines names ctx') (ha : a.Within names)
    (hx : (resolveBool ctx a).outcome = .ok x) : (resolveBool ctx' a).outcome = .ok x := by
  obtain rfl | ⟨n, rfl, hn⟩ := resolveBool_eq_ok_iff.mp hx
  · exact hx
  · exact resolveBool_eq_ok_iff.mpr (.inr ⟨n, rfl, h.bool n (ha n rfl) x hn⟩)

theorem resolveNumber_mono {x : Float} (h : ctx.Refines names ctx') (ha : a.Within names)
    (hx : (resolveNumber ctx a).outcome = .ok x) : (resolveNumber ctx' a).outcome = .ok x := by
  obtain rfl | ⟨n, rfl, hn⟩ := resolveNumber_eq_ok_iff.mp hx
  · exact resolveNumber_eq_ok_iff.mpr (.inl rfl)
  · exact resolveNumber_eq_ok_iff.mpr (.inr ⟨n, rfl, h.number n (ha n rfl) x hn⟩)

theorem negation_mono (h : ctx.Refines names ctx') (ha : a.Within names)
    (hv : (negation ctx a b).outcome = .ok v) : (negation ctx' a b).outcome = .ok v := by
  obtain ⟨x, hx, hr⟩ := negation_eq_ok_iff.mp hv
  exact negation_eq_ok_iff.mpr ⟨x, resolveBool_mono h ha hx, hr⟩

theorem isNull_mono {negate : Bool} {name : String} (h : ctx.Refines names ctx')
    (hn : name ∈ names) (hv : (isNull negate name ctx).outcome = .ok v) :
    (isNull negate name ctx').outcome = .ok v := by
  obtain ⟨⟨type, ht⟩, ref, hr, hb⟩ := isNull_eq_ok_iff.mp hv
  exact isNull_eq_ok_iff.mpr ⟨⟨type, h.typeName name hn type ht⟩, ref, h.object name hn ref hr, hb⟩

theorem standsAt_mono {negate : Bool} {name type member : String} (h : ctx.Refines names ctx')
    (hn : name ∈ names) (hv : (standsAt negate name type member ctx).outcome = .ok v) :
    (standsAt negate name type member ctx').outcome = .ok v := by
  obtain ⟨ht, current, hc, hb⟩ := standsAt_eq_ok_iff.mp hv
  exact standsAt_eq_ok_iff.mpr
    ⟨h.typeName name hn type ht, current, h.member name hn current hc, hb⟩

theorem sharesFlag_mono {name type member : String} (h : ctx.Refines names ctx')
    (hn : name ∈ names) (hv : (sharesFlag name type member ctx).outcome = .ok v) :
    (sharesFlag name type member ctx').outcome = .ok v := by
  obtain ⟨flag, hf, current, hc, hb⟩ := sharesFlag_eq_ok_iff.mp hv
  exact sharesFlag_eq_ok_iff.mpr
    ⟨flag, h.memberValue type member flag hf, current, h.integer name hn current hc, hb⟩

/-- Of the comparisons of two fields, the one that decided before decides after. -/
theorem valuesEqual?_mono {x y : String} {equal : Bool} (h : ctx.Refines names ctx')
    (hs : ctx'.Sorted getter) (hx : x ∈ names) (hy : y ∈ names)
    (he : valuesEqual? ε ctx x y = some equal) : valuesEqual? ε ctx' x y = some equal := by
  rw [valuesEqual?_eq_some_iff] at he ⊢
  obtain hm | ⟨-, hn | ⟨-, hb⟩⟩ := he
  · exact .inl (both_mono h.member hx hy hm)
  · have hn' := both_mono h.number hx hy hn
    exact .inr ⟨both_eq_none hs.number hs.member (by decide) hn', .inl hn'⟩
  · have hb' := both_mono h.bool hx hy hb
    exact .inr ⟨both_eq_none hs.bool hs.member (by decide) hb',
      .inr ⟨both_eq_none hs.bool hs.number (by decide) hb', hb'⟩⟩

/-- Fields that are equal as values are not both object references. -/
theorem objects_eq_none {x y : String} {equal : Bool} (hs : ctx.Sorted getter)
    (he : valuesEqual? ε ctx x y = some equal) :
    both (fun p q => decide (p = q)) (ctx.object x) (ctx.object y) = none := by
  rw [valuesEqual?_eq_some_iff] at he
  obtain hm | ⟨-, hn | ⟨-, hb⟩⟩ := he
  · exact both_eq_none hs.member hs.object (by decide) hm
  · exact both_eq_none hs.number hs.object (by decide) hn
  · exact both_eq_none hs.bool hs.object (by decide) hb

theorem sameValue_mono {negate : Bool} {x y : String} (h : ctx.Refines names ctx')
    (hs : ctx'.Sorted getter) (hx : x ∈ names) (hy : y ∈ names)
    (hv : (sameValue ε negate x y ctx).outcome = .ok v) :
    (sameValue ε negate x y ctx').outcome = .ok v := by
  obtain ⟨equal, hr, ho | ⟨-, ⟨type, htx, hty⟩, he⟩⟩ := sameValue_eq_ok_iff.mp hv
  · exact sameValue_eq_ok_iff.mpr ⟨equal, hr, .inl (both_mono h.object hx hy ho)⟩
  · have he' := valuesEqual?_mono h hs hx hy he
    refine sameValue_eq_ok_iff.mpr ⟨equal, hr, .inr ⟨objects_eq_none hs he', ?_, he'⟩⟩
    exact ⟨type, h.typeName x hx type htx, h.typeName y hy type hty⟩

/-- A body that has a result in a context has the same in one that answers more. -/
theorem Applies.mono {f : Context → Logged Fault Operand} (hf : Applies ε op a b f)
    (h : ctx.Refines names ctx') (hs : ctx'.Sorted getter) (ha : a.Within names)
    (hb : b.Within names) (hv : (f ctx).outcome = .ok v) : (f ctx').outcome = .ok v := by
  cases hf with
  | bools f hop _ _ =>
    obtain ⟨x, hx, y, hy, hr⟩ := onBools_eq_ok_iff.mp hv
    exact onBools_eq_ok_iff.mpr ⟨x, resolveBool_mono h ha hx, y, resolveBool_mono h hb hy, hr⟩
  | comparing f hop _ _ =>
    obtain ⟨x, hx, y, hy, hr⟩ := comparing_eq_ok_iff.mp hv
    exact comparing_eq_ok_iff.mpr ⟨x, resolveNumber_mono h ha hx, y, resolveNumber_mono h hb hy, hr⟩
  | computing f hop _ _ =>
    obtain ⟨x, hx, y, hy, hr⟩ := computing_eq_ok_iff.mp hv
    exact computing_eq_ok_iff.mpr ⟨x, resolveNumber_mono h ha hx, y, resolveNumber_mono h hb hy, hr⟩
  | isNull negate name hop => exact isNull_mono h (ha name rfl) hv
  | nullIs negate name hop => exact isNull_mono h (hb name rfl) hv
  | sameValue negate x y hop => exact sameValue_mono h hs (ha x rfl) (hb y rfl) hv
  | sameMember result hop _ _ => exact hv
  | standsAt negate name type member hop => exact standsAt_mono h (ha name rfl) hv
  | memberStands negate name type member hop => exact standsAt_mono h (hb name rfl) hv
  | sharesFlag name type member hop => exact sharesFlag_mono h (ha name rfl) hv
  | flagShares name type member hop => exact sharesFlag_mono h (hb name rfl) hv

end Operation

namespace Machine

variable {ε : Float} {names : List String} {ctx ctx' : Context} {getter : String → Getter}
variable {stack st : List Operand}

/-- The properties on the stack stay among the names: what an operator yields is no property. -/
theorem within_step {s : Step} (hstack : ∀ a ∈ stack, a.Within names)
    (hs : ∀ o, s = .operand o → o.Within names)
    (hv : (step (.standard ε) ctx stack s).outcome = .ok st) : ∀ a ∈ st, a.Within names := by
  cases step_eq_ok_iff.mp hv with
  | operand o => exact List.forall_mem_cons.mpr ⟨hs o rfl, hstack⟩
  | not rest hn =>
    obtain ⟨-, hrest⟩ := List.forall_mem_cons.mp hstack
    have hkind := Rules.kind_of_negate hn
    exact List.forall_mem_cons.mpr ⟨Operand.within_of_kind (by rw [hkind]; decide), hrest⟩
  | @binary op _ _ _ rest hc =>
    obtain ⟨-, hrest⟩ := List.forall_mem_cons.mp hstack
    obtain ⟨-, hrest⟩ := List.forall_mem_cons.mp hrest
    have hkind := Rules.kind_of_combine hc
    exact List.forall_mem_cons.mpr
      ⟨Operand.within_of_kind (hkind ▸ op.resultKind_ne_property), hrest⟩

theorem within_run {steps : List Step} (hstack : ∀ a ∈ stack, a.Within names)
    (hsteps : ∀ o, Step.operand o ∈ steps → o.Within names)
    (hv : (run (.standard ε) ctx stack steps).outcome = .ok st) : ∀ a ∈ st, a.Within names := by
  induction steps generalizing stack with
  | nil =>
    obtain rfl : stack = st := by simpa [run] using hv
    exact hstack
  | cons s rest ih =>
    obtain ⟨next, hnext, hrest⟩ := Logged.bind_eq_ok_iff.mp hv
    have hwithin := within_step hstack (fun o ho => hsteps o (ho ▸ List.mem_cons_self)) hnext
    exact ih hwithin (fun o ho => hsteps o (List.mem_cons_of_mem s ho)) hrest

theorem negate_mono {a v : Operand} (h : ctx.Refines names ctx') (ha : a.Within names)
    (hv : ((Rules.standard ε).negate ctx a).outcome = .ok v) :
    ((Rules.standard ε).negate ctx' a).outcome = .ok v := by
  obtain ⟨-, hf⟩ := Rules.body_of_negate hv
  rw [hf] at hv ⊢
  exact Operation.negation_mono h ha hv

theorem combine_mono {op : BinaryOp} {a b v : Operand} (h : ctx.Refines names ctx')
    (hs : ctx'.Sorted getter) (ha : a.Within names) (hb : b.Within names)
    (hv : ((Rules.standard ε).combine ctx op a b).outcome = .ok v) :
    ((Rules.standard ε).combine ctx' op a b).outcome = .ok v := by
  obtain ⟨f, happ, hf⟩ := Rules.body_of_combine hv
  rw [hf] at hv ⊢
  exact happ.mono h hs ha hb hv

/-- A step that comes through does the same where the context answers more. -/
theorem step_mono {s : Step} (h : ctx.Refines names ctx') (hs : ctx'.Sorted getter)
    (hstack : ∀ a ∈ stack, a.Within names)
    (hv : (step (.standard ε) ctx stack s).outcome = .ok st) :
    (step (.standard ε) ctx' stack s).outcome = .ok st := by
  cases step_eq_ok_iff.mp hv with
  | operand o => rfl
  | not rest hn =>
    have ha := hstack _ List.mem_cons_self
    exact step_eq_ok_iff.mpr (.not rest (negate_mono h ha hn))
  | binary rest hc =>
    obtain ⟨hb, hrest⟩ := List.forall_mem_cons.mp hstack
    have ha := hrest _ List.mem_cons_self
    exact step_eq_ok_iff.mpr (.binary rest (combine_mono h hs ha hb hc))

theorem run_mono {steps : List Step} (h : ctx.Refines names ctx') (hs : ctx'.Sorted getter)
    (hstack : ∀ a ∈ stack, a.Within names)
    (hsteps : ∀ o, Step.operand o ∈ steps → o.Within names)
    (hv : (run (.standard ε) ctx stack steps).outcome = .ok st) :
    (run (.standard ε) ctx' stack steps).outcome = .ok st := by
  induction steps generalizing stack with
  | nil => exact hv
  | cons s rest ih =>
    obtain ⟨next, hnext, hrest⟩ := Logged.bind_eq_ok_iff.mp hv
    have hwithin := within_step hstack (fun o ho => hsteps o (ho ▸ List.mem_cons_self)) hnext
    have hrest' := ih hwithin (fun o ho => hsteps o (List.mem_cons_of_mem s ho)) hrest
    exact Logged.bind_eq_ok_iff.mpr ⟨next, step_mono h hs hstack hnext, hrest'⟩

end Machine

theorem Condition.within_names (c : Condition) (o : Operand)
    (h : Step.operand o ∈ c.steps.map (·.item)) : o.Within c.names := by
  rintro n rfl
  exact mem_names_iff.mpr h

/-- A truth value under the built-in rules stays where the context answers more about the fields
that the condition mentions, each as one kind of value. -/
theorem evaluate_mono {ε : Float} {ctx ctx' : Context} {getter : String → Getter} {c : Condition}
    {b : Bool} (h : ctx.Refines c.names ctx') (hs : ctx'.Sorted getter)
    (hb : (evaluate (.standard ε) ctx c).outcome = .ok b) :
    (evaluate (.standard ε) ctx' c).outcome = .ok b := by
  obtain ⟨a, hrun, hverdict⟩ := evaluate_eq_ok_iff.mp hb
  have hrun' := Machine.run_mono h hs (by simp) c.within_names hrun
  have ha := Machine.within_run (by simp) c.within_names hrun a List.mem_cons_self
  refine evaluate_eq_ok_iff.mpr ⟨a, hrun', Machine.verdict_eq_ok_iff.mpr ?_⟩
  obtain rfl | ⟨n, rfl, hn⟩ := Machine.verdict_eq_ok_iff.mp hverdict
  · exact .inl rfl
  · exact .inr ⟨n, rfl, h.bool n (ha n rfl) b hn⟩

end FieldGuard
