import FieldGuard.Condition.Evaluation

/-! Host entries add to the rules and take nothing away. An entry for a key without an operation
comes into play only where the rules without it stop at that very key; so a condition that does not
stop there is evaluated alike with the entry and without it, down to the log. -/
namespace FieldGuard

/-- The fault of rules without an operation for a key. -/
def Key.unsupported (k : Key) : Fault := .unsupported k.operator k.left k.right

namespace Logged

variable {ε α β : Type} {e : ε} {x y : Logged ε α}

/-- The second computation is the first, unless the first one stops at a failure. -/
def SameUnless (e : ε) (x y : Logged ε α) : Prop := x.outcome = .error e ∨ y = x

theorem SameUnless.refl (e : ε) (x : Logged ε α) : SameUnless e x x := .inr rfl

theorem SameUnless.bind {f g : α → Logged ε β} (hx : SameUnless e x y)
    (hf : ∀ a, x.outcome = .ok a → SameUnless e (f a) (g a)) :
    SameUnless e (x >>= f) (y >>= g) := by
  obtain hx | rfl := hx
  · exact .inl (by rw [outcome_bind, hx]; rfl)
  · obtain ⟨notes, outcome⟩ := y
    cases outcome with
    | error _ => exact .refl e _
    | ok a =>
      obtain h | h := hf a rfl
      · exact .inl h
      · exact .inr (by simp only [Bind.bind, h])

theorem SameUnless.map {f : α → β} (hx : SameUnless e x y) : SameUnless e (f <$> x) (f <$> y) := by
  obtain hx | rfl := hx
  · exact .inl (by rw [outcome_map, hx]; rfl)
  · exact .refl e _

end Logged

section Registered

variable {rules : Rules} {k : Key} {f : Operation} {ctx : Context}

namespace Rules

theorem find?_register_of_ne {k' : Key} (h : k' ≠ k) :
    (rules.register k f).find? k' = rules.find? k' := by
  rw [find?_register, if_neg h]

theorem applyPrefix_register (fresh : rules.find? k = none) (s : Symbol) (a : Operand) :
    (rules.applyPrefix ctx s a).SameUnless k.unsupported
      ((rules.register k f).applyPrefix ctx s a) := by
  by_cases h : ⟨s, a.kind, none⟩ = k
  · subst h
    exact .inl (by simp only [applyPrefix, fresh]; rfl)
  · exact .inr (by simp only [applyPrefix, find?_register_of_ne h])

theorem applyBinary_register (fresh : rules.find? k = none) (s : Symbol) (a b : Operand) :
    (rules.applyBinary ctx s a b).SameUnless k.unsupported
      ((rules.register k f).applyBinary ctx s a b) := by
  by_cases h : ⟨s, a.kind, some b.kind⟩ = k
  · subst h
    exact .inl (by simp only [applyBinary, fresh]; rfl)
  · exact .inr (by simp only [applyBinary, find?_register_of_ne h])

theorem negate_register (fresh : rules.find? k = none) (a : Operand) :
    (rules.negate ctx a).SameUnless k.unsupported ((rules.register k f).negate ctx a) :=
  (applyPrefix_register fresh .not a).bind fun _ _ => .refl _ _

theorem combine_register (fresh : rules.find? k = none) (op : BinaryOp) (a b : Operand) :
    (rules.combine ctx op a b).SameUnless k.unsupported
      ((rules.register k f).combine ctx op a b) :=
  (applyBinary_register fresh (.binary op) a b).bind fun _ _ => .refl _ _

end Rules

namespace Machine

theorem step_register (fresh : rules.find? k = none) (stack : List Operand) (s : Step) :
    (step rules ctx stack s).SameUnless k.unsupported
      (step (rules.register k f) ctx stack s) := by
  cases s with
  | operand o => exact .refl _ _
  | not =>
    cases stack with
    | nil => exact .refl _ _
    | cons a rest => exact (Rules.negate_register fresh a).map
  | binary op =>
    rcases stack with _ | ⟨b, _ | ⟨a, rest⟩⟩
    · exact .refl _ _
    · exact .refl _ _
    · exact (Rules.combine_register fresh op a b).map

/-- The two machines hold the same stack after every step, up to a stop at the key. -/
theorem run_register (fresh : rules.find? k = none) (stack : List Operand) (steps : List Step) :
    (run rules ctx stack steps).SameUnless k.unsupported
      (run (rules.register k f) ctx stack steps) := by
  induction steps generalizing stack with
  | nil => exact .refl _ _
  | cons s rest ih => exact (step_register fresh stack s).bind fun next _ => ih next

end Machine

end Registered

/-- An entry of the host for a key without an operation is conservative: unless the rules stop a
condition at exactly that operator on operands of those kinds, the condition comes with the entry to
the same truth value or fault, and leaves the same log. -/
theorem evaluate_register_of_unregistered (rules : Rules) (k : Key) (f : Operation) (ctx : Context)
    (c : Condition) (fresh : rules.contains k = false)
    (unmet : (evaluate rules ctx c).outcome ≠ .error k.unsupported) :
    evaluate (rules.register k f) ctx c = evaluate rules ctx c := by
  have hfind : rules.find? k = none := by simpa [Rules.contains] using fresh
  have h : (evaluate rules ctx c).SameUnless k.unsupported (evaluate (rules.register k f) ctx c) :=
    (Machine.run_register hfind [] (c.steps.map (·.item))).bind fun _ _ => .refl _ _
  exact h.resolve_left unmet

/-- A host has given `!E::M` the field `A`, and adds `!` on numbers: `!E::M && !B` stays true, and
`!nullptr` still has no operation. -/
theorem evaluate_register_prefix_number :
    let rules := (Rules.standard Rules.defaultEpsilon).register ⟨.not, .enum, none⟩
      fun _ _ _ => pure (.property "A")
    let k : Key := ⟨.not, .number, none⟩
    let f : Operation := fun _ a _ => pure a
    let ctx : Context :=
      { name := "S"
        bool := fun n => some (n == "A")
        integer := fun _ => none
        number := fun _ => none
        member := fun _ => none
        object := fun _ => none
        typeName := fun _ => none
        memberValue := fun _ _ => none
        remarks := fun _ _ => [] }
    let c : Condition :=
      ⟨"!E::M && !B", [⟨.operand (.enum "E" "M"), 1⟩, ⟨.not, 0⟩, ⟨.operand (.property "B"), 10⟩,
        ⟨.not, 9⟩, ⟨.binary .and, 6⟩]⟩
    let d : Condition := ⟨"!nullptr", [⟨.operand .null, 1⟩, ⟨.not, 0⟩]⟩
    rules.contains k = false ∧
      (evaluate rules ctx c).outcome = .ok true ∧
      evaluate (rules.register k f) ctx c = evaluate rules ctx c ∧
      (evaluate rules ctx d).outcome = .error (.unsupported .not .null none) ∧
      evaluate (rules.register k f) ctx d = evaluate rules ctx d := by
  intro rules k f ctx c d
  have hc : (evaluate rules ctx c).outcome = .ok true := by rfl
  have hd : (evaluate rules ctx d).outcome = .error (.unsupported .not .null none) := by rfl
  refine ⟨rfl, hc, ?_, hd, ?_⟩
  · exact evaluate_register_of_unregistered rules k f ctx c rfl (by rw [hc]; nofun)
  · exact evaluate_register_of_unregistered rules k f ctx d rfl (by rw [hd]; nofun)

end FieldGuard
