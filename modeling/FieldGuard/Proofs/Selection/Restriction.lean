import FieldGuard.Proofs.Evaluation.Refinement
import FieldGuard.Proofs.Selection.Agreement

/-! Selections with fewer instances. Dropping instances never takes an answer away or changes it, so
a condition keeps its truth value; numbers are compared with the first instance only, so this one
has to stay, or the numbers in the condition have to be equal. -/
namespace FieldGuard

/-- A number type, whose values agree up to a tolerance. -/
def FieldType.isNumeric : FieldType → Bool
  | .integer _ | .float _ => true
  | _ => false

/-- Of the getters that equality asks, the one that serves a type. -/
def FieldType.getter : FieldType → Getter
  | .bool => .bool
  | .integer _ | .float _ => .number
  | .enum _ => .member
  | .object _ => .object

/-- A subject with other instances. -/
def Subject.restrict (s : Subject) (sub : List Instance) : Subject :=
  { s with instances := sub }

/-- Selects further objects, one after the other. -/
def Subject.pushAll (s : Subject) (objects : List (List (String × FieldValue))) : Subject :=
  objects.foldl Subject.push s

/-- Objects that are selected later stand behind those selected before, and nothing else changes. -/
theorem Subject.pushAll_eq (s : Subject) (objects : List (List (String × FieldValue))) :
    s.pushAll objects = s.restrict (s.instances ++ objects.map Dictionary.ofList) := by
  unfold pushAll
  induction objects generalizing s with
  | nil => simp [restrict]
  | cons values rest ih =>
    rw [List.foldl_cons, ih]
    simp [restrict, push]

namespace Selection

def restrict (s : Selection) (sub : List Instance) : Selection :=
  { s with subject := s.subject.restrict sub }

def pushAll (s : Selection) (objects : List (List (String × FieldValue))) : Selection :=
  { s with subject := s.subject.pushAll objects }

variable {s : Selection} {sub : List Instance} {field : String}

@[simp] theorem fields_restrict : (s.restrict sub).subject.fields = s.subject.fields := rfl
@[simp] theorem enums_restrict : (s.restrict sub).subject.enums = s.subject.enums := rfl
@[simp] theorem instances_restrict : (s.restrict sub).subject.instances = sub := rfl

theorem instances_pushAll (s : Selection) (objects : List (List (String × FieldValue))) :
    (s.pushAll objects).subject.instances =
      s.subject.instances ++ objects.map Dictionary.ofList := by
  rw [pushAll, Subject.pushAll_eq]
  rfl

/-- Dropping the objects selected later leads back. -/
theorem restrict_pushAll (s : Selection) (objects : List (List (String × FieldValue))) :
    (s.pushAll objects).restrict s.subject.instances = s := by
  rw [restrict, pushAll, Subject.pushAll_eq]
  rfl

section Agreement

variable {α : Type} {extract : FieldValue → Option α} {same : α → α → Bool} {v : α}

theorem agreement_eq (s : Selection) (field : String) (extract : FieldValue → Option α)
    (same : α → α → Bool) :
    s.agreement field extract same =
      .of same (s.subject.instances.map fun i => (i.get? field).bind extract) := by
  rw [agreement, Subject.values, List.map_map]
  rfl

theorem agreement_of_head (hsub : sub.Sublist s.subject.instances)
    (hhead : sub.head? = s.subject.instances.head?)
    (h : (s.agreement field extract same).toOption = some v) :
    ((s.restrict sub).agreement field extract same).toOption = some v := by
  rw [agreement_eq] at h ⊢
  refine Agreement.toOption_of_head_sublist (hsub.map _) ?_ h
  rw [List.head?_map, List.head?_map, instances_restrict, hhead]

theorem agreement_of_equal (hsub : sub.Sublist s.subject.instances) (hne : sub ≠ [])
    (heq : ∀ i ∈ s.subject.instances, ∀ j ∈ s.subject.instances, i.get? field = j.get? field)
    (h : (s.agreement field extract same).toOption = some v) :
    ((s.restrict sub).agreement field extract same).toOption = some v := by
  rw [agreement_eq] at h ⊢
  refine Agreement.toOption_of_equal_sublist (hsub.map _) (by simpa using hne) ?_ h
  intro x hx y hy
  obtain ⟨i, hi, rfl⟩ := List.mem_map.mp hx
  obtain ⟨j, hj, rfl⟩ := List.mem_map.mp hy
  rw [heq i hi j hj]

theorem agreement_of_beq [BEq α] [LawfulBEq α] (hsub : sub.Sublist s.subject.instances)
    (hne : sub ≠ [])
    (h : (s.agreement field extract fun a b => a == b).toOption = some v) :
    ((s.restrict sub).agreement field extract fun a b => a == b).toOption = some v := by
  rw [agreement_eq] at h ⊢
  exact Agreement.toOption_of_sublist (hsub.map _) (by simpa using hne) h

end Agreement

theorem bool_restrict {v : Bool} (hsub : sub.Sublist s.subject.instances) (hne : sub ≠ [])
    (h : (s.bool field).toOption = some v) : ((s.restrict sub).bool field).toOption = some v := by
  unfold bool at h ⊢
  rw [fields_restrict]
  split at h
  · exact agreement_of_beq hsub hne h
  · cases h

theorem integer_restrict {v : Int64} (hsub : sub.Sublist s.subject.instances) (hne : sub ≠ [])
    (h : (s.integer field).toOption = some v) :
    ((s.restrict sub).integer field).toOption = some v := by
  unfold integer at h ⊢
  rw [fields_restrict]
  split at h
  · exact agreement_of_beq hsub hne h
  · exact agreement_of_beq hsub hne h
  · cases h

theorem enumValue_restrict {v : Int64} (hsub : sub.Sublist s.subject.instances) (hne : sub ≠ [])
    (h : (s.enumValue field).toOption = some v) :
    ((s.restrict sub).enumValue field).toOption = some v := by
  unfold enumValue at h ⊢
  rw [fields_restrict]
  split at h
  · exact agreement_of_beq hsub hne h
  · cases h

theorem object_restrict {v : ObjectRef} (hsub : sub.Sublist s.subject.instances) (hne : sub ≠ [])
    (h : (s.object field).toOption = some v) :
    ((s.restrict sub).object field).toOption = some v := by
  unfold object at h ⊢
  rw [fields_restrict]
  split at h
  · exact agreement_of_beq hsub hne h
  · cases h

theorem member_restrict {v : String} (hsub : sub.Sublist s.subject.instances) (hne : sub ≠ [])
    (h : s.member field = some v) : (s.restrict sub).member field = some v := by
  unfold member at h ⊢
  rw [fields_restrict, enums_restrict]
  split at h
  · obtain ⟨i, hi, hm⟩ := Option.bind_eq_some_iff.mp h
    exact Option.bind_eq_some_iff.mpr ⟨i, enumValue_restrict hsub hne hi, hm⟩
  · cases h

/-- All instances have the same value of a field, if its type is a number type. -/
def HoldsOneNumber (s : Selection) (field : String) : Prop :=
  ∀ t, s.subject.fields.get? field = some t → t.isNumeric = true →
    ∀ i ∈ s.subject.instances, ∀ j ∈ s.subject.instances, i.get? field = j.get? field

theorem number_restrict {v : Float} (hsub : sub.Sublist s.subject.instances) (hne : sub ≠ [])
    (hkeep : sub.head? = s.subject.instances.head? ∨ s.HoldsOneNumber field)
    (h : (s.number field).toOption = some v) :
    ((s.restrict sub).number field).toOption = some v := by
  unfold number at h ⊢
  rw [fields_restrict]
  obtain hhead | heq := hkeep
  · split at h
    · exact agreement_of_head hsub hhead h
    · exact agreement_of_head hsub hhead h
    · cases h
  · split at h
    · next hf => exact agreement_of_equal hsub hne (heq _ hf rfl) h
    · next hf => exact agreement_of_equal hsub hne (heq _ hf rfl) h
    · cases h

/-- Whatever a selection answers about some fields, it answers with fewer instances as well. -/
theorem refines_restrict {names : List String} (hsub : sub.Sublist s.subject.instances)
    (hne : sub ≠ [])
    (hkeep : sub.head? = s.subject.instances.head? ∨ ∀ n ∈ names, s.HoldsOneNumber n) :
    s.context.Refines names (s.restrict sub).context where
  bool _ _ _ h := bool_restrict hsub hne h
  integer _ _ _ h := integer_restrict hsub hne h
  number n hn _ h := number_restrict hsub hne (hkeep.imp_right fun heq => heq n hn) h
  member _ _ _ h := member_restrict hsub hne h
  object _ _ _ h := object_restrict hsub hne h
  typeName _ _ _ h := h
  memberValue _ _ _ h := h

/-- In a selection the declared type of a field decides which getter may answer. -/
theorem sorted_context (s : Selection) :
    s.context.Sorted fun n =>
      ((s.subject.fields.get? n).map FieldType.getter).getD .typeName where
  bool n v h := by
    change (s.bool n).toOption = some v at h
    unfold bool at h
    split at h
    · next hf => rw [hf]; rfl
    · cases h
  number n v h := by
    change (s.number n).toOption = some v at h
    unfold number at h
    split at h
    · next hf => rw [hf]; rfl
    · next hf => rw [hf]; rfl
    · cases h
  member n v h := by
    change s.member n = some v at h
    unfold member at h
    split at h
    · next hf => rw [hf]; rfl
    · cases h
  object n v h := by
    change (s.object n).toOption = some v at h
    unfold object at h
    split at h
    · next hf => rw [hf]; rfl
    · cases h

theorem evaluate_restrict {c : Condition} {ε : Float} {b : Bool}
    (hsub : sub.Sublist s.subject.instances) (hne : sub ≠ [])
    (hkeep : sub.head? = s.subject.instances.head? ∨ ∀ n ∈ c.names, s.HoldsOneNumber n)
    (hb : (evaluate (.standard ε) s.context c).outcome = .ok b) :
    (evaluate (.standard ε) (s.restrict sub).context c).outcome = .ok b :=
  evaluate_mono (refines_restrict hsub hne hkeep) (sorted_context _) hb

/-- A truth value survives when instances are dropped, as long as one stays, and the first one does
or the numbers in the condition are equal throughout. So selecting further objects can turn a truth
value into a fault, but neither into the other truth value nor a fault into a truth value. -/
theorem truth_survives_restriction (s : Selection) (c : Condition) (ε : Float) :
    (∀ sub b, sub.Sublist s.subject.instances → sub ≠ [] →
      (sub.head? = s.subject.instances.head? ∨ ∀ n ∈ c.names, s.HoldsOneNumber n) →
      (evaluate (.standard ε) s.context c).outcome = .ok b →
      (evaluate (.standard ε) (s.restrict sub).context c).outcome = .ok b) ∧
    ∀ objects b, s.subject.instances ≠ [] →
      (evaluate (.standard ε) (s.pushAll objects).context c).outcome = .ok b →
      (evaluate (.standard ε) s.context c).outcome = .ok b := by
  refine ⟨fun sub b hsub hne hkeep hb => evaluate_restrict hsub hne hkeep hb, ?_⟩
  intro objects b hne hb
  have hinst := instances_pushAll s objects
  have hsub : s.subject.instances.Sublist (s.pushAll objects).subject.instances := by
    rw [hinst]
    exact List.sublist_append_left _ _
  have hhead : s.subject.instances.head? = (s.pushAll objects).subject.instances.head? := by
    obtain ⟨first, rest, hcons⟩ := List.exists_cons_of_ne_nil hne
    rw [hinst, hcons, List.cons_append, List.head?_cons, List.head?_cons]
  have hrestrict := evaluate_restrict hsub hne (.inl hhead) hb
  rwa [restrict_pushAll] at hrestrict

/-- Two objects that agree on two bool fields; the second one is left alone. -/
theorem truth_survives_without_first :
    let first : List (String × FieldValue) := [("A", .bool true), ("B", .bool false)]
    let second : List (String × FieldValue) := ("C", .integer 0) :: first
    let s : Selection :=
      ⟨(((Subject.named "S").withField "A" .bool).withField "B" .bool).pushAll [first, second],
        Rules.defaultEpsilon, false⟩
    let c : Condition :=
      ⟨"A!=B", [⟨.operand (.property "A"), 0⟩, ⟨.operand (.property "B"), 3⟩,
        ⟨.binary .notEqual, 1⟩]⟩
    (evaluate (.standard Rules.defaultEpsilon) s.context c).outcome = .ok true ∧
      (evaluate (.standard Rules.defaultEpsilon)
        (s.restrict [Dictionary.ofList second]).context c).outcome = .ok true := by
  intro first second s c
  have h : (evaluate (.standard Rules.defaultEpsilon) s.context c).outcome = .ok true := rfl
  have hsub : [Dictionary.ofList second].Sublist s.subject.instances := .cons _ (.refl _)
  have hone : ∀ n ∈ c.names, s.HoldsOneNumber n := by
    intro n hn t ht hnum
    have hn' : n = "A" ∨ n = "B" := by simpa [c, Condition.names, Operand.propertyName?] using hn
    have hbool : FieldType.bool = t := by
      obtain rfl | rfl := hn'
      · exact Option.some.inj ht
      · exact Option.some.inj ht
    rw [← hbool] at hnum
    cases hnum
  have hsurvives := (truth_survives_restriction s c Rules.defaultEpsilon).1
  exact ⟨h, hsurvives _ true hsub (List.cons_ne_nil _ _) (.inr hone) h⟩

end Selection
end FieldGuard
