import FieldGuard.Proofs.Evaluation.Dependence
import FieldGuard.Proofs.Selection.Restriction

/-! Selections in another order. What the instances agree on by equality does not depend on the order
in which they were selected. Numbers are compared up to a tolerance with the first instance, whose
number is the answer; so the number of a field depends on which instance comes first, and on nothing
else. -/
namespace FieldGuard

/-- The number that a value counts as in a field of a number type. -/
def FieldValue.number? : FieldValue → Option Float
  | .integer i => some (Binary64.ofInt i.toInt)
  | .float x => some x
  | _ => none

namespace Selection

/-- The number of a field on the instance in front. -/
def frontNumber (s : Selection) (field : String) : Option Float :=
  s.subject.instances.head?.bind fun i => (i.get? field).bind FieldValue.number?

variable {s : Selection} {order : List Instance} {field : String} {α : Type}

theorem agreement_beq_perm [BEq α] [LawfulBEq α] {extract : FieldValue → Option α}
    (h : order.Perm s.subject.instances) :
    ((s.restrict order).agreement field extract fun a b => a == b).toOption =
      (s.agreement field extract fun a b => a == b).toOption := by
  rw [agreement_eq, agreement_eq]
  exact Agreement.toOption_beq_perm (h.map _)

theorem bool_perm (h : order.Perm s.subject.instances) :
    ((s.restrict order).bool field).toOption = (s.bool field).toOption := by
  unfold bool
  rw [fields_restrict]
  split
  · exact agreement_beq_perm h
  · rfl

theorem integer_perm (h : order.Perm s.subject.instances) :
    ((s.restrict order).integer field).toOption = (s.integer field).toOption := by
  unfold integer
  rw [fields_restrict]
  split
  · exact agreement_beq_perm h
  · exact agreement_beq_perm h
  · rfl

theorem enumValue_perm (h : order.Perm s.subject.instances) :
    ((s.restrict order).enumValue field).toOption = (s.enumValue field).toOption := by
  unfold enumValue
  rw [fields_restrict]
  split
  · exact agreement_beq_perm h
  · rfl

theorem object_perm (h : order.Perm s.subject.instances) :
    ((s.restrict order).object field).toOption = (s.object field).toOption := by
  unfold object
  rw [fields_restrict]
  split
  · exact agreement_beq_perm h
  · rfl

theorem member_perm (h : order.Perm s.subject.instances) :
    (s.restrict order).member field = s.member field := by
  unfold member
  rw [fields_restrict, enums_restrict, enumValue_perm h]

/-- A field of a number type answers with the agreement of its numbers, any other not at all. -/
theorem number_eq (s : Selection) (field : String) :
    s.number field =
      if (s.subject.fields.get? field).any FieldType.isNumeric then
        s.agreement field FieldValue.number? fun a b => nearlyEqual s.epsilon a b
      else .unset := by
  cases ht : s.subject.fields.get? field with
  | none => simp [number, ht]
  | some t =>
    cases t with
    | integer _ | float _ =>
      simp only [number, ht, Option.any_some, FieldType.isNumeric, if_true]
      rfl
    | bool | enum _ | object _ => simp [number, ht, FieldType.isNumeric]

/-- The number of a field, if it has one, is the number in front. -/
theorem frontNumber_of_number {v : Float} (h : (s.number field).toOption = some v) :
    s.frontNumber field = some v := by
  rw [number_eq] at h
  split at h
  · rw [agreement_eq] at h
    have hhead := Agreement.head?_of_toOption h
    rw [List.head?_map, Option.map_eq_some_iff] at hhead
    obtain ⟨i, hi, hv⟩ := hhead
    rw [frontNumber, hi]
    exact hv
  · cases h

/-- With the same number in front, a field has the same number in any order. -/
theorem number_perm_of_front (h : order.Perm s.subject.instances)
    (hfront : (s.restrict order).frontNumber field = s.frontNumber field) :
    ((s.restrict order).number field).toOption = (s.number field).toOption := by
  cases hv : s.frontNumber field with
  | none =>
    have unset (s' : Selection) (hs : s'.frontNumber field = none) :
        (s'.number field).toOption = none := by
      refine Option.eq_none_iff_forall_ne_some.mpr fun v hv => ?_
      rw [frontNumber_of_number hv] at hs
      cases hs
    rw [unset s hv, unset _ (hfront.trans hv)]
  | some v =>
    have head (s' : Selection) (hs : s'.frontNumber field = some v) :
        (s'.subject.instances.map fun i => (i.get? field).bind FieldValue.number?).head? =
          some (some v) := by
      obtain ⟨i, hi, hget⟩ := Option.bind_eq_some_iff.mp hs
      rw [List.head?_map, hi, Option.map_some, hget]
    rw [number_eq, number_eq, fields_restrict]
    split
    · rw [agreement_eq, agreement_eq]
      exact Agreement.toOption_perm_of_head (h.map _) ((head _ (hfront.trans hv)).trans (head s hv).symm)
    · rfl

/-- A field keeps its number in another order: the instance in front has the same number as before,
or the field has none in either order. -/
def KeepsNumber (s : Selection) (order : List Instance) (field : String) : Prop :=
  (s.restrict order).frontNumber field = s.frontNumber field ∨
    (s.restrict order).context.number field = none ∧ s.context.number field = none

/-- As long as the instance in front stays there, every field keeps its number. -/
theorem keepsNumber_of_head (h : order.head? = s.subject.instances.head?) :
    s.KeepsNumber order field := by
  left
  rw [frontNumber, frontNumber, instances_restrict, h]

/-- The number of a field depends on the order by the number in front alone. -/
theorem number_perm_iff (h : order.Perm s.subject.instances) :
    (s.restrict order).context.number field = s.context.number field ↔
      s.KeepsNumber order field := by
  constructor
  · intro heq
    cases hv : s.context.number field with
    | none => exact .inr ⟨heq.trans hv, hv⟩
    | some v =>
      exact .inl ((frontNumber_of_number (heq.trans hv)).trans (frontNumber_of_number hv).symm)
  · rintro (hfront | ⟨hnone, hnone'⟩)
    · exact number_perm_of_front h hfront
    · exact hnone.trans hnone'.symm

/-- The getters but that of numbers answer in any order the same, and the getter of numbers exactly
where the instance in front has the same number, or there is no number in either order. A condition
that mentions only such fields comes to the same in any order, truth value or fault. -/
theorem order_shows_in_front_numbers_only (s : Selection) (order : List Instance)
    (h : order.Perm s.subject.instances) :
    (∀ field,
      (s.restrict order).context.bool field = s.context.bool field ∧
      (s.restrict order).context.integer field = s.context.integer field ∧
      (s.restrict order).context.member field = s.context.member field ∧
      (s.restrict order).context.object field = s.context.object field ∧
      (s.restrict order).context.typeName field = s.context.typeName field ∧
      ((s.restrict order).context.number field = s.context.number field ↔
        s.KeepsNumber order field)) ∧
    ∀ (ε : Float) (c : Condition), (∀ n ∈ c.names, s.KeepsNumber order n) →
      (evaluate (.standard ε) (s.restrict order).context c).outcome =
        (evaluate (.standard ε) s.context c).outcome := by
  refine ⟨fun field => ⟨bool_perm h, integer_perm h, member_perm h, object_perm h, rfl,
    number_perm_iff h⟩, fun ε c hc => ?_⟩
  have hnames (n : String) (hn : n ∈ c.names) : (s.restrict order).context.AgreeAt s.context n :=
    ⟨bool_perm h, integer_perm h, (number_perm_iff h).mpr (hc n hn), member_perm h, object_perm h,
      rfl⟩
  exact evaluate_congr (Context.agreeOn_of_names hnames fun _ _ _ => rfl)

/-- Three objects with numbers within the tolerance; the last two change places. -/
theorem order_behind_front_has_no_part :
    let first : List (String × FieldValue) := [("X", .float 1)]
    let second : List (String × FieldValue) := [("X", .float 1.000000001)]
    let third : List (String × FieldValue) := [("X", .float 0.999999999)]
    let s : Selection :=
      ⟨((Subject.named "S").withField "X" (.float "float")).pushAll [first, second, third],
        Rules.defaultEpsilon, false⟩
    let order : List Instance := [first, third, second].map Dictionary.ofList
    let c : Condition :=
      ⟨"X>=1", [⟨.operand (.property "X"), 0⟩, ⟨.operand (.number 1), 3⟩,
        ⟨.binary .greaterEqual, 1⟩]⟩
    order.Perm s.subject.instances ∧ (∀ n ∈ c.names, s.KeepsNumber order n) ∧
      (evaluate (.standard Rules.defaultEpsilon) (s.restrict order).context c).outcome =
        (evaluate (.standard Rules.defaultEpsilon) s.context c).outcome := by
  intro first second third s order c
  have hinst : s.subject.instances = [first, second, third].map Dictionary.ofList :=
    congrArg Subject.instances (Subject.pushAll_eq _ _)
  have hperm : order.Perm s.subject.instances := by
    rw [hinst]
    exact (List.Perm.swap _ _ _).cons _
  have hhead : order.head? = s.subject.instances.head? := by
    rw [hinst, List.map_cons, List.head?_cons]
    rfl
  have hkeeps : ∀ n ∈ c.names, s.KeepsNumber order n := fun _ _ => keepsNumber_of_head hhead
  exact ⟨hperm, hkeeps, (order_shows_in_front_numbers_only s order hperm).2 _ c hkeeps⟩

/-- Two objects with numbers within the tolerance: the one in front decides. -/
theorem order_decides_between_near_numbers :
    let first : List (String × FieldValue) := [("X", .float 0)]
    let second : List (String × FieldValue) := [("X", .float 0.000000001)]
    let s : Selection :=
      ⟨((Subject.named "S").withField "X" (.float "float")).pushAll [first, second],
        Rules.defaultEpsilon, false⟩
    let order : List Instance := [second, first].map Dictionary.ofList
    let c : Condition :=
      ⟨"X > 0", [⟨.operand (.property "X"), 0⟩, ⟨.operand (.number 0), 4⟩,
        ⟨.binary .greater, 2⟩]⟩
    order.Perm s.subject.instances ∧
      s.context.number "X" = some 0 ∧
      (s.restrict order).context.number "X" = some 0.000000001 ∧
      (evaluate (.standard Rules.defaultEpsilon) s.context c).outcome = .ok false ∧
      (evaluate (.standard Rules.defaultEpsilon) (s.restrict order).context c).outcome =
        .ok true :=
  ⟨List.Perm.swap _ _ _, rfl, rfl, rfl, rfl⟩

end Selection
end FieldGuard
