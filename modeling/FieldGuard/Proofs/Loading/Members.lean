import FieldGuard.Proofs.Evaluation.Answers
import FieldGuard.Proofs.Loading.Instances
import FieldGuard.Proofs.Selection.Agreement

/-! Members in documents and members in conditions. Only the integer of a member is stored on an
instance, so a condition finds the member that leads for the integer. A member that shares its
integer with one of a lesser name is found under that name. -/
namespace FieldGuard

/-- A field against a member of its type: whether it stands there, or does not. -/
theorem evaluate_standsAt {ε : Float} {ctx : Context} {c : Condition}
    {field type name current : String} (negate : Bool) (ht : ctx.typeName field = some type)
    (hm : ctx.member field = some current)
    (hc : c.steps.map (·.item) = [.operand (.property field), .operand (.enum type name),
      .binary (if negate then .notEqual else .equal)]) :
    (evaluate (.standard ε) ctx c).outcome = .ok (decide (current = name) != negate) := by
  have hstands : (Operation.standsAt negate field type name ctx).outcome =
      .ok (.bool (decide (current = name) != negate)) :=
    Operation.standsAt_eq_ok_iff.mpr ⟨ht, current, hm, rfl⟩
  have hrule : (Rules.standard ε).applyBinary ctx (.binary (if negate then .notEqual else .equal))
      (.property field) (.enum type name) = Operation.standsAt negate field type name ctx := by
    cases negate <;> rfl
  rw [evaluate_of_binary hc, hrule, hstands]
  rfl

namespace Selection

/-- Instances that all hold one enum value show the member that it is found under. -/
theorem member_eq_of_forall {s : Selection} {field type : String} {i : Int64}
    (ht : s.subject.fields.get? field = some (.enum type)) (hne : s.subject.instances ≠ [])
    (hall : ∀ v ∈ s.subject.instances, v.get? field = some (.enum i)) :
    s.member field = s.subject.enums.member? type i := by
  have hvalue : (s.enumValue field).toOption = some i := by
    simp only [enumValue, ht, agreement, Subject.values]
    refine Agreement.toOption_beq_eq_some_iff.mpr ⟨by simpa using hne, ?_⟩
    simp only [List.mem_map, forall_exists_index, and_imp, forall_apply_eq_imp_iff₂]
    intro v hv
    rw [hall v hv]
    rfl
  simp only [member, ht, hvalue, Option.bind_some]

end Selection

namespace SubjectDocument

variable {d : SubjectDocument} {s : Subject} {field type member : String}

/-- A member written for a field is held as its integer. -/
theorem Holds.enum {enums : Enums} {fields : Dictionary FieldType} {written : Dictionary Json}
    {v : Instance} (h : Holds enums fields written v) (ht : fields.get? field = some (.enum type))
    (hw : written.get? field = some (.string member)) :
    ∃ i, enums.value? type member = some i ∧ v.get? field = some (.enum i) := by
  obtain ⟨type', value, before, after, ht', hread, hget⟩ := h.of_some field _ hw
  obtain rfl : FieldType.enum type = type' := Option.some.inj (ht.symm.trans ht')
  cases hi : enums.value? type member with
  | none => simp [fieldValue, hi] at hread
  | some i =>
    obtain ⟨rfl, -⟩ : FieldValue.enum i = value ∧ before = after := by
      simpa [fieldValue, hi] using hread
    exact ⟨i, rfl, hget⟩

/-- A member written for a field on every instance is held as one integer. -/
theorem held_of_written (h : d.toSubject = .ok s) (ht : s.fields.get? field = some (.enum type))
    (hne : d.instances ≠ [])
    (hall : ∀ w ∈ d.instances, w.get? field = some (.string member)) :
    ∃ i, d.integer? type member = some i ∧ s.instances ≠ [] ∧
      ∀ v ∈ s.instances, v.get? field = some (.enum i) := by
  have hholds := holds_instances h
  have hne' : s.instances ≠ [] := by
    rw [← List.length_pos_iff] at hne ⊢
    exact hholds.length_eq ▸ hne
  have hget (v : Instance) (hv : v ∈ s.instances) :
      ∃ i, d.integer? type member = some i ∧ v.get? field = some (.enum i) := by
    obtain ⟨w, hw, hwv⟩ := exists_written hholds hv
    rw [← value?_enums (declareEnums_of_toSubject h)]
    exact hwv.enum ht (hall w hw)
  obtain ⟨v, hv⟩ := List.exists_mem_of_ne_nil _ hne'
  obtain ⟨i, hi, -⟩ := hget v hv
  refine ⟨i, hi, hne', fun v' hv' => ?_⟩
  obtain ⟨j, hj, hv'⟩ := hget v' hv'
  obtain rfl : i = j := Option.some.inj (hi.symm.trans hj)
  exact hv'

/-- Of the members with an integer one leads. -/
theorem exists_leads (h : d.toSubject = .ok s) {i : Int64} (hi : d.integer? type member = some i) :
    ∃ leader, d.Leads type leader i := by
  rw [← value?_enums (declareEnums_of_toSubject h)] at hi
  obtain ⟨ms, hms, hm⟩ := Option.bind_eq_some_iff.mp hi
  have hfound : (ms.find? (·.2 == i)).isSome := by
    obtain ⟨before, after, rfl, -⟩ := List.lookup_eq_some_iff.mp hm
    rw [List.find?_isSome]
    exact ⟨(member, i), List.mem_append_right before List.mem_cons_self, beq_self_eq_true i⟩
  obtain ⟨e, he⟩ := Option.isSome_iff_exists.mp hfound
  refine ⟨e.1, (member?_enums_eq_some_iff h).mp ?_⟩
  rw [Enums.member?, hms, Option.bind_some, he, Option.map_some]

/-- Where every instance of a loaded subject is given a member of an enum field, conditions find the
field at the member that leads for its integer, and at no other: at the member itself, unless it
shares its integer with a member of a lesser name. -/
theorem written_member_stands_at_leader (d : SubjectDocument) (s : Subject)
    (field type member : String) (h : d.toSubject = .ok s)
    (ht : s.fields.get? field = some (.enum type)) (hne : d.instances ≠ [])
    (hall : ∀ w ∈ d.instances, w.get? field = some (.string member)) :
    ∃ i leader, d.integer? type member = some i ∧ d.Leads type leader i ∧
      (leader = member ↔ ∀ other, d.integer? type other = some i → member ≤ other) ∧
      ∀ (ε ε' : Float) (attached : Bool) (name : String) (c : Condition),
        (c.steps.map (·.item) =
            [.operand (.property field), .operand (.enum type name), .binary .equal] →
          (evaluate (.standard ε) (Selection.context ⟨s, ε', attached⟩) c).outcome =
            .ok (decide (leader = name))) ∧
        (c.steps.map (·.item) =
            [.operand (.property field), .operand (.enum type name), .binary .notEqual] →
          (evaluate (.standard ε) (Selection.context ⟨s, ε', attached⟩) c).outcome =
            .ok (decide (leader ≠ name))) := by
  obtain ⟨i, hi, hne', hheld⟩ := held_of_written h ht hne hall
  obtain ⟨leader, hleads⟩ := exists_leads h hi
  have hself : leader = member ↔ ∀ other, d.integer? type other = some i → member ≤ other := by
    constructor
    · rintro rfl
      exact hleads.2
    · exact fun hleast => hleads.unique ⟨hi, hleast⟩
  refine ⟨i, leader, hi, hleads, hself, fun ε ε' attached name c => ?_⟩
  have htype : (Selection.context ⟨s, ε', attached⟩).typeName field = some type := by
    simp [Selection.context, ht, FieldType.name]
  have hmember : (Selection.context ⟨s, ε', attached⟩).member field = some leader :=
    (Selection.member_eq_of_forall ht hne' hheld).trans ((member?_enums_eq_some_iff h).mpr hleads)
  constructor
  · intro hc
    rw [evaluate_standsAt false htype hmember hc, Bool.bne_false]
  · intro hc
    rw [evaluate_standsAt true htype hmember hc, Bool.bne_true, decide_not]

section Sharing

/-- A document with two members for one integer, and an instance at the second. -/
def sharing : SubjectDocument where
  name := "S"
  enums := .ofList [("E", .ofList [("A", .integer 1), ("B", .integer 1)])]
  fields := .ofList [("f", "E")]
  instances := [.ofList [("f", .string "B")]]

/-- The subject it describes. -/
def shared : Subject where
  name := "S"
  enums := .ofList [("E", [("A", 1), ("B", 1)])]
  fields := .ofList [("f", .enum "E")]
  instances := [.ofList [("f", .enum 1)]]

theorem toSubject_sharing : sharing.toSubject = .ok shared := by
  have hsort : ([("A", 1), ("B", 1)] : Members) =
      List.mergeSort [("A", 1), ("B", 1)] fun a b => a.2 ≤ b.2 :=
    (List.mergeSort_of_pairwise (by decide)).symm
  have hmembers : members "E" (.ofList [("A", .integer 1), ("B", .integer 1)]) =
      .ok [("A", 1), ("B", 1)] :=
    members_eq_ok_iff.mpr ⟨_, .cons ⟨rfl, rfl⟩ (.cons ⟨rfl, rfl⟩ .nil), hsort⟩
  have henums : declareEnums sharing.enums.entries .empty = .ok shared.enums := by
    show (members "E" _ >>= _) = _
    rw [hmembers]
    rfl
  unfold toSubject
  rw [henums]
  rfl

theorem leads_sharing : sharing.Leads "E" "A" 1 := by
  refine ⟨rfl, fun other ho => ?_⟩
  obtain ⟨written, hw, ho⟩ := Option.bind_eq_some_iff.mp ho
  obtain rfl : Dictionary.ofList [("A", .integer 1), ("B", .integer 1)] = written :=
    Option.some.inj hw
  obtain ⟨n, hn, -⟩ := Option.bind_eq_some_iff.mp ho
  have hmem : (other, n) ∈ [("A", JsonNumber.integer 1), ("B", .integer 1)] :=
    (Dictionary.mem_entries_iff _).mpr hn
  obtain ⟨rfl, -⟩ | ⟨rfl, -⟩ : other = "A" ∧ _ ∨ other = "B" ∧ _ := by simpa using hmem
  · decide
  · decide

/-- The instance at the second member is found at the first. -/
theorem shared_member_stands_at_first :
    let c : Condition :=
      ⟨"f == E::A", [⟨.operand (.property "f"), 0⟩, ⟨.operand (.enum "E" "A"), 5⟩,
        ⟨.binary .equal, 2⟩]⟩
    sharing.toSubject = .ok shared ∧ sharing.integer? "E" "B" = some 1 ∧
      (evaluate (.standard Rules.defaultEpsilon)
        (Selection.context ⟨shared, Rules.defaultEpsilon, false⟩) c).outcome = .ok true := by
  intro c
  obtain ⟨i, leader, hi, hleads, -, hevaluate⟩ := written_member_stands_at_leader sharing shared
    "f" "E" "B" toSubject_sharing rfl (List.cons_ne_nil _ _) (List.forall_mem_singleton.mpr rfl)
  have hone : sharing.integer? "E" "B" = some 1 := rfl
  obtain rfl : 1 = i := Option.some.inj (hone.symm.trans hi)
  obtain rfl : "A" = leader := leads_sharing.unique hleads
  exact ⟨toSubject_sharing, hone, (hevaluate _ _ _ "A" c).1 rfl⟩

/-- An instance is given a member, and conditions do not find it there. -/
theorem shared_member_not_found :
    let equal : Condition :=
      ⟨"f == E::B", [⟨.operand (.property "f"), 0⟩, ⟨.operand (.enum "E" "B"), 5⟩,
        ⟨.binary .equal, 2⟩]⟩
    let notEqual : Condition :=
      ⟨"f != E::B", [⟨.operand (.property "f"), 0⟩, ⟨.operand (.enum "E" "B"), 5⟩,
        ⟨.binary .notEqual, 2⟩]⟩
    let ctx := Selection.context ⟨shared, Rules.defaultEpsilon, false⟩
    sharing.toSubject = .ok shared ∧ shared.fields.get? "f" = some (.enum "E") ∧
      sharing.instances ≠ [] ∧ (∀ w ∈ sharing.instances, w.get? "f" = some (.string "B")) ∧
      (evaluate (.standard Rules.defaultEpsilon) ctx equal).outcome = .ok false ∧
      (evaluate (.standard Rules.defaultEpsilon) ctx notEqual).outcome = .ok true :=
  ⟨toSubject_sharing, rfl, List.cons_ne_nil _ _, List.forall_mem_singleton.mpr rfl, rfl, rfl⟩

end Sharing

end SubjectDocument
end FieldGuard
