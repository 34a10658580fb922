import FieldGuard.Proofs.Loading.Subjects
import FieldGuard.Proofs.Selection.Equality
import FieldGuard.Proofs.Selection.Getters

/-! The equality of two enum fields of a loaded subject. It compares members, not integers; but each
integer is found under one member, and each member stands for one integer, so the two comparisons
come to the same, even if members share integers. -/
namespace FieldGuard

namespace SubjectDocument

variable {d : SubjectDocument} {s : Selection} {field type : String} {i j : Int64}

/-- An enum field with an integer that is written for some member shows the member that leads for
it. -/
theorem exists_leads_of_integer (h : d.toSubject = .ok s.subject)
    (ht : s.subject.fields.get? field = some (.enum type))
    (hi : s.context.integer field = some i) (hm : ∃ member, d.integer? type member = some i) :
    ∃ leader, s.context.member field = some leader ∧ d.Leads type leader i := by
  obtain ⟨member, hm⟩ := hm
  obtain ⟨leader, hleads⟩ := exists_leads h hm
  obtain ⟨-, hne, hall⟩ := Selection.integer_eq_some_iff.mp hi
  have hheld : ∀ v ∈ s.subject.instances, v.get? field = some (.enum i) := by
    intro v hv
    obtain ⟨value, hvalue, hkind⟩ := hall v hv
    obtain ⟨type', ht', hadmits⟩ := wellTyped_of_toSubject h v hv field value hvalue
    obtain rfl := Option.some.inj (ht.symm.trans ht')
    obtain rfl | rfl := hkind
    · cases hadmits
    · exact hvalue
  refine ⟨leader, ?_, hleads⟩
  have hmember := (member?_enums_eq_some_iff h).mpr hleads
  exact (Selection.member_eq_of_forall ht hne hheld).trans hmember

/-- One integer has one leader, and no member leads for two. -/
theorem Leads.eq_iff {leader leader' : String} (h : d.Leads type leader i)
    (h' : d.Leads type leader' j) : leader = leader' ↔ i = j := by
  constructor
  · rintro rfl
    exact Option.some.inj (h.1.symm.trans h'.1)
  · rintro rfl
    exact h.unique h'

/-- Two fields of one enum are equal where their integers are. -/
theorem evaluate_enum_fields {a b : String} (h : d.toSubject = .ok s.subject)
    (ha : s.subject.fields.get? a = some (.enum type))
    (hb : s.subject.fields.get? b = some (.enum type)) (hi : s.context.integer a = some i)
    (hj : s.context.integer b = some j) (hmi : ∃ member, d.integer? type member = some i)
    (hmj : ∃ member, d.integer? type member = some j) (ε : Float) (negate : Bool) {c : Condition}
    (hc : c.steps.map (·.item) = [.operand (.property a), .operand (.property b),
      .binary (if negate then .notEqual else .equal)]) :
    (evaluate (.standard ε) s.context c).outcome = .ok (decide (i = j) != negate) := by
  obtain ⟨leader, hmember, hleads⟩ := exists_leads_of_integer h ha hi hmi
  obtain ⟨leader', hmember', hleads'⟩ := exists_leads_of_integer h hb hj hmj
  have hequal : Operation.valuesEqual? ε s.context a b = some (decide (i = j)) := by
    refine Operation.valuesEqual?_eq_some_iff.mpr (.inl ?_)
    refine Operation.both_eq_some_iff.mpr ⟨leader, hmember, leader', hmember', ?_⟩
    exact decide_eq_decide.mpr (hleads.eq_iff hleads')
  have htypes : s.context.typeName a = some type ∧ s.context.typeName b = some type := by
    simp [Selection.typeName_eq, ha, hb, FieldType.name]
  have hobjects := Operation.objects_eq_none s.sorted_context hequal
  have hsame : (Operation.sameValue ε negate a b s.context).outcome =
      .ok (.bool (decide (i = j) != negate)) :=
    Operation.sameValue_eq_ok_iff.mpr ⟨_, rfl, .inr ⟨hobjects, ⟨type, htypes⟩, hequal⟩⟩
  rw [evaluate_of_binary hc, Rules.applyBinary_fields, hsame]
  rfl

end SubjectDocument

namespace Selection

/-- In a selection the comparisons behind the equality of two fields do not compete. At most one of
the getters has an answer about both, so no condition tells in which order the comparisons are made,
nor whether the first or the last of them decides. For two fields of one enum in a loaded subject
the comparison of members, which decides then, comes to that of the integers, as long as these are
written for members. -/
theorem equality_without_precedence (s : Selection) (ε : Float) :
    (∀ a b g g', g ∈ Getter.compared → g' ∈ Getter.compared → s.context.BothAnswer g a b →
      s.context.BothAnswer g' a b → g = g') ∧
    (∀ precedence order, order.Perm Comparison.all → ∀ c,
      (evaluate ((Rules.standard ε).preferring precedence order) s.context c).outcome =
        (evaluate (.standard ε) s.context c).outcome) ∧
    ∀ d a b type i j, SubjectDocument.toSubject d = .ok s.subject →
      s.subject.fields.get? a = some (.enum type) → s.subject.fields.get? b = some (.enum type) →
      s.context.integer a = some i → s.context.integer b = some j →
      (∃ member, d.integer? type member = some i) → (∃ member, d.integer? type member = some j) →
      ∀ negate c, c.steps.map (·.item) = [.operand (.property a), .operand (.property b),
          .binary (if negate then .notEqual else .equal)] →
        (evaluate (.standard ε) s.context c).outcome = .ok (decide (i = j) != negate) := by
  have hs := s.sorted_context
  refine ⟨fun a b g g' hg hg' h h' => hs.bothAnswer_unique hg hg' h h', ?_, ?_⟩
  · intro precedence order horder c
    exact (Rules.alikeIn_preferring hs ε precedence horder).evaluate c
  · intro d a b type i j h ha hb hi hj hmi hmj negate c hc
    exact SubjectDocument.evaluate_enum_fields h ha hb hi hj hmi hmj ε negate hc

section Twins

/-- The document whose enum has two members for one integer, with a field at each of them. -/
def twins : SubjectDocument :=
  { SubjectDocument.sharing with
    fields := .ofList [("f", "E"), ("g", "E")]
    instances := [.ofList [("f", .string "A"), ("g", .string "B")]] }

/-- The selection of all it describes. -/
def paired : Selection where
  subject :=
    { SubjectDocument.shared with
      fields := .ofList [("f", .enum "E"), ("g", .enum "E")]
      instances := [.ofList [("f", .enum 1), ("g", .enum 1)]] }
  epsilon := Rules.defaultEpsilon
  attached := false

theorem toSubject_twins : twins.toSubject = .ok paired.subject := by
  have henums := SubjectDocument.declareEnums_of_toSubject SubjectDocument.toSubject_sharing
  exact SubjectDocument.toSubject_eq_ok_iff.mpr ⟨henums, rfl, rfl, rfl⟩

/-- The fields are equal, also if members are compared first and the first comparison decides. -/
theorem equality_without_precedence_twins :
    let c : Condition :=
      ⟨"f == g", [⟨.operand (.property "f"), 0⟩, ⟨.operand (.property "g"), 5⟩,
        ⟨.binary .equal, 2⟩]⟩
    let ε := Rules.defaultEpsilon
    twins.toSubject = .ok paired.subject ∧ paired.context.BothAnswer .member "f" "g" ∧
      (∀ g ∈ Getter.compared, paired.context.BothAnswer g "f" "g" → g = .member) ∧
      (evaluate (.standard ε) paired.context c).outcome = .ok true ∧
      (evaluate ((Rules.standard ε).preferring .first [.members, .numbers, .bools])
        paired.context c).outcome = .ok true := by
  intro c ε
  obtain ⟨hunique, hprecedence, hloaded⟩ := equality_without_precedence paired ε
  have hmembers : paired.context.BothAnswer .member "f" "g" := ⟨rfl, rfl⟩
  have htrue : (evaluate (.standard ε) paired.context c).outcome = .ok true :=
    hloaded twins "f" "g" "E" 1 1 toSubject_twins rfl rfl rfl rfl ⟨"A", rfl⟩ ⟨"A", rfl⟩ false c rfl
  refine ⟨toSubject_twins, hmembers, fun g hg h => ?_, htrue, ?_⟩
  · exact hunique "f" "g" g .member hg (by decide) h hmembers
  · rw [hprecedence .first _ (by decide) c, htrue]

end Twins

end Selection
end FieldGuard
