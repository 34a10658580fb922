import FieldGuard.Proofs.Evaluation.Fallback
import FieldGuard.Proofs.Selection.Silence

/-! The equality of two fields of a selection, and its faults. Two declared fields have a truth
value exactly if their types are compared and both have a value. Whatever is missing, the fault is
then the mismatch of both; it names one operand only if that one is not declared. -/
namespace FieldGuard

/-- The types whose values equality compares: those of objects, whatever the objects are, and those
of one kind and one name. -/
def FieldType.ComparesWith (type type' : FieldType) : Prop :=
  type.getter = type'.getter ∧ (type.getter = .object ∨ type.name = type'.name)

theorem FieldType.getter_mem_compared (type : FieldType) : type.getter ∈ Getter.compared := by
  cases type with
  | bool | integer | float | enum | object => simp [getter, Getter.compared]

/-- Equality and inequality of two fields have one body. -/
theorem Rules.applyBinary_fields (ε : Float) (ctx : Context) (negate : Bool) (a b : String) :
    (standard ε).applyBinary ctx (.binary (if negate then .notEqual else .equal)) (.property a)
      (.property b) = Operation.sameValue ε negate a b ctx := by
  cases negate <;> rfl

/-- A condition on two fields comes to a fault where their equality does. -/
theorem evaluate_fields_eq_error_iff {ε : Float} {ctx : Context} {c : Condition} {a b : String}
    {negate : Bool} {e : Fault}
    (hc : c.steps.map (·.item) = [.operand (.property a), .operand (.property b),
      .binary (if negate then .notEqual else .equal)]) :
    (evaluate (.standard ε) ctx c).outcome = .error e ↔
      (Operation.sameValue ε negate a b ctx).outcome = .error e := by
  rw [evaluate_of_binary hc, Rules.applyBinary_fields]
  have hkinded : (Operation.sameValue ε negate a b ctx).Kinded fun v => v.kind = .bool :=
    Operation.kinded_sameValue negate a b ctx
  obtain ⟨v, hv, hkind⟩ | ⟨e', he', -⟩ := hkinded.cases
  · cases v with
    | bool x => simp [hv, Except.bind, Machine.verdict]
    | number _ | property _ | null | enum _ _ => cases hkind
  · simp [he', Except.bind]

namespace Selection

variable {s : Selection} {a b : String} {ta tb : FieldType}

/-- Of the compared getters, two declared fields can only have answers to the one that serves the
types of both. -/
theorem bothAnswer_iff (ha : s.subject.fields.get? a = some ta)
    (hb : s.subject.fields.get? b = some tb) {g : Getter} (hg : g ∈ Getter.compared) :
    s.context.BothAnswer g a b ↔
      (ta.getter = g ∧ tb.getter = g) ∧ s.context.get ta.getter a ≠ none ∧
        s.context.get tb.getter b ≠ none := by
  have hs := s.sorted_context
  constructor
  · rintro ⟨hxa, hxb⟩
    have hga := hs.eq_of_isSome hg hxa
    have hgb := hs.eq_of_isSome hg hxb
    simp only [ha, hb, Option.map_some, Option.getD_some] at hga hgb
    subst hga
    exact ⟨⟨rfl, hgb⟩, Option.isSome_iff_ne_none.mp hxa, hgb ▸ Option.isSome_iff_ne_none.mp hxb⟩
  · rintro ⟨⟨rfl, hgb⟩, hxa, hxb⟩
    exact ⟨Option.isSome_iff_ne_none.mpr hxa, Option.isSome_iff_ne_none.mpr (hgb ▸ hxb)⟩

/-- Two declared fields are compared, as objects or as values, where their types are compared and
both have a value. -/
theorem compared_iff (ha : s.subject.fields.get? a = some ta)
    (hb : s.subject.fields.get? b = some tb) :
    s.context.BothAnswer .object a b ∨
        ta.name = tb.name ∧ (∃ c : Comparison, s.context.BothAnswer c.getter a b) ↔
      ta.ComparesWith tb ∧ s.context.get ta.getter a ≠ none ∧
        s.context.get tb.getter b ≠ none := by
  constructor
  · rintro (hboth | ⟨hname, c, hboth⟩)
    · obtain ⟨⟨hga, hgb⟩, hvalues⟩ := (bothAnswer_iff ha hb (by decide)).mp hboth
      exact ⟨⟨hga.trans hgb.symm, .inl hga⟩, hvalues⟩
    · obtain ⟨⟨hga, hgb⟩, hvalues⟩ := (bothAnswer_iff ha hb c.getter_mem_compared).mp hboth
      exact ⟨⟨hga.trans hgb.symm, .inr hname⟩, hvalues⟩
  · rintro ⟨⟨hgetter, hname⟩, hvalues⟩
    have hboth : s.context.BothAnswer ta.getter a b :=
      (bothAnswer_iff ha hb ta.getter_mem_compared).mpr ⟨⟨rfl, hgetter.symm⟩, hvalues⟩
    by_cases hobject : ta.getter = .object
    · exact .inl (hobject ▸ hboth)
    · obtain ⟨c, hc⟩ := Comparison.exists_getter_eq ta.getter_mem_compared hobject
      exact .inr ⟨hname.resolve_left hobject, c, hc ▸ hboth⟩

/-- What leaves two declared fields without an equality: their types, or a missing value. -/
theorem not_compared_iff (ε : Float) (ha : s.subject.fields.get? a = some ta)
    (hb : s.subject.fields.get? b = some tb) :
    Operation.both (fun p q => decide (p = q)) (s.context.object a) (s.context.object b) = none ∧
        (ta.name = tb.name → Operation.valuesEqual? ε s.context a b = none) ↔
      ¬ ta.ComparesWith tb ∨ s.context.get ta.getter a = none ∨
        s.context.get tb.getter b = none := by
  have hobjects : Operation.both (fun p q => decide (p = q)) (s.context.object a)
      (s.context.object b) = none ↔ ¬ s.context.BothAnswer .object a b :=
    Operation.both_eq_none_iff
  rw [hobjects, Comparison.valuesEqual?_eq_none_iff, ← not_exists, ← not_and, ← not_or,
    compared_iff ha hb]
  simp only [ne_eq, Classical.not_and_iff_not_or_not, Classical.not_not]

/-- The type name of a field is that of its declared type. -/
theorem typeName_eq (s : Selection) (field : String) :
    s.context.typeName field = (s.subject.fields.get? field).map FieldType.name := rfl

/-- An equality or inequality of two fields names an operand in its fault exactly if that one is not
declared, the left one first. The fault of two declared fields is the mismatch of both; there is one
exactly if their types are not compared, or if one of the fields has no value. -/
theorem equality_names_undeclared_only (s : Selection) (ε : Float) (negate : Bool) (a b : String)
    (c : Condition) (e : Fault)
    (hc : c.steps.map (·.item) = [.operand (.property a), .operand (.property b),
      .binary (if negate then .notEqual else .equal)]) :
    (evaluate (.standard ε) s.context c).outcome = .error e ↔
      s.subject.fields.get? a = none ∧ e = .invalidOperand a ∨
        ∃ ta, s.subject.fields.get? a = some ta ∧
          (s.subject.fields.get? b = none ∧ e = .invalidOperand b ∨
            ∃ tb, s.subject.fields.get? b = some tb ∧ e = .typeMismatch a b ∧
              (¬ ta.ComparesWith tb ∨ s.context.get ta.getter a = none ∨
                s.context.get tb.getter b = none)) := by
  rw [evaluate_fields_eq_error_iff hc, Operation.sameValue_eq_error_iff, typeName_eq, typeName_eq]
  cases ha : s.subject.fields.get? a with
  | none =>
    have hobject : s.context.object a = none := get_of_undeclared .object ha
    simp [hobject, Operation.both]
  | some ta =>
    cases hb : s.subject.fields.get? b with
    | none =>
      have hobject : s.context.object b = none := get_of_undeclared .object hb
      simp [hobject, Operation.both_eq_none_iff]
    | some tb =>
      have hcompared := not_compared_iff ε ha hb
      simp only [Option.map_some, reduceCtorEq, false_and, false_or, Option.some.injEq,
        exists_eq_left', ← hcompared]
      exact and_left_comm

section Unset

/-- Two bool fields, and an instance with a value for the first of them. -/
def halfSet : Selection :=
  ⟨(((Subject.named "S").withField "a" .bool).withField "b" .bool).push [("a", .bool true)],
    Rules.defaultEpsilon, false⟩

/-- A mismatch of two bools, for want of a value. -/
theorem equality_mismatch_halfSet :
    let c : Condition :=
      ⟨"a == b", [⟨.operand (.property "a"), 0⟩, ⟨.operand (.property "b"), 5⟩,
        ⟨.binary .equal, 2⟩]⟩
    (evaluate (.standard Rules.defaultEpsilon) halfSet.context c).outcome =
      .error (.typeMismatch "a" "b") := by
  intro c
  have hunset : halfSet.context.bool "b" = none := rfl
  refine (equality_names_undeclared_only halfSet Rules.defaultEpsilon false "a" "b" c _ rfl).mpr ?_
  exact .inr ⟨.bool, rfl, .inr ⟨.bool, rfl, rfl, .inr (.inr hunset)⟩⟩

/-- Two fields have one type, one of them has no value, and the fault does not name it: it says that
the types are different. -/
theorem unset_operand_not_named :
    let ctx := halfSet.context
    let equal : Condition :=
      ⟨"a == b", [⟨.operand (.property "a"), 0⟩, ⟨.operand (.property "b"), 5⟩,
        ⟨.binary .equal, 2⟩]⟩
    let notEqual : Condition :=
      ⟨"a != b", [⟨.operand (.property "a"), 0⟩, ⟨.operand (.property "b"), 5⟩,
        ⟨.binary .notEqual, 2⟩]⟩
    ctx.typeName "a" = some "bool" ∧ ctx.typeName "b" = some "bool" ∧
      ctx.bool "a" = some true ∧ ctx.bool "b" = none ∧
      (evaluate (.standard Rules.defaultEpsilon) ctx equal).outcome =
        .error (.typeMismatch "a" "b") ∧
      (evaluate (.standard Rules.defaultEpsilon) ctx notEqual).outcome =
        .error (.typeMismatch "a" "b") ∧
      (Fault.typeMismatch "a" "b").operandName? = none :=
  ⟨rfl, rfl, rfl, rfl, rfl, rfl, rfl⟩

end Unset

end Selection
end FieldGuard
