import FieldGuard.Proofs.Loading.Members
import FieldGuard.Proofs.Loading.WellFormed
import FieldGuard.Proofs.Selection.Silence

/-! Loaded subjects. They hold what their documents give, under the declared types, so a getter that
asks about a field never meets a value that it cannot read (`loads_wellFormed_wellTyped`). -/
namespace FieldGuard
namespace SubjectDocument

variable {d : SubjectDocument} {s : Subject}

theorem Gives.admits {type : FieldType} {json : Json} {value : FieldValue}
    (h : d.Gives type json value) : type.Admits value := by
  cases h <;> constructor

theorem wellTyped_of_toSubject (h : d.toSubject = .ok s) : s.WellTyped := by
  intro i hi field value hvalue
  obtain ⟨w, -, hgiven⟩ := exists_of_forall₂ (List.Forall₂.flip (given_instances h)) hi
  cases hw : w.get? field with
  | none => exact absurd ((hgiven.of_none field hw).symm.trans hvalue) nofun
  | some json =>
    obtain ⟨type, value', htype, hgives, hget⟩ := hgiven.of_some field json hw
    obtain rfl := Option.some.inj (hget.symm.trans hvalue)
    exact ⟨type, htype, hgives.admits⟩

/-- An integer is shown as no member exactly if none is written with it. -/
theorem member?_enums_eq_none_iff (h : d.toSubject = .ok s) {type : String} {i : Int64} :
    s.enums.member? type i = none ↔ ∀ member, d.integer? type member ≠ some i := by
  constructor
  · intro hnone member hmember
    obtain ⟨leader, hleads⟩ := exists_leads h hmember
    exact absurd (hnone.symm.trans ((member?_enums_eq_some_iff h).mpr hleads)) nofun
  · intro hall
    refine Option.eq_none_iff_forall_ne_some.mpr fun member hmember => ?_
    exact hall member ((member?_enums_eq_some_iff h).mp hmember).1

theorem unnamed_iff (h : d.toSubject = .ok s) {ε : Float} {attached : Bool} {field : String} :
    Selection.Unnamed ⟨s, ε, attached⟩ field ↔
      ∃ name i, s.fields.get? field = some (.enum name) ∧
        (∀ x ∈ s.instances, x.get? field = some (.enum i)) ∧
          ∀ member, d.integer? name member ≠ some i := by
  simp only [Selection.Unnamed, member?_enums_eq_none_iff h]

/-- A document is loaded exactly if it is well formed, and the subject has what the document gives:
each field the type of its name, each instance the values written for it, each with the type of its
field, and each member its integer, in the order of integers and then of names. So a getter has no
answer about a declared field only if it is of another kind, or if there is no instance, one without
the field, or one that differs from the first; for members also if none has the agreed integer. -/
theorem loads_wellFormed_wellTyped (d : SubjectDocument) :
    ((∃ s, d.toSubject = .ok s) ↔ d.WellFormed) ∧
    ∀ s, d.toSubject = .ok s →
      s.name = d.name ∧
      (∀ field type, s.fields.get? field = some type ↔
        ∃ name, d.fields.get? field = some name ∧ d.Names name type) ∧
      List.Forall₂ (d.Given s.fields) d.instances s.instances ∧
      s.WellTyped ∧
      (∀ type ms, s.enums.get? type = some ms →
        ms.Pairwise fun a b => a.2 < b.2 ∨ a.2 = b.2 ∧ a.1 < b.1) ∧
      (∀ type member, s.enums.value? type member = d.integer? type member) ∧
      ∀ (ε : Float) (attached : Bool) (field : String) (type : FieldType) (getter : Getter),
        s.fields.get? field = some type → getter ≠ .typeName →
        let selection : Selection := ⟨s, ε, attached⟩
        (type.serves getter = false → selection.context.get getter field = none) ∧
        (type.serves getter = true →
          (selection.context.get getter field = none ↔
            selection.Unsettled getter field ∨
              getter = .member ∧ ∃ name i, s.fields.get? field = some (.enum name) ∧
                (∀ x ∈ s.instances, x.get? field = some (.enum i)) ∧
                  ∀ member, d.integer? name member ≠ some i)) := by
  refine ⟨⟨fun ⟨_, h⟩ => wellFormed_of_toSubject h, WellFormed.exists_toSubject⟩, fun s h => ?_⟩
  obtain ⟨henums, hfields, -, hname⟩ := toSubject_eq_ok_iff.mp h
  have htyped := wellTyped_of_toSubject h
  refine ⟨hname, fun _ _ => get?_fields henums hfields, given_instances h, htyped,
    fun type ms hms => ?_, value?_enums henums, fun ε attached field type getter ht hgetter => ?_⟩
  · obtain ⟨hsome, hnone⟩ := get?_enums henums type
    cases hd : d.enums.get? type with
    | none => exact absurd ((hnone hd).symm.trans hms) nofun
    | some written =>
      obtain ⟨ms', hmembers, hget⟩ := hsome written hd
      obtain rfl := Option.some.inj (hget.symm.trans hms)
      exact ordered_members hmembers
  · intro selection
    refine ⟨Selection.get_of_not_serves ht hgetter, fun hserves => ?_⟩
    rw [Selection.get_eq_none_iff htyped ht hserves, unnamed_iff h]

section Clashing

/-- A document with an enum that is named like a pointer, and instances that differ. -/
def clashing : SubjectDocument where
  name := "S"
  enums := .ofList [("T*", .ofList [("On", .integer 1)])]
  fields := .ofList [("mode", "T*"), ("owner", "A*"), ("size", "int32")]
  instances := [
    .ofList [("mode", .string "On"), ("owner", .string "x"), ("size", .number (.integer 2))],
    .ofList [("mode", .number (.integer 1)), ("owner", .null)]]

/-- The subject it describes. -/
def clashed : Subject where
  name := "S"
  enums := .ofList [("T*", [("On", 1)])]
  fields := .ofList [("mode", .enum "T*"), ("owner", .object "A*"), ("size", .integer "int32")]
  instances := [
    .ofList [("mode", .enum 1), ("owner", .object (.object Identities.base)), ("size", .integer 2)],
    .ofList [("mode", .enum 1), ("owner", .object .null)]]

theorem toSubject_clashing : clashing.toSubject = .ok clashed := by
  have hsort : ([("On", 1)] : Members) = List.mergeSort [("On", 1)] fun a b => a.2 ≤ b.2 :=
    (List.mergeSort_singleton _).symm
  have hmembers : members "T*" (.ofList [("On", .integer 1)]) = .ok [("On", 1)] :=
    members_eq_ok_iff.mpr ⟨_, .cons ⟨rfl, rfl⟩ .nil, hsort⟩
  have henums : declareEnums clashing.enums.entries .empty = .ok clashed.enums := by
    show (members "T*" _ >>= _) = _
    rw [hmembers]
    rfl
  exact toSubject_eq_ok_iff.mpr ⟨henums, rfl, rfl, rfl⟩

/-- The enum goes before the pointer; the field that one instance lacks has no number, and the one
on which they differ no object. -/
theorem clashing_wellFormed_wellTyped :
    let selection : Selection := ⟨clashed, Rules.defaultEpsilon, false⟩
    clashing.toSubject = .ok clashed ∧ clashing.WellFormed ∧ clashed.WellTyped ∧
      clashed.fields.get? "mode" = some (.enum "T*") ∧ Getter.object ≠ .typeName ∧
      selection.context.get .object "mode" = none ∧ selection.context.get .member "mode" = some "On" ∧
      selection.context.get .number "size" = none ∧ selection.context.get .object "owner" = none := by
  intro selection
  obtain ⟨hwellFormed, hloaded⟩ := loads_wellFormed_wellTyped clashing
  obtain ⟨-, -, -, htyped, -, -, hget⟩ := hloaded clashed toSubject_clashing
  refine ⟨toSubject_clashing, hwellFormed.mp ⟨clashed, toSubject_clashing⟩, htyped, rfl, nofun,
    ?_, rfl, ?_, ?_⟩
  · exact (hget Rules.defaultEpsilon false "mode" (.enum "T*") .object rfl nofun).1 rfl
  · refine ((hget Rules.defaultEpsilon false "size" (.integer "int32") .number rfl nofun).2 rfl).mpr ?_
    exact .inl (.inr (.inl ⟨_, List.mem_cons_of_mem _ List.mem_cons_self, rfl⟩))
  · refine ((hget Rules.defaultEpsilon false "owner" (.object "A*") .object rfl nofun).2 rfl).mpr ?_
    refine .inl (.inr (.inr ⟨_, _, _, rfl, rfl, _, List.mem_cons_self, _, rfl, ?_⟩))
    nofun

end Clashing

end SubjectDocument
end FieldGuard
