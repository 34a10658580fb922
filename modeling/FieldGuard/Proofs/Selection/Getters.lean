import FieldGuard.Proofs.Selection.Silence

/-! What the getters of a selection answer, whatever values its instances hold: a value that all
instances share, if the field's type is one that the getter serves. The getter of members looks the
shared integer up, and the getter of numbers compares all instances with the first
(`getters_answer_shared_values`). -/
namespace FieldGuard

/-- The member that stands first of those with an integer, in the order in which they are looked up.
-/
def Enums.FirstWith (enums : Enums) (type : String) (i : Int64) (member : String) : Prop :=
  ∃ before after, enums.get? type = some (before ++ (member, i) :: after) ∧ ∀ e ∈ before, e.2 ≠ i

theorem Enums.member?_eq_some_iff {enums : Enums} {type member : String} {i : Int64} :
    enums.member? type i = some member ↔ enums.FirstWith type i member := by
  rw [member?, Option.bind_eq_some_iff]
  constructor
  · rintro ⟨ms, hms, hfirst⟩
    obtain ⟨⟨name, j⟩, hfind, rfl⟩ := Option.map_eq_some_iff.mp hfirst
    obtain ⟨hj, before, after, rfl, hbefore⟩ := List.find?_eq_some_iff_append.mp hfind
    obtain rfl : j = i := eq_of_beq hj
    exact ⟨before, after, hms, by simpa using hbefore⟩
  · rintro ⟨before, after, hms, hbefore⟩
    refine ⟨_, hms, Option.map_eq_some_iff.mpr ⟨(member, i), ?_, rfl⟩⟩
    exact List.find?_eq_some_iff_append.mpr
      ⟨beq_self_eq_true i, before, after, rfl, by simpa using hbefore⟩

namespace Selection

/-- A field is declared with a type that a getter serves. -/
def Serves (s : Selection) (getter : Getter) (field : String) : Prop :=
  ∃ type, s.subject.fields.get? field = some type ∧ type.serves getter = true

/-- There are instances, and each has a value for a field, as `P` says. -/
def AllHold (s : Selection) (field : String) (P : FieldValue → Prop) : Prop :=
  s.subject.instances ≠ [] ∧ ∀ i ∈ s.subject.instances, ∃ v, i.get? field = some v ∧ P v

variable {s : Selection} {field : String}

theorem allHold_congr {P Q : FieldValue → Prop} (h : ∀ v, P v ↔ Q v) :
    s.AllHold field P ↔ s.AllHold field Q := by
  unfold AllHold
  simp only [h]

/-- Compared by equality, instances agree on what can be read off all of them. -/
theorem agreement_beq_eq_some_iff {α : Type} [BEq α] [LawfulBEq α]
    {extract : FieldValue → Option α} {a : α} :
    (s.agreement field extract fun a b => a == b).toOption = some a ↔
      s.AllHold field fun v => extract v = some a := by
  rw [agreement_eq, Agreement.toOption_beq_eq_some_iff, ne_eq, List.map_eq_nil_iff,
    List.forall_mem_map]
  simp only [AllHold, ne_eq, Option.bind_eq_some_iff]

/-- What a getter answers has to be found out for the types that it serves only. -/
theorem get_eq_some_iff (getter : Getter) {v : getter.Answer} {P : Prop}
    (hname : getter ≠ .typeName)
    (h : ∀ type, s.subject.fields.get? field = some type → type.serves getter = true →
      (s.context.get getter field = some v ↔ P)) :
    s.context.get getter field = some v ↔ s.Serves getter field ∧ P := by
  cases ht : s.subject.fields.get? field with
  | none =>
    rw [get_of_undeclared getter ht]
    refine iff_of_false nofun ?_
    rintro ⟨⟨type, ht', -⟩, -⟩
    exact absurd (ht.symm.trans ht') nofun
  | some type =>
    cases hserves : type.serves getter with
    | false =>
      rw [get_of_not_serves ht hname hserves]
      refine iff_of_false nofun ?_
      rintro ⟨⟨type', ht', hserves'⟩, -⟩
      obtain rfl := Option.some.inj (ht.symm.trans ht')
      exact absurd (hserves.symm.trans hserves') nofun
    | true => rw [h type ht hserves, and_iff_right ⟨type, ht, hserves⟩]

theorem bool_eq_some_iff {b : Bool} :
    s.context.bool field = some b ↔
      s.Serves .bool field ∧ s.AllHold field fun v => v = .bool b := by
  apply get_eq_some_iff .bool nofun
  intro type ht hserves
  cases type with
  | bool =>
    change (s.bool field).toOption = some b ↔ _
    simp only [bool, ht, agreement_beq_eq_some_iff]
    exact allHold_congr fun v => by cases v <;> simp
  | integer | float | enum | object => cases hserves

/-- An integer is read off integers and off enum values, whatever the field is declared for. -/
theorem integer_eq_some_iff {i : Int64} :
    s.context.integer field = some i ↔
      s.Serves .integer field ∧ s.AllHold field fun v => v = .integer i ∨ v = .enum i := by
  apply get_eq_some_iff .integer nofun
  intro type ht hserves
  cases type with
  | integer | enum =>
    change (s.integer field).toOption = some i ↔ _
    simp only [integer, ht, agreement_beq_eq_some_iff]
    exact allHold_congr fun v => by cases v <;> simp
  | bool | float | object => cases hserves

theorem object_eq_some_iff {ref : ObjectRef} :
    s.context.object field = some ref ↔
      s.Serves .object field ∧ s.AllHold field fun v => v = .object ref := by
  apply get_eq_some_iff .object nofun
  intro type ht hserves
  cases type with
  | object =>
    change (s.object field).toOption = some ref ↔ _
    simp only [object, ht, agreement_beq_eq_some_iff]
    exact allHold_congr fun v => by cases v <;> simp
  | bool | integer | float | enum => cases hserves

/-- A member is found by the integer that all instances hold as an enum value. -/
theorem member_eq_some_iff {member : String} :
    s.context.member field = some member ↔
      ∃ type i, s.subject.fields.get? field = some (.enum type) ∧
        s.AllHold field (fun v => v = .enum i) ∧ s.subject.enums.FirstWith type i member := by
  simp only [← Enums.member?_eq_some_iff]
  change s.member field = some member ↔ _
  unfold Selection.member
  split
  · next type ht =>
    have hshared (i : Int64) : (s.enumValue field).toOption = some i ↔
        s.AllHold field fun v => v = .enum i :=
      (enumValue_eq_some_iff ht).trans (by simp [AllHold])
    simp only [Option.bind_eq_some_iff, hshared]
    constructor
    · rintro ⟨i, hall, hmember⟩
      exact ⟨type, i, ht, hall, hmember⟩
    · rintro ⟨type', i, ht', hall, hmember⟩
      obtain rfl := FieldType.enum.inj (Option.some.inj (ht.symm.trans ht'))
      exact ⟨i, hall, hmember⟩
  · next hother =>
    refine iff_of_false nofun ?_
    rintro ⟨type, i, ht, -⟩
    exact hother type ht

/-- A number is that of the first instance, and those of all others lie within the tolerance of it.
-/
theorem number_eq_some_iff {x : Float} :
    s.context.number field = some x ↔
      s.Serves .number field ∧ ∃ first rest v, s.subject.instances = first :: rest ∧
        first.get? field = some v ∧ v.number? = some x ∧
        ∀ i ∈ rest, ∃ w y, i.get? field = some w ∧ w.number? = some y ∧
          nearlyEqual s.epsilon x y = true := by
  apply get_eq_some_iff .number nofun
  intro type ht hserves
  have hnumeric : type.isNumeric = true := by
    cases type with
    | integer | float => rfl
    | bool | enum | object => cases hserves
  change (s.number field).toOption = some x ↔ _
  rw [number_eq, ht, Option.any_some, if_pos hnumeric, agreement_eq,
    Agreement.toOption_of_eq_some_iff]
  constructor
  · rintro ⟨_, hvalues, hnear⟩
    obtain ⟨first, rest, hinstances, hfirst, rfl⟩ := List.map_eq_cons_iff.mp hvalues
    obtain ⟨v, hv, hx⟩ := Option.bind_eq_some_iff.mp hfirst
    refine ⟨first, rest, v, hinstances, hv, hx, fun i hi => ?_⟩
    obtain ⟨y, hy, hxy⟩ := hnear _ (List.mem_map_of_mem hi)
    obtain ⟨w, hw, hwy⟩ := Option.bind_eq_some_iff.mp hy
    exact ⟨w, y, hw, hwy, hxy⟩
  · rintro ⟨first, rest, v, hinstances, hv, hx, hnear⟩
    refine ⟨_, List.map_eq_cons_iff.mpr
      ⟨first, rest, hinstances, Option.bind_eq_some_iff.mpr ⟨v, hv, hx⟩, rfl⟩, ?_⟩
    rintro _ hmem
    obtain ⟨i, hi, rfl⟩ := List.mem_map.mp hmem
    obtain ⟨w, y, hw, hwy, hxy⟩ := hnear i hi
    exact ⟨y, Option.bind_eq_some_iff.mpr ⟨w, hw, hwy⟩, hxy⟩

/-- Each getter answers what all instances share, and nothing else: the getters of truth values,
integers and objects a value that every instance holds, the getter of members the member that stands
first of those with the shared enum value, and the getter of numbers the number of the first
instance, to which those of all others are nearly equal. -/
theorem getters_answer_shared_values (s : Selection) (field : String) :
    (∀ b, s.context.bool field = some b ↔
      s.Serves .bool field ∧ s.AllHold field fun v => v = .bool b) ∧
    (∀ i, s.context.integer field = some i ↔
      s.Serves .integer field ∧ s.AllHold field fun v => v = .integer i ∨ v = .enum i) ∧
    (∀ ref, s.context.object field = some ref ↔
      s.Serves .object field ∧ s.AllHold field fun v => v = .object ref) ∧
    (∀ member, s.context.member field = some member ↔
      ∃ type i, s.subject.fields.get? field = some (.enum type) ∧
        s.AllHold field (fun v => v = .enum i) ∧ s.subject.enums.FirstWith type i member) ∧
    ∀ x, s.context.number field = some x ↔
      s.Serves .number field ∧ ∃ first rest v, s.subject.instances = first :: rest ∧
        first.get? field = some v ∧ v.number? = some x ∧
        ∀ i ∈ rest, ∃ w y, i.get? field = some w ∧ w.number? = some y ∧
          nearlyEqual s.epsilon x y = true :=
  ⟨fun _ => bool_eq_some_iff, fun _ => integer_eq_some_iff, fun _ => object_eq_some_iff,
    fun _ => member_eq_some_iff, fun _ => number_eq_some_iff⟩

end Selection
end FieldGuard
