import FieldGuard.Proofs.Selection.Order

/-! Getters without an answer, for subjects whose instances hold values of the declared types. A
getter of another kind than the field never answers. One of the field's kind answers unless there is
no instance, one without the field, or one that differs from the first; the getter for members also
needs a member with the integer (`get_eq_none_iff`). -/
namespace FieldGuard

/-- The values that a field of some type can hold. -/
inductive FieldType.Admits : FieldType → FieldValue → Prop
  | bool (b : Bool) : Admits .bool (.bool b)
  | integer (name : String) (i : Int64) : Admits (.integer name) (.integer i)
  | float (name : String) (x : Float) : Admits (.float name) (.float x)
  | enum (name : String) (i : Int64) : Admits (.enum name) (.enum i)
  | object (name : String) (ref : ObjectRef) : Admits (.object name) (.object ref)

/-- The getters that answer about values of fields of some type. -/
def FieldType.serves : FieldType → Getter → Bool
  | .bool, .bool | .integer _, .integer | .integer _, .number | .float _, .number => true
  | .enum _, .integer | .enum _, .member | .object _, .object => true
  | _, _ => false

/-- A subject whose instances hold declared fields only, with values of their types. -/
def Subject.WellTyped (s : Subject) : Prop :=
  ∀ i ∈ s.instances, ∀ field value, i.get? field = some value →
    ∃ type, s.fields.get? field = some type ∧ type.Admits value

namespace Selection

/-- Values that count as one for a getter: equal ones, and for numbers those within the tolerance. -/
def Alike (ε : Float) : Getter → FieldValue → FieldValue → Prop
  | .number, v, w => ∃ a b, v.number? = some a ∧ w.number? = some b ∧ nearlyEqual ε a b = true
  | _, v, w => v = w

/-- An instance behind the first holds something else than the first does. -/
def Differs (s : Selection) (getter : Getter) (field : String) : Prop :=
  ∃ first rest v, s.subject.instances = first :: rest ∧ first.get? field = some v ∧
    ∃ i ∈ rest, ∃ w, i.get? field = some w ∧ ¬ Alike s.epsilon getter v w

/-- There is no instance, one without the field, or one that differs from the first. -/
def Unsettled (s : Selection) (getter : Getter) (field : String) : Prop :=
  s.subject.instances = [] ∨ (∃ i ∈ s.subject.instances, i.get? field = none) ∨
    s.Differs getter field

/-- All instances hold an integer that no member stands for. -/
def Unnamed (s : Selection) (field : String) : Prop :=
  ∃ type value, s.subject.fields.get? field = some (.enum type) ∧
    (∀ i ∈ s.subject.instances, i.get? field = some (.enum value)) ∧
      s.subject.enums.member? type value = none

variable {s : Selection} {field : String} {type : FieldType} {getter : Getter}

/-- A getter of another kind has no answer. -/
theorem get_of_not_serves (ht : s.subject.fields.get? field = some type)
    (hname : getter ≠ .typeName) (h : type.serves getter = false) :
    s.context.get getter field = none := by
  cases getter with
  | bool =>
    have hunset : s.bool field = .unset := by
      rw [bool, ht]
      cases type with
      | bool => cases h
      | integer | float | enum | object => rfl
    exact congrArg Agreement.toOption hunset
  | integer =>
    have hunset : s.integer field = .unset := by
      rw [integer, ht]
      cases type with
      | integer | enum => cases h
      | bool | float | object => rfl
    exact congrArg Agreement.toOption hunset
  | number =>
    have hunset : s.number field = .unset := by
      rw [number, ht]
      cases type with
      | integer | float => cases h
      | bool | enum | object => rfl
    exact congrArg Agreement.toOption hunset
  | member =>
    have hunset : s.member field = none := by
      rw [member, ht]
      cases type with
      | enum => cases h
      | bool | integer | float | object => rfl
    exact hunset
  | object =>
    have hunset : s.object field = .unset := by
      rw [object, ht]
      cases type with
      | object => cases h
      | bool | integer | float | enum => rfl
    exact congrArg Agreement.toOption hunset
  | typeName => exact absurd rfl hname

/-- Nothing is answered about a field that is not declared. -/
theorem get_of_undeclared (getter : Getter) (h : s.subject.fields.get? field = none) :
    s.context.get getter field = none := by
  cases getter with
  | bool => exact congrArg Agreement.toOption (show s.bool field = .unset by rw [bool, h])
  | integer => exact congrArg Agreement.toOption (show s.integer field = .unset by rw [integer, h])
  | number => exact congrArg Agreement.toOption (show s.number field = .unset by rw [number, h])
  | member => exact show s.member field = none by rw [member, h]
  | object => exact congrArg Agreement.toOption (show s.object field = .unset by rw [object, h])
  | typeName => exact congrArg (Option.map FieldType.name) h

/-- Where an extraction reads every value of the field's type, and tells apart what is not alike, the
instances agree unless the field is missing somewhere or one differs from the first. -/
theorem agreement_eq_none_iff {α : Type} {extract : FieldValue → Option α} {same : α → α → Bool}
    (hs : s.subject.WellTyped) (ht : s.subject.fields.get? field = some type)
    (hextract : ∀ v, type.Admits v → ∃ a, extract v = some a)
    (hsame : ∀ v w a b, type.Admits v → type.Admits w → extract v = some a → extract w = some b →
      (same a b = true ↔ Alike s.epsilon getter v w)) :
    (s.agreement field extract same).toOption = none ↔ s.Unsettled getter field := by
  have hadmits {i : Instance} (hi : i ∈ s.subject.instances) {v : FieldValue}
      (hv : i.get? field = some v) : type.Admits v := by
    obtain ⟨type', ht', hadmits⟩ := hs i hi field v hv
    obtain rfl := Option.some.inj (ht.symm.trans ht')
    exact hadmits
  rw [agreement_eq, Agreement.toOption_of_eq_none_iff, List.map_eq_nil_iff]
  refine or_congr_right (or_congr ?_ ?_)
  · rw [List.mem_map]
    refine exists_congr fun i => and_congr_right fun hi => ?_
    cases hv : i.get? field with
    | none => simp
    | some v =>
      obtain ⟨a, ha⟩ := hextract v (hadmits hi hv)
      simp [ha]
  · constructor
    · rintro ⟨a, rest, b, hvalues, hb, hdiffers⟩
      obtain ⟨first, tail, hinstances, hfirst, rfl⟩ := List.map_eq_cons_iff.mp hvalues
      obtain ⟨i, hi, hvalue⟩ := List.mem_map.mp hb
      obtain ⟨v, hv, hva⟩ := Option.bind_eq_some_iff.mp hfirst
      obtain ⟨w, hw, hwb⟩ := Option.bind_eq_some_iff.mp hvalue
      have hv' := hadmits (hinstances ▸ List.mem_cons_self) hv
      have hw' := hadmits (hinstances ▸ List.mem_cons_of_mem first hi) hw
      refine ⟨first, tail, v, hinstances, hv, i, hi, w, hw, fun halike => ?_⟩
      exact absurd (hdiffers.symm.trans ((hsame v w a b hv' hw' hva hwb).mpr halike)) nofun
    · rintro ⟨first, tail, v, hinstances, hv, i, hi, w, hw, hdiffers⟩
      have hv' := hadmits (hinstances ▸ List.mem_cons_self) hv
      have hw' := hadmits (hinstances ▸ List.mem_cons_of_mem first hi) hw
      obtain ⟨a, ha⟩ := hextract v hv'
      obtain ⟨b, hb⟩ := hextract w hw'
      refine ⟨a, _, b, by rw [hinstances, List.map_cons, hv, Option.bind_some, ha],
        List.mem_map.mpr ⟨i, hi, by rw [hw, Option.bind_some, hb]⟩, ?_⟩
      exact eq_false_of_ne_true fun h => hdiffers ((hsame v w a b hv' hw' ha hb).mp h)

/-- Values that are compared by equality, each held under one constructor. -/
theorem agreement_beq_eq_none_iff {α : Type} [BEq α] [LawfulBEq α] {extract : FieldValue → Option α}
    (hs : s.subject.WellTyped) (ht : s.subject.fields.get? field = some type)
    (hgetter : getter ≠ .number) (held : α → FieldValue)
    (hheld : ∀ v, type.Admits v → ∃ a, v = held a) (hextract : ∀ a, extract (held a) = some a) :
    (s.agreement field extract fun a b => a == b).toOption = none ↔ s.Unsettled getter field := by
  refine agreement_eq_none_iff hs ht (fun v hv => ?_) fun v w a b hv hw ha hb => ?_
  · obtain ⟨a, rfl⟩ := hheld v hv
    exact ⟨a, hextract a⟩
  · obtain ⟨a, rfl⟩ := hheld v hv
    obtain ⟨b, rfl⟩ := hheld w hw
    obtain rfl := Option.some.inj ((hextract a).symm.trans ha)
    obtain rfl := Option.some.inj ((hextract b).symm.trans hb)
    have halike : Alike s.epsilon getter (held a) (held b) ↔ held a = held b := by
      cases getter <;> simp_all [Alike]
    rw [beq_iff_eq, halike]
    refine ⟨congrArg held, fun h => ?_⟩
    exact Option.some.inj ((hextract a).symm.trans ((congrArg extract h).trans (hextract b)))

theorem bool_eq_none_iff (hs : s.subject.WellTyped)
    (ht : s.subject.fields.get? field = some .bool) :
    (s.bool field).toOption = none ↔ s.Unsettled .bool field := by
  rw [bool, ht]
  refine agreement_beq_eq_none_iff hs ht nofun .bool ?_ fun _ => rfl
  rintro _ ⟨⟩
  exact ⟨_, rfl⟩

/-- An enum field has an integer, too. -/
theorem integer_eq_none_iff (hs : s.subject.WellTyped)
    (ht : s.subject.fields.get? field = some type) (h : type.serves .integer = true) :
    (s.integer field).toOption = none ↔ s.Unsettled .integer field := by
  cases type with
  | integer =>
    rw [integer, ht]
    refine agreement_beq_eq_none_iff hs ht nofun .integer ?_ fun _ => rfl
    rintro _ ⟨⟩
    exact ⟨_, rfl⟩
  | enum =>
    rw [integer, ht]
    refine agreement_beq_eq_none_iff hs ht nofun .enum ?_ fun _ => rfl
    rintro _ ⟨⟩
    exact ⟨_, rfl⟩
  | bool | float | object => cases h

/-- Numbers are compared up to the tolerance, whether they are held as integers or not. -/
theorem number_eq_none_iff (hs : s.subject.WellTyped)
    (ht : s.subject.fields.get? field = some type) (h : type.serves .number = true) :
    (s.number field).toOption = none ↔ s.Unsettled .number field := by
  have hnumeric : type.isNumeric = true := by
    cases type with
    | integer | float => rfl
    | bool | enum | object => cases h
  rw [number_eq, ht, Option.any_some, if_pos hnumeric]
  refine agreement_eq_none_iff hs ht (fun v hv => ?_) fun v w a b _ _ ha hb => ?_
  · cases hv with
    | integer | float => exact ⟨_, rfl⟩
    | bool | enum | object => cases h
  · simp [Alike, ha, hb]

theorem enumValue_eq_none_iff (hs : s.subject.WellTyped) {name : String}
    (ht : s.subject.fields.get? field = some (.enum name)) :
    (s.enumValue field).toOption = none ↔ s.Unsettled .member field := by
  rw [enumValue, ht]
  refine agreement_beq_eq_none_iff hs ht nofun .enum ?_ fun _ => rfl
  rintro _ ⟨⟩
  exact ⟨_, rfl⟩

theorem object_eq_none_iff (hs : s.subject.WellTyped) {name : String}
    (ht : s.subject.fields.get? field = some (.object name)) :
    (s.object field).toOption = none ↔ s.Unsettled .object field := by
  rw [object, ht]
  refine agreement_beq_eq_none_iff hs ht nofun .object ?_ fun _ => rfl
  rintro _ ⟨⟩
  exact ⟨_, rfl⟩

/-- Instances with one enum value hold it, if there are any. -/
theorem enumValue_eq_some_iff {name : String} {value : Int64}
    (ht : s.subject.fields.get? field = some (.enum name)) :
    (s.enumValue field).toOption = some value ↔
      s.subject.instances ≠ [] ∧ ∀ i ∈ s.subject.instances, i.get? field = some (.enum value) := by
  rw [enumValue, ht]
  simp only [agreement_eq, Agreement.toOption_beq_eq_some_iff, ne_eq, List.map_eq_nil_iff,
    List.forall_mem_map]
  refine and_congr_right fun _ => forall₂_congr fun i _ => ?_
  cases i.get? field with
  | none => simp
  | some v => cases v <;> simp

/-- The getter for members needs a member with the integer that the instances agree on. -/
theorem member_eq_none_iff (hs : s.subject.WellTyped) {name : String}
    (ht : s.subject.fields.get? field = some (.enum name)) :
    s.member field = none ↔ s.Unsettled .member field ∨ s.Unnamed field := by
  rw [← enumValue_eq_none_iff hs ht, member, ht]
  cases hvalue : (s.enumValue field).toOption with
  | none => simp
  | some value =>
    obtain ⟨hne, hall⟩ := (enumValue_eq_some_iff ht).mp hvalue
    simp only [Option.bind_some, reduceCtorEq, false_or]
    constructor
    · exact fun hnone => ⟨name, value, ht, hall, hnone⟩
    · rintro ⟨name', value', ht', hall', hnone⟩
      obtain rfl := FieldType.enum.inj (Option.some.inj (ht.symm.trans ht'))
      obtain ⟨i, hi⟩ := List.exists_mem_of_ne_nil _ hne
      have heq := FieldValue.enum.inj (Option.some.inj ((hall i hi).symm.trans (hall' i hi)))
      exact heq ▸ hnone

/-- A getter of the field's kind has no answer exactly if there is no instance, one without the
field, one that differs from the first, or for members if no member has the integer. -/
theorem get_eq_none_iff (hs : s.subject.WellTyped)
    (ht : s.subject.fields.get? field = some type) (h : type.serves getter = true) :
    s.context.get getter field = none ↔
      s.Unsettled getter field ∨ getter = .member ∧ s.Unnamed field := by
  match type, getter, h with
  | .bool, .bool, _ => exact (bool_eq_none_iff hs ht).trans (by simp)
  | .integer _, .integer, h | .enum _, .integer, h =>
    exact (integer_eq_none_iff hs ht h).trans (by simp)
  | .integer _, .number, h | .float _, .number, h =>
    exact (number_eq_none_iff hs ht h).trans (by simp)
  | .enum _, .member, _ => exact (member_eq_none_iff hs ht).trans (by simp)
  | .object _, .object, _ => exact (object_eq_none_iff hs ht).trans (by simp)

end Selection
end FieldGuard
