import FieldGuard.Proofs.Loading.Enums
import FieldGuard.Proofs.Loading.Identities

/-! What a document says of types and values, apart from the order in which its parts are read. A
name stands for at most one type: a built-in type goes before a declared enum, and an enum before a
pointer (`ofName?_eq_some_iff`). A value is read for a field exactly if it fits the type of the field,
whatever names of objects were met before (`gives_of_fieldValue`, `fieldValue_of_gives`). -/
namespace FieldGuard

/-- The names of types that need no declaration. -/
def FieldType.IsBuiltin (name : String) : Prop :=
  name = "bool" ∨ name ∈ integerNames ∨ name ∈ floatNames

namespace SubjectDocument

/-- The type that a name stands for in a document. -/
inductive Names (d : SubjectDocument) : String → FieldType → Prop
  | bool : d.Names "bool" .bool
  | integer {name : String} (listed : name ∈ FieldType.integerNames) : d.Names name (.integer name)
  | float {name : String} (listed : name ∈ FieldType.floatNames) : d.Names name (.float name)
  | enum {name : String} (free : ¬ FieldType.IsBuiltin name)
      (declared : d.enums.contains name = true) : d.Names name (.enum name)
  | object {target : String} (nonempty : target ≠ "")
      (undeclared : d.enums.contains (target ++ "*") = false) :
      d.Names (target ++ "*") (.object (target ++ "*"))

/-- The value that a JSON value gives a field of some type. The name of an object gives a reference
to some object beyond those that integers refer to. -/
inductive Gives (d : SubjectDocument) : FieldType → Json → FieldValue → Prop
  | bool (b : Bool) : d.Gives .bool (.bool b) (.bool b)
  | integer {name : String} {n : JsonNumber} {i : Int64} (exact : n.toInt64? = some i) :
      d.Gives (.integer name) (.number n) (.integer i)
  | float (name : String) (n : JsonNumber) : d.Gives (.float name) (.number n) (.float n.toFloat)
  | member {type member : String} {i : Int64} (written : d.integer? type member = some i) :
      d.Gives (.enum type) (.string member) (.enum i)
  | enumInteger {type : String} {n : JsonNumber} {i : Int64} (exact : n.toInt64? = some i) :
      d.Gives (.enum type) (.number n) (.enum i)
  | null (name : String) : d.Gives (.object name) .null (.object .null)
  | zero {name : String} {n : JsonNumber} {i : Int64} (exact : n.toInt64? = some i)
      (isZero : i.toInt = 0) : d.Gives (.object name) (.number n) (.object .null)
  | id {name : String} {n : JsonNumber} {i : Int64} (exact : n.toInt64? = some i)
      (pos : 0 < i.toInt) (below : i.toInt < Identities.base) :
      d.Gives (.object name) (.number n) (.object (.object i.toInt.toNat))
  | identity (name object : String) {id : Nat} (beyond : Identities.base ≤ id) :
      d.Gives (.object name) (.string object) (.object (.object id))

/-- A JSON value that can be given to a field of some type. -/
def Fits (d : SubjectDocument) (type : FieldType) (json : Json) : Prop :=
  ∃ value, d.Gives type json value

section Types

theorem isBuiltin_iff {name : String} : FieldType.IsBuiltin name ↔
    name ∈ "bool" :: FieldType.integerNames ++ FieldType.floatNames := by
  simp [FieldType.IsBuiltin]

instance (name : String) : Decidable (FieldType.IsBuiltin name) :=
  decidable_of_iff _ isBuiltin_iff.symm

theorem not_isBuiltin_pointer (target : String) : ¬ FieldType.IsBuiltin (target ++ "*") := by
  intro h
  have hlast : (target ++ "*").toList.getLast? = some '*' := by simp
  have hnone : ∀ name ∈ "bool" :: FieldType.integerNames ++ FieldType.floatNames,
      name.toList.getLast? ≠ some '*' := by
    decide
  exact hnone _ (isBuiltin_iff.mp h) hlast

theorem pointer_iff {name : String} :
    1 < name.length ∧ name.toList.getLast? = some '*' ↔
      ∃ target, target ≠ "" ∧ name = target ++ "*" := by
  rw [List.getLast?_eq_some_iff, ← String.length_toList]
  constructor
  · rintro ⟨hlen, front, hfront⟩
    refine ⟨String.ofList front, ?_, ?_⟩
    · rintro hempty
      obtain rfl : front = [] := by simpa using congrArg String.toList hempty
      simp [hfront] at hlen
    · apply String.toList_injective
      simpa using hfront
  · rintro ⟨target, hne, rfl⟩
    have hpos : target.toList ≠ [] := by simpa using hne
    exact ⟨by simpa [List.length_pos_iff] using hpos, target.toList, by simp⟩

variable {d : SubjectDocument} {enums : Enums}

theorem ofName?_eq_some_iff (h : ∀ type, enums.contains type = d.enums.contains type)
    {name : String} {t : FieldType} : FieldType.ofName? enums name = some t ↔ d.Names name t := by
  unfold FieldType.ofName?
  constructor
  · intro hname
    split at hname
    · obtain rfl := Option.some.inj hname
      subst_vars
      exact .bool
    split at hname
    · obtain rfl := Option.some.inj hname
      exact .integer ‹_›
    split at hname
    · obtain rfl := Option.some.inj hname
      exact .float ‹_›
    split at hname
    · rename_i hbool hinteger hfloat hdeclared
      obtain rfl := Option.some.inj hname
      refine .enum ?_ (h name ▸ hdeclared)
      simp [FieldType.IsBuiltin, hbool, hinteger, hfloat]
    split at hname
    · rename_i hundeclared hpointer
      obtain ⟨target, hne, rfl⟩ := pointer_iff.mp hpointer
      obtain rfl := Option.some.inj hname
      exact .object hne (h _ ▸ eq_false_of_ne_true hundeclared)
    · cases hname
  · intro hname
    cases hname with
    | bool => rfl
    | integer listed =>
      have hbool : name ≠ "bool" := fun heq => absurd (heq ▸ listed) (by decide)
      rw [if_neg hbool, if_pos listed]
    | float listed =>
      have hbool : name ≠ "bool" := fun heq => absurd (heq ▸ listed) (by decide)
      have hinteger : name ∉ FieldType.integerNames := fun hmem =>
        absurd listed ((by decide : ∀ n ∈ FieldType.integerNames, n ∉ FieldType.floatNames) name hmem)
      rw [if_neg hbool, if_neg hinteger, if_pos listed]
    | enum free declared =>
      simp only [FieldType.IsBuiltin, not_or] at free
      rw [if_neg free.1, if_neg free.2.1, if_neg free.2.2, if_pos (h name ▸ declared)]
    | @object target nonempty undeclared =>
      have free := not_isBuiltin_pointer target
      simp only [FieldType.IsBuiltin, not_or] at free
      rw [if_neg free.1, if_neg free.2.1, if_neg free.2.2, h, undeclared, if_neg Bool.false_ne_true,
        if_pos (pointer_iff.mpr ⟨target, nonempty, rfl⟩)]

end Types

section Values

variable {d : SubjectDocument} {enums : Enums} {ids after : Identities} {type : FieldType}
  {json : Json} {value : FieldValue}

theorem gives_of_fieldValue
    (henums : ∀ type member, enums.value? type member = d.integer? type member)
    (h : fieldValue enums ids type json = .ok (value, after)) : d.Gives type json value := by
  revert h
  fun_cases fieldValue enums ids type json with
  | case1 b =>
    rintro ⟨⟩
    exact .bool b
  | case2 name n i exact =>
    rintro ⟨⟩
    exact .integer exact
  | case4 name n =>
    rintro ⟨⟩
    exact .float name n
  | case5 type member i hi =>
    rintro ⟨⟩
    exact .member ((henums type member).symm.trans hi)
  | case7 type n i exact =>
    rintro ⟨⟩
    exact .enumInteger exact
  | case9 name =>
    rintro ⟨⟩
    exact .null name
  | case10 name n i exact isZero =>
    rintro ⟨⟩
    exact .zero exact isZero
  | case11 name n i exact _ hrange =>
    rintro ⟨⟩
    exact .id exact hrange.1 hrange.2
  | case14 name object id ids hintern =>
    rintro ⟨⟩
    refine .identity name object ?_
    obtain ⟨rfl, -⟩ := Prod.mk.inj hintern
    exact Nat.le_add_right _ _
  | case3 | case6 | case8 | case12 | case13 | case15 =>
    intro h
    cases h

theorem fieldValue_of_gives
    (henums : ∀ type member, enums.value? type member = d.integer? type member)
    (h : d.Gives type json value) (ids : Identities) :
    ∃ r, fieldValue enums ids type json = .ok r := by
  cases h with
  | bool | float | null | identity => exact ⟨_, rfl⟩
  | integer exact | enumInteger exact => exact ⟨_, by simp only [fieldValue, exact]; rfl⟩
  | member written => exact ⟨_, by simp only [fieldValue, henums, written]; rfl⟩
  | zero exact isZero => exact ⟨_, by simp only [fieldValue, exact, if_pos isZero]; rfl⟩
  | id exact pos below =>
    have hne : _ ≠ (0 : Int) := Int.ne_of_gt pos
    simp only [fieldValue, exact, if_neg hne]
    exact ⟨_, if_pos ⟨pos, below⟩⟩

end Values

end SubjectDocument
end FieldGuard
