import Mathlib.Data.List.Perm.Subperm
import FieldGuard.Proofs.Loading.WellFormed

/-! The objects that a document refers to. Names of objects are numbered in the order in which they
are met, beyond all integers that may stand for objects; so two references of a loaded subject are
equal exactly if their entries stand for one object (`references_keep_identity`). -/
namespace FieldGuard

/-- An entry for no object: nothing, or the integer zero. -/
inductive Json.IsNoObject : Json → Prop
  | null : IsNoObject .null
  | zero {n : JsonNumber} (exact : n.toInt64? = some 0) : IsNoObject (.number n)

/-- Two entries for one object, or both for none. -/
inductive Json.SameObject : Json → Json → Prop
  | none {a b : Json} (ha : IsNoObject a) (hb : IsNoObject b) : SameObject a b
  | integer {m n : JsonNumber} {i : Int64} (hm : m.toInt64? = some i) (hn : n.toInt64? = some i)
      (nonzero : i ≠ 0) : SameObject (.number m) (.number n)
  | name (name : String) : SameObject (.string name) (.string name)

namespace Json

variable {a b : Json} {m n : JsonNumber} {i j : Int64}

theorem SameObject.symm (h : a.SameObject b) : b.SameObject a := by
  cases h with
  | none ha hb => exact .none hb ha
  | integer hm hn nonzero => exact .integer hn hm nonzero
  | name x => exact .name x

theorem isNoObject_number_iff (exact : n.toInt64? = some i) :
    (Json.number n).IsNoObject ↔ i = 0 := by
  constructor
  · rintro ⟨⟩
    exact Option.some.inj (exact.symm.trans ‹_›)
  · rintro rfl
    exact .zero exact

theorem sameObject_iff_of_isNoObject (ha : a.IsNoObject) : a.SameObject b ↔ b.IsNoObject := by
  refine ⟨fun h => ?_, .none ha⟩
  cases h with
  | none _ hb => exact hb
  | integer hm hn nonzero => exact absurd ((isNoObject_number_iff hm).mp ha) nonzero
  | name => cases ha

theorem sameObject_number_iff (hm : m.toInt64? = some i) (hn : n.toInt64? = some j)
    (nonzero : i ≠ 0) : (Json.number m).SameObject (.number n) ↔ i = j := by
  constructor
  · intro h
    cases h with
    | none ha _ => exact absurd ((isNoObject_number_iff hm).mp ha) nonzero
    | integer hm' hn' _ =>
      obtain rfl := Option.some.inj (hm.symm.trans hm')
      exact Option.some.inj (hn'.symm.trans hn)
  · rintro rfl
    exact .integer hm hn nonzero

theorem sameObject_string_iff {x y : String} : (Json.string x).SameObject (.string y) ↔ x = y := by
  constructor
  · intro h
    cases h with
    | none ha _ => cases ha
    | name => rfl
  · rintro rfl
    exact .name x

theorem not_sameObject_string {x : String} : ¬ (Json.number n).SameObject (.string x) := by
  intro h
  cases h with
  | none _ hb => cases hb

end Json

namespace SubjectDocument

/-- The reference that an entry gives where the names of objects are known. -/
inductive RefersTo (names : Identities) : Json → ObjectRef → Prop
  | none {json : Json} (isNone : json.IsNoObject) : RefersTo names json .null
  | integer {n : JsonNumber} {i : Int64} (exact : n.toInt64? = some i) (pos : 0 < i.toInt)
      (below : i.toInt < Identities.base) : RefersTo names (.number n) (.object i.toInt.toNat)
  | name {name : String} (known : name ∈ names) :
      RefersTo names (.string name) (.object (Identities.base + names.idxOf name))

variable {names : Identities} {json other : Json} {ref ref' : ObjectRef}

theorem toInt_eq_zero_iff {i : Int64} : i.toInt = 0 ↔ i = 0 :=
  Int64.toInt_inj (y := 0)

theorem refersTo_of_fieldValue {enums : Enums} {type : FieldType}
    (h : fieldValue enums names type json = .ok (.object ref, names)) :
    RefersTo names json ref := by
  generalize hafter : names = after at h
  revert h
  -- No other value is a reference.
  fun_cases fieldValue enums after type json with
  | case9 =>
    rintro ⟨⟩
    exact .none .null
  | case10 _ n i exact isZero =>
    rintro ⟨⟩
    exact .none (.zero (toInt_eq_zero_iff.mp isZero ▸ exact))
  | case11 _ n i exact _ hrange =>
    rintro ⟨⟩
    exact .integer exact hrange.1 hrange.2
  | case14 _ name id ids hintern =>
    rintro ⟨⟩
    -- Its name was known: interning it has left the names as they were.
    have hknown : name ∈ (after.intern name).2 := Identities.mem_intern_iff.mpr (.inr rfl)
    rw [hintern] at hknown
    obtain rfl : Identities.base + after.idxOf name = id := congrArg Prod.fst hintern
    exact .name hknown
  | _ =>
    intro h
    cases h

/-- A reference to no object comes from an entry for none. -/
theorem RefersTo.eq_null_iff (h : RefersTo names json ref) : ref = .null ↔ json.IsNoObject := by
  cases h with
  | none isNone => exact ⟨fun _ => isNone, fun _ => rfl⟩
  | integer exact pos below =>
    refine ⟨nofun, fun h => ?_⟩
    obtain rfl := (Json.isNoObject_number_iff exact).mp h
    exact absurd pos (by decide)
  | name known => exact ⟨nofun, nofun⟩

/-- Integers that stand for objects are below the ids of names, and a name has its own place among
the names. -/
theorem RefersTo.eq_iff (h : RefersTo names json ref) (h' : RefersTo names other ref') :
    ref = ref' ↔ json.SameObject other := by
  cases h with
  | none isNone =>
    rw [Json.sameObject_iff_of_isNoObject isNone, ← h'.eq_null_iff, eq_comm]
  | @integer n i exact pos below =>
    have nonzero : i ≠ 0 := fun heq => absurd pos (heq ▸ by decide)
    cases h' with
    | none isNone =>
      have hsame : (Json.number n).SameObject other ↔ (Json.number n).IsNoObject :=
        ⟨fun h => (Json.sameObject_iff_of_isNoObject isNone).mp h.symm, fun h => .none h isNone⟩
      rw [hsame, Json.isNoObject_number_iff exact]
      exact ⟨nofun, fun h => absurd h nonzero⟩
    | @integer m j exact' pos' below' =>
      rw [Json.sameObject_number_iff exact exact' nonzero, ObjectRef.object.injEq, ← Int64.toInt_inj]
      omega
    | @name x known =>
      simp only [Json.not_sameObject_string, ObjectRef.object.injEq, iff_false]
      omega
  | @name x known =>
    cases h' with
    | none isNone =>
      refine ⟨nofun, fun h => ?_⟩
      exact absurd ((Json.sameObject_iff_of_isNoObject isNone).mp h.symm) nofun
    | @integer m j exact' pos' below' =>
      have hsame : ¬ (Json.string x).SameObject (.number m) := fun h =>
        Json.not_sameObject_string h.symm
      simp only [hsame, ObjectRef.object.injEq, iff_false]
      omega
    | @name y known' =>
      rw [Json.sameObject_string_iff, ObjectRef.object.injEq, Nat.add_left_cancel_iff,
        List.idxOf_inj known]

/-- An entry of a document at some place, and the reference that the loaded subject has there. -/
def LoadedAs (d : SubjectDocument) (s : Subject) (index : Nat) (field : String) (json : Json)
    (ref : ObjectRef) : Prop :=
  ∃ w i, d.instances[index]? = some w ∧ s.instances[index]? = some i ∧
    w.get? field = some json ∧ i.get? field = some (.object ref)

variable {d : SubjectDocument} {s : Subject}

/-- Each entry for a field of a pointer type is loaded as a reference. -/
theorem exists_loadedAs (h : d.toSubject = .ok s) {index : Nat} {w : Dictionary Json}
    {field pointer : String} (hw : d.instances[index]? = some w) (hjson : w.get? field = some json)
    (ht : s.fields.get? field = some (.object pointer)) :
    ∃ ref, d.LoadedAs s index field json ref := by
  obtain ⟨i, hi, hgiven⟩ := getElem?_forall₂ (given_instances h) hw
  obtain ⟨type, value, ht', hgives, hget⟩ := hgiven.of_some field json hjson
  obtain rfl := Option.some.inj (ht.symm.trans ht')
  cases hgives <;> exact ⟨_, w, i, hw, hi, hjson, hget⟩

/-- The names of the objects in a document, each of them the entry of some field. Every reference is
what its entry refers to where they are known. -/
theorem exists_names (h : d.toSubject = .ok s) :
    ∃ names : Identities, names.Nodup ∧
      (∀ name ∈ names, ∃ index field ref, d.LoadedAs s index field (.string name) ref) ∧
      ∀ index field json ref, d.LoadedAs s index field json ref → RefersTo names json ref := by
  let Written (ids : Identities) : Prop := ids.Nodup ∧
    ∀ name ∈ ids, ∃ index field ref, d.LoadedAs s index field (.string name) ref
  have hstep : ∀ ids, ∀ w ∈ d.instances, ∀ field pointer name, w.get? field = some (.string name) →
      s.fields.get? field = some (.object pointer) → Written ids → Written (ids.intern name).2 := by
    rintro ids w hw field pointer name hjson ht ⟨hnodup, hwritten⟩
    refine ⟨Identities.nodup_intern hnodup name, fun other hother => ?_⟩
    obtain hother | rfl := Identities.mem_intern_iff.mp hother
    · exact hwritten other hother
    · obtain ⟨index, hindex⟩ := List.getElem?_of_mem hw
      exact ⟨index, field, exists_loadedAs h hindex hjson ht⟩
  obtain ⟨names, ⟨hnodup, hwritten⟩, hholds⟩ :=
    settled_instances h hstep ⟨List.nodup_nil, nofun⟩
  refine ⟨names, hnodup, hwritten, ?_⟩
  rintro index field json ref ⟨w, i, hw, hi, hjson, hget⟩
  obtain ⟨i', hi', hsettled⟩ := getElem?_forall₂ hholds hw
  obtain rfl := Option.some.inj (hi.symm.trans hi')
  obtain ⟨value, ⟨type, -, hread⟩, hget'⟩ := hsettled.of_some field json hjson
  obtain rfl := Option.some.inj (hget.symm.trans hget')
  exact refersTo_of_fieldValue hread

/-- Objects keep their identity when a document is loaded: wherever two entries for objects stand,
their references are equal exactly if the entries are both for no object, or for one integer, or for
one name. Integers stand for themselves, below the ids of names; and as long as there are not too many
names, all ids have 64 bits. -/
theorem references_keep_identity (d : SubjectDocument) (s : Subject) (h : d.toSubject = .ok s) :
    (∀ index w field json pointer, d.instances[index]? = some w → w.get? field = some json →
      s.fields.get? field = some (.object pointer) → ∃ ref, d.LoadedAs s index field json ref) ∧
    (∀ index field json ref index' field' json' ref', d.LoadedAs s index field json ref →
      d.LoadedAs s index' field' json' ref' → (ref = ref' ↔ json.SameObject json')) ∧
    (∀ index field json ref, d.LoadedAs s index field json ref →
      (ref = .null ↔ json.IsNoObject)) ∧
    (∀ index field n id, d.LoadedAs s index field (.number n) (.object id) →
      ∃ i, n.toInt64? = some i ∧ i.toInt = id ∧ 0 < id ∧ id < Identities.base) ∧
    (∀ index field name id, d.LoadedAs s index field (.string name) (.object id) →
      Identities.base ≤ id) ∧
    ∀ names : List String,
      (∀ index field name ref, d.LoadedAs s index field (.string name) ref → name ∈ names) →
      names.length < UInt64.size - Identities.base →
      ∀ index field json id, d.LoadedAs s index field json (.object id) → id < UInt64.size := by
  obtain ⟨names, hnodup, hwritten, hrefers⟩ := exists_names h
  refine ⟨fun _ _ _ _ _ => exists_loadedAs h,
    fun index field json ref index' field' json' ref' hloaded hloaded' =>
      (hrefers _ _ _ _ hloaded).eq_iff (hrefers _ _ _ _ hloaded'),
    fun index field json ref hloaded => (hrefers _ _ _ _ hloaded).eq_null_iff,
    fun index field n id hloaded => ?_, fun index field name id hloaded => ?_,
    fun all hall hlength index field json id hloaded => ?_⟩
  · cases hrefers _ _ _ _ hloaded with
    | @integer _ i exact pos below => exact ⟨i, exact, by omega, by omega, by omega⟩
  · cases hrefers _ _ _ _ hloaded with
    | name known => exact Nat.le_add_right _ _
  · have hsubset : names ⊆ all := fun name hname => by
      obtain ⟨index, field, ref, hloaded⟩ := hwritten name hname
      exact hall index field name ref hloaded
    have hle : names.length ≤ all.length := (List.subperm_of_subset hnodup hsubset).length_le
    have hbase : Identities.base < UInt64.size := by decide
    cases hrefers _ _ _ _ hloaded with
    | integer exact pos below => omega
    | name known =>
      have hlt := List.idxOf_lt_length_of_mem known
      omega

section Referring

/-- A document with one name in two fields, an integer, and two entries for no object. -/
def referring : SubjectDocument where
  name := "S"
  enums := .empty
  fields := .ofList [("owner", "A*"), ("target", "B*")]
  instances := [
    .ofList [("owner", .string "x"), ("target", .number (.integer 7))],
    .ofList [("owner", .number (.integer 0)), ("target", .string "y")],
    .ofList [("owner", .null), ("target", .string "x")]]

/-- The subject it describes. -/
def referred : Subject where
  name := "S"
  enums := .empty
  fields := .ofList [("owner", .object "A*"), ("target", .object "B*")]
  instances := [
    .ofList [("owner", .object (.object Identities.base)), ("target", .object (.object 7))],
    .ofList [("owner", .object .null), ("target", .object (.object (Identities.base + 1)))],
    .ofList [("owner", .object .null), ("target", .object (.object Identities.base))]]

theorem referring_keep_identity :
    referring.toSubject = .ok referred ∧
      referring.LoadedAs referred 0 "owner" (.string "x") (.object Identities.base) ∧
      referring.LoadedAs referred 2 "target" (.string "x") (.object Identities.base) ∧
      referring.LoadedAs referred 0 "target" (.number (.integer 7)) (.object 7) ∧
      (Json.string "x").SameObject (.string "x") ∧
      ¬ (Json.string "x").SameObject (.number (.integer 7)) ∧
      (Json.number (.integer 0)).SameObject .null := by
  have hloaded : referring.toSubject = .ok referred := rfl
  have hfirst : referring.LoadedAs referred 0 "owner" (.string "x") (.object Identities.base) :=
    ⟨_, _, rfl, rfl, rfl, rfl⟩
  have hagain : referring.LoadedAs referred 2 "target" (.string "x") (.object Identities.base) :=
    ⟨_, _, rfl, rfl, rfl, rfl⟩
  have hseven : referring.LoadedAs referred 0 "target" (.number (.integer 7)) (.object 7) :=
    ⟨_, _, rfl, rfl, rfl, rfl⟩
  have hzero : referring.LoadedAs referred 1 "owner" (.number (.integer 0)) .null :=
    ⟨_, _, rfl, rfl, rfl, rfl⟩
  have hnull : referring.LoadedAs referred 2 "owner" .null .null := ⟨_, _, rfl, rfl, rfl, rfl⟩
  obtain ⟨-, hsame, -⟩ := references_keep_identity referring referred hloaded
  exact ⟨hloaded, hfirst, hagain, hseven, (hsame _ _ _ _ _ _ _ _ hfirst hagain).mp rfl,
    fun h => absurd ((hsame _ _ _ _ _ _ _ _ hfirst hseven).mpr h) (by decide),
    (hsame _ _ _ _ _ _ _ _ hzero hnull).mp rfl⟩

end Referring

end SubjectDocument
end FieldGuard
