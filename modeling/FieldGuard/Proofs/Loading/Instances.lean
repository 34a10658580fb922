import FieldGuard.Proofs.Loading.Enums
import FieldGuard.Proofs.Loading.Identities

/-! The instances of a loaded subject. Each stands for the instance at its place in the document, and
holds the values that are written there and no others. Each value is what its entry is read as where
all names of objects in the document are known (`settled_instances`). -/
namespace FieldGuard
namespace SubjectDocument

/-- What the entry of a field is read as, where the names of objects are known already. -/
def Settled (enums : Enums) (fields : Dictionary FieldType) (final : Identities) (field : String)
    (json : Json) (value : FieldValue) : Prop :=
  ∃ type, fields.get? field = some type ∧ fieldValue enums final type json = .ok (value, final)

/-- An instance with the values of the entries that are written, and nothing for other fields. -/
structure HoldsSettled (enums : Enums) (fields : Dictionary FieldType) (final : Identities)
    (written : Dictionary Json) (i : Instance) : Prop where
  of_some : ∀ field json, written.get? field = some json →
    ∃ value, Settled enums fields final field json value ∧ i.get? field = some value
  of_none : ∀ field, written.get? field = none → i.get? field = none

/-- An instance that holds what is written: for each field the value that its type gives, and nothing
for a field that is not written. The identities met before have a part in object references only. -/
structure Holds (enums : Enums) (fields : Dictionary FieldType) (written : Dictionary Json)
    (i : Instance) : Prop where
  of_some : ∀ field json, written.get? field = some json →
    ∃ type value before after, fields.get? field = some type ∧
      fieldValue enums before type json = .ok (value, after) ∧ i.get? field = some value
  of_none : ∀ field, written.get? field = none → i.get? field = none

variable {enums : Enums} {fields : Dictionary FieldType} {index : Nat}

theorem HoldsSettled.holds {final : Identities} {written : Dictionary Json} {i : Instance}
    (h : HoldsSettled enums fields final written i) : Holds enums fields written i where
  of_some field json hw := by
    obtain ⟨value, ⟨type, ht, hread⟩, hget⟩ := h.of_some field json hw
    exact ⟨type, value, final, final, ht, hread, hget⟩
  of_none := h.of_none

/-- The entries of an instance are read one by one, each into the field of its name. A condition on
the names of objects that every name in the entries keeps holds of the names met in the end. -/
theorem settled_readInstance {P : Identities → Prop} {es : List (String × Json)}
    {ids after : Identities} {values i : Instance}
    (hstep : ∀ ids field pointer name, (field, .string name) ∈ es →
      fields.get? field = some (.object pointer) → P ids → P (ids.intern name).2)
    (h : readInstance enums fields index es ids values = .ok (i, after)) (hP : P ids) :
    P after ∧ ids <+: after ∧ ∀ final, after <+: final → ∃ read,
      List.Forall₂ (Dictionary.ReadBy (Settled enums fields final)) es read ∧
        i = values.insertAll read := by
  induction es generalizing ids values with
  | nil =>
    obtain ⟨rfl, rfl⟩ : values = i ∧ ids = after := by simpa [readInstance] using h
    exact ⟨hP, List.prefix_rfl, fun _ _ => ⟨[], .nil, rfl⟩⟩
  | cons e rest ih =>
    obtain ⟨field, json⟩ := e
    unfold readInstance at h
    cases ht : fields.get? field with
    | none => simp [ht] at h
    | some type =>
      cases hv : fieldValue enums ids type json with
      | error cause => simp [ht, hv] at h
      | ok read =>
        obtain ⟨value, next⟩ := read
        simp only [ht, hv] at h
        have hnext : P next := by
          obtain ⟨rfl, -⟩ | ⟨pointer, name, rfl, rfl, -, rfl⟩ := fieldValue_cases hv
          · exact hP
          · exact hstep ids field pointer name List.mem_cons_self ht hP
        obtain ⟨hafter, hgrown, hread⟩ :=
          ih (fun ids field pointer name he => hstep ids field pointer name
            (List.mem_cons_of_mem _ he)) h hnext
        refine ⟨hafter, (prefix_of_fieldValue hv).trans hgrown, fun final hfinal => ?_⟩
        obtain ⟨read, hforall, rfl⟩ := hread final hfinal
        have hsettled := fieldValue_settled hv (hgrown.trans hfinal)
        exact ⟨(field, value) :: read, .cons ⟨rfl, type, ht, hsettled⟩ hforall, rfl⟩

/-- The instances read stand in the places of those written. -/
theorem settled_readInstances {P : Identities → Prop} {ws : List (Dictionary Json)}
    {ids : Identities} {is : List Instance}
    (hstep : ∀ ids, ∀ w ∈ ws, ∀ field pointer name, w.get? field = some (.string name) →
      fields.get? field = some (.object pointer) → P ids → P (ids.intern name).2)
    (h : readInstances enums fields index ws ids = .ok is) (hP : P ids) :
    ∃ final, P final ∧ ids <+: final ∧ List.Forall₂ (HoldsSettled enums fields final) ws is := by
  induction ws generalizing index ids is with
  | nil =>
    obtain rfl : [] = is := Except.ok.inj h
    exact ⟨ids, hP, List.prefix_rfl, .nil⟩
  | cons w ws ih =>
    obtain ⟨⟨i, after⟩, hi, h⟩ := Except.bind_eq_ok_iff.mp h
    obtain ⟨rest, hrest, h⟩ := Except.bind_eq_ok_iff.mp h
    obtain rfl : i :: rest = is := Except.ok.inj h
    obtain ⟨hafter, hgrown, hread⟩ := settled_readInstance (fun ids field pointer name he =>
      hstep ids w List.mem_cons_self field pointer name ((w.mem_entries_iff).mp he)) hi hP
    obtain ⟨final, hfinal, hle, hholds⟩ :=
      ih (fun ids w hw => hstep ids w (List.mem_cons_of_mem _ hw)) hrest hafter
    obtain ⟨read, hforall, rfl⟩ := hread final hle
    have hget := Dictionary.get?_insertAll hforall w.distinct .empty
    exact ⟨final, hfinal, hgrown.trans hle,
      .cons ⟨fun field => (hget field).1, fun field => (hget field).2⟩ hholds⟩

theorem settled_instances {P : Identities → Prop} {d : SubjectDocument} {s : Subject}
    (h : d.toSubject = .ok s)
    (hstep : ∀ ids, ∀ w ∈ d.instances, ∀ field pointer name, w.get? field = some (.string name) →
      s.fields.get? field = some (.object pointer) → P ids → P (ids.intern name).2) (hP : P []) :
    ∃ final, P final ∧ List.Forall₂ (HoldsSettled s.enums s.fields final) d.instances s.instances := by
  obtain ⟨final, hfinal, -, hholds⟩ := settled_readInstances hstep (toSubject_eq_ok_iff.mp h).2.2.1 hP
  exact ⟨final, hfinal, hholds⟩

theorem holds_instances {d : SubjectDocument} {s : Subject} (h : d.toSubject = .ok s) :
    List.Forall₂ (Holds s.enums s.fields) d.instances s.instances := by
  obtain ⟨final, -, hholds⟩ :=
    settled_instances (P := fun _ => True) h (fun _ _ _ _ _ _ _ _ _ => trivial) trivial
  exact hholds.imp fun _ _ => HoldsSettled.holds

/-- Every instance stands for one that is written. -/
theorem exists_written {ws : List (Dictionary Json)} {is : List Instance}
    (h : List.Forall₂ (Holds enums fields) ws is) {i : Instance} (hi : i ∈ is) :
    ∃ w ∈ ws, Holds enums fields w i :=
  exists_of_forall₂ (List.Forall₂.flip h) hi

end SubjectDocument
end FieldGuard
