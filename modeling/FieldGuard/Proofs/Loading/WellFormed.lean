import FieldGuard.Proofs.Loading.Fitting
import FieldGuard.Proofs.Loading.Instances

/-! Documents that describe a subject. A document describes one exactly if its members are integers,
its fields have types, and its instances have fitting values for declared fields
(`wellFormed_of_toSubject`, `WellFormed.exists_toSubject`). What the subject then holds is what the
document gives. -/
namespace FieldGuard
namespace SubjectDocument

/-- What a document must be like to describe a subject. -/
structure WellFormed (d : SubjectDocument) : Prop where
  members : ∀ type written member n, d.enums.get? type = some written →
    written.get? member = some n → ∃ i, n.toInt64? = some i
  fields : ∀ field name, d.fields.get? field = some name → ∃ type, d.Names name type
  instances : ∀ w ∈ d.instances, ∀ field json, w.get? field = some json →
    ∃ name type, d.fields.get? field = some name ∧ d.Names name type ∧ d.Fits type json

section Stages

variable {enums : Enums} {fields : Dictionary FieldType}

theorem exists_members_iff {type : String} {written : Dictionary JsonNumber} :
    (∃ ms, members type written = .ok ms) ↔ ∀ e ∈ written.entries, ∃ i, e.2.toInt64? = some i := by
  rw [← Dictionary.exists_readBy_iff (R := fun _ n i => JsonNumber.toInt64? n = some i)]
  constructor
  · rintro ⟨ms, h⟩
    obtain ⟨read, hread, -⟩ := members_eq_ok_iff.mp h
    exact ⟨read, hread⟩
  · rintro ⟨read, hread⟩
    exact ⟨_, members_eq_ok_iff.mpr ⟨read, hread, rfl⟩⟩

/-- Fields are declared one after the other, each with its type. -/
theorem declareFields_eq_ok_iff {es : List (String × String)} {loaded : Dictionary FieldType} :
    declareFields enums es fields = .ok loaded ↔
      ∃ read, List.Forall₂ (Dictionary.ReadBy fun _ name type =>
        FieldType.ofName? enums name = some type) es read ∧ loaded = fields.insertAll read := by
  induction es generalizing fields with
  | nil => simp [declareFields, Dictionary.insertAll, eq_comm]
  | cons e rest ih =>
    obtain ⟨field, name⟩ := e
    rw [declareFields]
    cases hname : FieldType.ofName? enums name with
    | none =>
      constructor
      · intro h
        cases h
      · rintro ⟨read, h, -⟩
        cases h with
        | cons hr _ => cases hname.symm.trans hr.2
    | some type =>
      simp only [ih]
      constructor
      · rintro ⟨read, hread, rfl⟩
        exact ⟨(field, type) :: read, .cons ⟨rfl, hname⟩ hread, rfl⟩
      · rintro ⟨read, h, rfl⟩
        cases h with
        | @cons _ r _ read hr hread =>
          obtain ⟨field', type'⟩ := r
          obtain ⟨rfl, hr⟩ := hr
          obtain rfl := Option.some.inj (hname.symm.trans hr)
          exact ⟨read, hread, rfl⟩

variable {d : SubjectDocument}

theorem exists_readInstance
    (henums : ∀ type member, enums.value? type member = d.integer? type member)
    {index : Nat} {es : List (String × Json)}
    (hes : ∀ e ∈ es, ∃ type, fields.get? e.1 = some type ∧ d.Fits type e.2) (ids : Identities)
    (values : Instance) : ∃ r, readInstance enums fields index es ids values = .ok r := by
  induction es generalizing ids values with
  | nil => exact ⟨_, rfl⟩
  | cons e rest ih =>
    obtain ⟨field, json⟩ := e
    obtain ⟨⟨type, ht, value, hvalue⟩, hrest⟩ := List.forall_mem_cons.mp hes
    obtain ⟨⟨value', after⟩, hread⟩ := fieldValue_of_gives henums hvalue ids
    simp only [readInstance, ht, hread]
    exact ih hrest after _

theorem exists_readInstances
    (henums : ∀ type member, enums.value? type member = d.integer? type member)
    {ws : List (Dictionary Json)}
    (hws : ∀ w ∈ ws, ∀ e ∈ w.entries, ∃ type, fields.get? e.1 = some type ∧ d.Fits type e.2)
    (index : Nat) (ids : Identities) : ∃ is, readInstances enums fields index ws ids = .ok is := by
  induction ws generalizing index ids with
  | nil => exact ⟨_, rfl⟩
  | cons w ws ih =>
    obtain ⟨hw, hrest⟩ := List.forall_mem_cons.mp hws
    obtain ⟨⟨i, after⟩, hi⟩ := exists_readInstance henums hw ids .empty
    obtain ⟨is, his⟩ := ih hrest (index + 1) after
    refine ⟨i :: is, Except.bind_eq_ok_iff.mpr ⟨(i, after), hi, ?_⟩⟩
    exact Except.bind_eq_ok_iff.mpr ⟨is, his, rfl⟩

end Stages

section Loaded

variable {d : SubjectDocument} {s : Subject} {enums : Enums} {fields : Dictionary FieldType}

/-- The fields of a subject have the types that the document gives their names. -/
theorem get?_fields (henums : declareEnums d.enums.entries .empty = .ok enums)
    (hfields : declareFields enums d.fields.entries .empty = .ok fields) {field : String}
    {type : FieldType} :
    fields.get? field = some type ↔ ∃ name, d.fields.get? field = some name ∧ d.Names name type := by
  obtain ⟨read, hread, rfl⟩ := declareFields_eq_ok_iff.mp hfields
  obtain ⟨hsome, hnone⟩ := Dictionary.get?_insertAll hread d.fields.distinct .empty field
  simp only [← ofName?_eq_some_iff (contains_enums henums)]
  constructor
  · intro h
    cases hd : d.fields.get? field with
    | none => exact absurd ((hnone hd).symm.trans h) nofun
    | some name =>
      obtain ⟨type', htype, hget⟩ := hsome name hd
      obtain rfl := Option.some.inj (hget.symm.trans h)
      exact ⟨name, rfl, htype⟩
  · rintro ⟨name, hd, htype⟩
    obtain ⟨type', htype', hget⟩ := hsome name hd
    obtain rfl := Option.some.inj (htype.symm.trans htype')
    exact hget

/-- A loaded instance holds the values that the document gives, and no others. -/
structure Given (d : SubjectDocument) (fields : Dictionary FieldType) (written : Dictionary Json)
    (i : Instance) : Prop where
  of_some : ∀ field json, written.get? field = some json →
    ∃ type value, fields.get? field = some type ∧ d.Gives type json value ∧
      i.get? field = some value
  of_none : ∀ field, written.get? field = none → i.get? field = none

theorem given_instances (h : d.toSubject = .ok s) :
    List.Forall₂ (d.Given s.fields) d.instances s.instances := by
  have hvalue := value?_enums (declareEnums_of_toSubject h)
  refine (holds_instances h).imp fun w i hholds => ⟨fun field json hw => ?_, hholds.of_none⟩
  obtain ⟨type, value, before, after, htype, hread, hget⟩ := hholds.of_some field json hw
  exact ⟨type, value, htype, gives_of_fieldValue hvalue hread, hget⟩

theorem wellFormed_of_toSubject (h : d.toSubject = .ok s) : d.WellFormed := by
  obtain ⟨henums, hfields, -, -⟩ := toSubject_eq_ok_iff.mp h
  constructor
  · intro type written member n hwritten hn
    have hms := (Dictionary.exists_loaded_iff declareEnums_eq_ok_iff).mp ⟨_, henums⟩
      (type, written) ((Dictionary.mem_entries_iff _).mpr hwritten)
    exact exists_members_iff.mp hms (member, n) ((Dictionary.mem_entries_iff _).mpr hn)
  · intro field name hname
    obtain ⟨type, htype⟩ := (Dictionary.exists_loaded_iff declareFields_eq_ok_iff).mp ⟨_, hfields⟩
      (field, name) ((Dictionary.mem_entries_iff _).mpr hname)
    exact ⟨type, (ofName?_eq_some_iff (contains_enums henums)).mp htype⟩
  · intro w hw field json hjson
    obtain ⟨i, -, hgiven⟩ := exists_of_forall₂ (given_instances h) hw
    obtain ⟨type, value, htype, hgives, -⟩ := hgiven.of_some field json hjson
    obtain ⟨name, hname, hnames⟩ := (get?_fields henums hfields).mp htype
    exact ⟨name, type, hname, hnames, value, hgives⟩

theorem WellFormed.exists_toSubject (h : d.WellFormed) : ∃ s, d.toSubject = .ok s := by
  obtain ⟨enums, henums⟩ : ∃ enums, declareEnums d.enums.entries .empty = .ok enums := by
    refine (Dictionary.exists_loaded_iff declareEnums_eq_ok_iff).mpr fun e he =>
      exists_members_iff.mpr fun m hm => ?_
    exact h.members e.1 e.2 m.1 m.2 ((Dictionary.mem_entries_iff _).mp he)
      ((Dictionary.mem_entries_iff _).mp hm)
  obtain ⟨fields, hfields⟩ : ∃ fields, declareFields enums d.fields.entries .empty = .ok fields := by
    refine (Dictionary.exists_loaded_iff declareFields_eq_ok_iff).mpr fun e he => ?_
    obtain ⟨type, htype⟩ := h.fields e.1 e.2 ((Dictionary.mem_entries_iff _).mp he)
    exact ⟨type, (ofName?_eq_some_iff (contains_enums henums)).mpr htype⟩
  obtain ⟨instances, hinstances⟩ := exists_readInstances (value?_enums henums)
    (fun w hw e he => by
      obtain ⟨name, type, hname, htype, hfits⟩ :=
        h.instances w hw e.1 e.2 ((Dictionary.mem_entries_iff _).mp he)
      exact ⟨type, (get?_fields henums hfields).mpr ⟨name, hname, htype⟩, hfits⟩) 0 []
  exact ⟨⟨d.name, enums, fields, instances⟩,
    toSubject_eq_ok_iff.mpr ⟨henums, hfields, hinstances, rfl⟩⟩

end Loaded

end SubjectDocument
end FieldGuard
