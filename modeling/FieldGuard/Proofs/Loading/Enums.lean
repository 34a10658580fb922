import FieldGuard.Proofs.Loading.Entries
import FieldGuard.Subject.Document

/-! The enums of a loaded subject. A member stands for the integer that the document writes for it.
Members are kept in the order of their integers, and the sort is stable; so of the members with one
integer, which stand in the order of their names in the document, the first name is the one found.
-/
namespace FieldGuard

section Reading

variable {ε α β : Type}

/-- Where a sequence of readings succeeds, each of them does. -/
theorem Except.bind_eq_ok_iff {x : Except ε α} {f : α → Except ε β} {b : β} :
    (x >>= f) = .ok b ↔ ∃ a, x = .ok a ∧ f a = .ok b := by
  cases x <;> simp [bind, Except.bind]

/-- Reading a list reads each entry, in order. -/
theorem Except.mapM_eq_ok_iff {f : α → Except ε β} {xs : List α} {ys : List β} :
    xs.mapM f = .ok ys ↔ List.Forall₂ (fun x y => f x = .ok y) xs ys := by
  induction xs generalizing ys with
  | nil => cases ys <;> simp [pure, Except.pure]
  | cons x xs ih =>
    rw [List.mapM_cons]
    cases hx : f x with
    | error e => cases ys <;> simp [bind, Except.bind, hx]
    | ok y =>
      cases hxs : xs.mapM f with
      | error e => cases ys <;> simp [bind, Except.bind, ← ih, hx, hxs]
      | ok rest => cases ys <;> simp [bind, Except.bind, pure, Except.pure, ← ih, hx, hxs]

end Reading

section Sorting

variable {α : Type} {le : α → α → Bool}

/-- A stable sort keeps the order of entries that are all alike to it. -/
theorem filter_mergeSort (trans : ∀ a b c, le a b = true → le b c = true → le a c = true)
    (total : ∀ a b, (le a b || le b a) = true) {p : α → Bool}
    (alike : ∀ a b, p a = true → p b = true → le a b = true) (xs : List α) :
    (xs.mergeSort le).filter p = xs.filter p := by
  -- What satisfies `p` keeps its order in the sorted list, and nothing is lost or added.
  have hpair : (xs.filter p).Pairwise fun a b => le a b = true :=
    List.pairwise_iff_forall_sublist.mpr fun h =>
      have hmem := h.subset
      alike _ _ (List.mem_filter.mp (hmem List.mem_cons_self)).2
        (List.mem_filter.mp (hmem (List.mem_cons_of_mem _ List.mem_cons_self))).2
  have hsub : (xs.filter p).Sublist ((xs.mergeSort le).filter p) := by
    simpa using (List.sublist_mergeSort trans total hpair List.filter_sublist).filter p
  have hlen : (xs.filter p).length = ((xs.mergeSort le).filter p).length :=
    ((List.mergeSort_perm xs le).filter p).length_eq.symm
  exact (hsub.eq_of_length hlen).symm

/-- In the order of their names, the first entry found has the least name. -/
theorem find?_eq_some_iff_least {es : List (String × α)} (h : es.Pairwise fun a b => a.1 < b.1)
    {p : String × α → Bool} {e : String × α} :
    es.find? p = some e ↔ (e ∈ es ∧ p e = true) ∧ ∀ x ∈ es, p x = true → e.1 ≤ x.1 := by
  induction es with
  | nil => simp
  | cons y rest ih =>
    obtain ⟨hy, hr⟩ := List.pairwise_cons.mp h
    by_cases hp : p y = true
    · rw [List.find?_cons_of_pos hp]
      constructor
      · rintro ⟨⟩
        refine ⟨⟨List.mem_cons_self, hp⟩, List.forall_mem_cons.mpr ⟨fun _ => String.le_refl _, ?_⟩⟩
        exact fun x hx _ => Std.le_of_lt (hy x hx)
      · rintro ⟨⟨he, hpe⟩, hleast⟩
        obtain rfl | he := List.mem_cons.mp he
        · rfl
        · have hle := hleast y List.mem_cons_self hp
          exact absurd (hy e he) (String.not_lt.mpr hle)
    · rw [List.find?_cons_of_neg hp, ih hr]
      constructor
      · rintro ⟨⟨he, hpe⟩, hleast⟩
        exact ⟨⟨List.mem_cons_of_mem y he, hpe⟩,
          List.forall_mem_cons.mpr ⟨fun hpy => absurd hpy hp, hleast⟩⟩
      · rintro ⟨⟨he, hpe⟩, hleast⟩
        have hne : e ≠ y := fun heq => hp (heq ▸ hpe)
        exact ⟨⟨List.mem_of_ne_of_mem hne he, hpe⟩, (List.forall_mem_cons.mp hleast).2⟩

end Sorting

namespace SubjectDocument

/-- The integer that a document writes for a member of an enum. -/
def integer? (d : SubjectDocument) (type member : String) : Option Int64 :=
  (d.enums.get? type).bind fun written => (written.get? member).bind JsonNumber.toInt64?

/-- A member whose name comes first of all members with its integer. -/
def Leads (d : SubjectDocument) (type member : String) (i : Int64) : Prop :=
  d.integer? type member = some i ∧ ∀ other, d.integer? type other = some i → member ≤ other

/-- No two members lead for one integer. -/
theorem Leads.unique {d : SubjectDocument} {type member other : String} {i : Int64}
    (h : d.Leads type member i) (h' : d.Leads type other i) : member = other :=
  String.le_antisymm (h.2 other h'.1) (h'.2 member h.1)

/-- A member as written, and as read. -/
def ReadAs (e : String × JsonNumber) (r : String × Int64) : Prop :=
  r.1 = e.1 ∧ e.2.toInt64? = some r.2

/-- Members that can be read, in the order of their integers. -/
theorem members_eq_ok_iff {type : String} {written : Dictionary JsonNumber} {ms : Members} :
    members type written = .ok ms ↔
      ∃ read, List.Forall₂ ReadAs written.entries read ∧
        ms = read.mergeSort fun a b => a.2 ≤ b.2 := by
  unfold members
  rw [Except.bind_eq_ok_iff]
  refine exists_congr fun read => and_congr (Except.mapM_eq_ok_iff.trans ?_)
    ⟨fun h => (Except.ok.inj h).symm, fun h => congrArg Except.ok h.symm⟩
  refine iff_of_eq (congrArg (List.Forall₂ · _ _) (funext fun e => funext fun r => ?_))
  obtain ⟨member, n⟩ := e
  obtain ⟨name, i⟩ := r
  cases hn : n.toInt64? with
  | none => simp [ReadAs, hn]
  | some j => simp [ReadAs, hn, eq_comm]

/-- What was read of a member is what its entry gives. -/
theorem lookup_of_readAs {es : List (String × JsonNumber)} {read : Members}
    (h : List.Forall₂ ReadAs es read) (member : String) :
    read.lookup member = (es.lookup member).bind JsonNumber.toInt64? := by
  induction h with
  | nil => rfl
  | @cons e r es read her _ ih =>
    obtain ⟨name, n⟩ := e
    obtain ⟨name', i⟩ := r
    obtain ⟨rfl, hn⟩ := her
    rw [Dictionary.lookup_cons_if, Dictionary.lookup_cons_if, ih]
    split
    · exact hn.symm
    · rfl

theorem names_of_readAs {es : List (String × JsonNumber)} {read : Members}
    (h : List.Forall₂ ReadAs es read) : read.map (·.1) = es.map (·.1) := by
  induction h with
  | nil => rfl
  | cons her _ ih => rw [List.map_cons, List.map_cons, ih, her.1]

/-- Members stand in the document in the order of their names, and so they are read. -/
theorem sorted_of_readAs {written : Dictionary JsonNumber} {read : Members}
    (h : List.Forall₂ ReadAs written.entries read) : read.Pairwise fun a b => a.1 < b.1 := by
  rw [← List.pairwise_map, names_of_readAs h, List.pairwise_map]
  exact written.sorted

section Members

theorem integer_le_trans (a b c : String × Int64) (hab : decide (a.2 ≤ b.2) = true)
    (hbc : decide (b.2 ≤ c.2) = true) : decide (a.2 ≤ c.2) = true :=
  decide_eq_true (Int64.le_trans (of_decide_eq_true hab) (of_decide_eq_true hbc))

theorem integer_le_total (a b : String × Int64) :
    (decide (a.2 ≤ b.2) || decide (b.2 ≤ a.2)) = true := by
  simpa using Int64.le_total a.2 b.2

/-- Members with one integer keep their order when members are ordered by integer. -/
theorem filter_sorted_members (read : Members) (i : Int64) :
    (read.mergeSort fun a b => a.2 ≤ b.2).filter (·.2 == i) = read.filter (·.2 == i) := by
  refine filter_mergeSort integer_le_trans integer_le_total (fun a b ha hb => ?_) read
  rw [eq_of_beq ha, eq_of_beq hb]
  exact decide_eq_true (Int64.le_refl i)

variable {type : String} {written : Dictionary JsonNumber} {ms : Members}

/-- The order of the integers has no part in what a member stands for. -/
theorem lookup_members (h : members type written = .ok ms) (member : String) :
    ms.lookup member = (written.get? member).bind JsonNumber.toInt64? := by
  obtain ⟨read, hread, rfl⟩ := members_eq_ok_iff.mp h
  have hdistinct : read.Pairwise fun a b => a.1 ≠ b.1 :=
    (sorted_of_readAs hread).imp fun h => String.ne_of_lt h
  have hperm := List.mergeSort_perm read fun a b => a.2 ≤ b.2
  have hdistinct' : (read.mergeSort fun a b => a.2 ≤ b.2).Pairwise fun a b => a.1 ≠ b.1 :=
    (hperm.pairwise_iff fun h => h.symm).mpr hdistinct
  rw [Dictionary.get?, ← lookup_of_readAs hread]
  apply Option.ext
  intro i
  rw [Dictionary.lookup_eq_some_iff_mem hdistinct, Dictionary.lookup_eq_some_iff_mem hdistinct',
    hperm.mem_iff]

/-- The first member with an integer has the least name. -/
theorem find?_members (h : members type written = .ok ms) {i : Int64} {member : String} :
    (ms.find? (·.2 == i)).map (·.1) = some member ↔
      ms.lookup member = some i ∧ ∀ other, ms.lookup other = some i → member ≤ other := by
  have hlookup := lookup_members h
  obtain ⟨read, hread, rfl⟩ := members_eq_ok_iff.mp h
  have hsorted := sorted_of_readAs hread
  have hmem (name : String) (j : Int64) :
      (name, j) ∈ read ↔ (read.mergeSort fun a b => a.2 ≤ b.2).lookup name = some j := by
    rw [hlookup, Dictionary.get?, ← lookup_of_readAs hread,
      Dictionary.lookup_eq_some_iff_mem (hsorted.imp fun h => String.ne_of_lt h)]
  have hfind : (read.mergeSort fun a b => a.2 ≤ b.2).find? (·.2 == i) = read.find? (·.2 == i) := by
    rw [← List.head?_filter, filter_sorted_members, List.head?_filter]
  rw [hfind, Option.map_eq_some_iff]
  constructor
  · rintro ⟨⟨name, j⟩, hf, rfl⟩
    obtain ⟨⟨he, hj⟩, hleast⟩ := (find?_eq_some_iff_least hsorted).mp hf
    obtain rfl : j = i := by simpa using hj
    exact ⟨(hmem name j).mp he, fun other ho => hleast _ ((hmem other j).mpr ho) (by simp)⟩
  · rintro ⟨hm, hleast⟩
    refine ⟨(member, i), (find?_eq_some_iff_least hsorted).mpr ⟨⟨(hmem member i).mpr hm, by simp⟩, ?_⟩,
      rfl⟩
    rintro ⟨other, j⟩ he hj
    obtain rfl : j = i := by simpa using hj
    exact hleast other ((hmem other j).mp he)

/-- Members are ordered by integer, and those with one integer by name. -/
theorem ordered_members (h : members type written = .ok ms) :
    ms.Pairwise fun a b => a.2 < b.2 ∨ a.2 = b.2 ∧ a.1 < b.1 := by
  obtain ⟨read, hread, rfl⟩ := members_eq_ok_iff.mp h
  have hnames := sorted_of_readAs hread
  have hsorted := List.pairwise_mergeSort integer_le_trans integer_le_total read
  refine List.pairwise_iff_forall_sublist.mpr fun {a b} hab => ?_
  have hle : a.2 ≤ b.2 := of_decide_eq_true (List.pairwise_iff_forall_sublist.mp hsorted hab)
  by_cases heq : a.2 = b.2
  · have hread : [a, b].Sublist (read.filter (·.2 == a.2)) := by
      rw [← filter_sorted_members]
      simpa [heq] using hab.filter (·.2 == a.2)
    have hsub := hread.trans List.filter_sublist
    exact .inr ⟨heq, List.pairwise_iff_forall_sublist.mp hnames hsub⟩
  · exact .inl (Int64.lt_of_le_of_ne hle heq)

end Members

/-- Enums are declared one after the other, each with its members. -/
theorem declareEnums_eq_ok_iff {es : List (String × Dictionary JsonNumber)} {enums loaded : Enums} :
    declareEnums es enums = .ok loaded ↔
      ∃ read, List.Forall₂ (Dictionary.ReadBy fun type written ms => members type written = .ok ms)
        es read ∧ loaded = enums.insertAll read := by
  induction es generalizing enums with
  | nil => simp [declareEnums, Dictionary.insertAll, eq_comm]
  | cons e rest ih =>
    obtain ⟨type, written⟩ := e
    rw [declareEnums, Except.bind_eq_ok_iff]
    simp only [ih]
    constructor
    · rintro ⟨ms, hms, read, hread, rfl⟩
      exact ⟨(type, ms) :: read, .cons ⟨rfl, hms⟩ hread, rfl⟩
    · rintro ⟨read, h, rfl⟩
      cases h with
      | @cons _ r _ read hr hread =>
        obtain ⟨name, ms⟩ := r
        obtain ⟨rfl, hms⟩ := hr
        exact ⟨ms, hms, read, hread, rfl⟩

/-- The parts of a subject are read from the parts of its document. -/
theorem toSubject_eq_ok_iff {d : SubjectDocument} {s : Subject} :
    d.toSubject = .ok s ↔
      declareEnums d.enums.entries .empty = .ok s.enums ∧
        declareFields s.enums d.fields.entries .empty = .ok s.fields ∧
        readInstances s.enums s.fields 0 d.instances [] = .ok s.instances ∧ s.name = d.name := by
  constructor
  · intro h
    obtain ⟨enums, henums, h⟩ := Except.bind_eq_ok_iff.mp h
    obtain ⟨fields, hfields, h⟩ := Except.bind_eq_ok_iff.mp h
    obtain ⟨instances, hinstances, h⟩ := Except.bind_eq_ok_iff.mp h
    obtain rfl := Except.ok.inj h
    exact ⟨henums, hfields, hinstances, rfl⟩
  · rintro ⟨henums, hfields, hinstances, hname⟩
    refine Except.bind_eq_ok_iff.mpr ⟨s.enums, henums, ?_⟩
    refine Except.bind_eq_ok_iff.mpr ⟨s.fields, hfields, ?_⟩
    refine Except.bind_eq_ok_iff.mpr ⟨s.instances, hinstances, ?_⟩
    exact congrArg Except.ok (hname ▸ rfl)

variable {d : SubjectDocument} {s : Subject} {enums : Enums}

theorem declareEnums_of_toSubject (h : d.toSubject = .ok s) :
    declareEnums d.enums.entries .empty = .ok s.enums :=
  (toSubject_eq_ok_iff.mp h).1

theorem get?_enums (h : declareEnums d.enums.entries .empty = .ok enums) (type : String) :
    (∀ written, d.enums.get? type = some written →
      ∃ ms, members type written = .ok ms ∧ enums.get? type = some ms) ∧
    (d.enums.get? type = none → enums.get? type = none) := by
  obtain ⟨read, hread, rfl⟩ := declareEnums_eq_ok_iff.mp h
  exact Dictionary.get?_insertAll hread d.enums.distinct .empty type

theorem contains_enums (h : declareEnums d.enums.entries .empty = .ok enums) (type : String) :
    enums.contains type = d.enums.contains type := by
  obtain ⟨hsome, hnone⟩ := get?_enums h type
  unfold Dictionary.contains
  cases hd : d.enums.get? type with
  | none => rw [hnone hd]; rfl
  | some written =>
    obtain ⟨ms, -, hget⟩ := hsome written hd
    rw [hget]; rfl

/-- A member of a loaded subject stands for the integer that the document writes for it. -/
theorem value?_enums (h : declareEnums d.enums.entries .empty = .ok enums)
    (type member : String) : enums.value? type member = d.integer? type member := by
  obtain ⟨hsome, hnone⟩ := get?_enums h type
  unfold Enums.value? integer?
  cases hd : d.enums.get? type with
  | none => rw [hnone hd, Option.bind_none, Option.bind_none]
  | some written =>
    obtain ⟨ms, hms, hget⟩ := hsome written hd
    rw [hget, Option.bind_some, Option.bind_some, lookup_members hms]

/-- An integer of a loaded subject is shown as the member that leads for it. -/
theorem member?_enums_eq_some_iff (h : d.toSubject = .ok s) {type member : String} {i : Int64} :
    s.enums.member? type i = some member ↔ d.Leads type member i := by
  have henums := declareEnums_of_toSubject h
  obtain ⟨hsome, hnone⟩ := get?_enums henums type
  have hvalue := value?_enums henums type
  unfold Leads
  simp only [← hvalue]
  unfold Enums.member? Enums.value?
  cases hd : d.enums.get? type with
  | none => simp [hnone hd]
  | some written =>
    obtain ⟨ms, hms, hget⟩ := hsome written hd
    simp only [hget, Option.bind_some]
    exact find?_members hms

end SubjectDocument
end FieldGuard
