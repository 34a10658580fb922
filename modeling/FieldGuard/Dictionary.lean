/-! Dictionaries from names to values, kept in the order of their names (by bytes, which for UTF-8
is the order of characters). Their view is the lookup `get?`. -/
namespace FieldGuard

/-- Entries in strictly increasing order of their names. -/
structure Dictionary (α : Type) where
  entries : List (String × α)
  sorted : entries.Pairwise fun a b => a.1 < b.1 := by simp

namespace Dictionary

variable {α β : Type}

def empty : Dictionary α where
  entries := []

/-- Puts an entry at its place, over an older one of the same name. -/
def put (name : String) (value : α) : List (String × α) → List (String × α)
  | [] => [(name, value)]
  | (k, v) :: rest =>
    if name < k then (name, value) :: (k, v) :: rest
    else if k < name then (k, v) :: put name value rest
    else (name, value) :: rest

theorem mem_put {name : String} {value : α} {es : List (String × α)} {e : String × α}
    (h : e ∈ put name value es) : e = (name, value) ∨ e ∈ es := by
  induction es with
  | nil => simpa [put] using h
  | cons x rest ih =>
    obtain ⟨k, v⟩ := x
    unfold put at h
    split at h
    · simpa using h
    · split at h
      · rcases List.mem_cons.1 h with rfl | h
        · simp
        · rcases ih h with rfl | h <;> simp_all
      · rcases List.mem_cons.1 h with rfl | h <;> simp_all

theorem le_antisymm_of_not_lt {a b : String} (h : ¬a < b) (h' : ¬b < a) : a = b :=
  String.le_antisymm (String.not_lt.1 h') (String.not_lt.1 h)

theorem sorted_put (name : String) (value : α) {es : List (String × α)}
    (h : es.Pairwise fun a b => a.1 < b.1) :
    (put name value es).Pairwise fun a b => a.1 < b.1 := by
  induction es with
  | nil => simp [put]
  | cons x rest ih =>
    obtain ⟨k, v⟩ := x
    obtain ⟨hx, hr⟩ := List.pairwise_cons.1 h
    unfold put
    split
    · rename_i hk
      refine List.pairwise_cons.2 ⟨fun e he => ?_, h⟩
      rcases List.mem_cons.1 he with rfl | he
      · exact hk
      · exact String.lt_trans hk (hx e he)
    · split
      · rename_i hk
        refine List.pairwise_cons.2 ⟨fun e he => ?_, ih hr⟩
        rcases mem_put he with rfl | he
        · exact hk
        · exact hx e he
      · rename_i h₁ h₂
        obtain rfl := le_antisymm_of_not_lt h₁ h₂
        exact List.pairwise_cons.2 ⟨hx, hr⟩

/-- The dictionary with one entry set; an older entry of the same name goes. -/
def insert (d : Dictionary α) (name : String) (value : α) : Dictionary α where
  entries := put name value d.entries
  sorted := sorted_put name value d.sorted

/-- The dictionary without the entry of one name. -/
def erase (d : Dictionary α) (name : String) : Dictionary α where
  entries := d.entries.filter (·.1 != name)
  sorted := d.sorted.filter _

def get? (d : Dictionary α) (name : String) : Option α :=
  d.entries.lookup name

def contains (d : Dictionary α) (name : String) : Bool :=
  (d.get? name).isSome

/-- The names in order. -/
def names (d : Dictionary α) : List String :=
  d.entries.map (·.1)

/-- Of entries with the same name the last is kept. -/
def ofList (es : List (String × α)) : Dictionary α :=
  es.foldl (fun d e => d.insert e.1 e.2) empty

/-- Every value replaced by one computed from it. -/
def map (f : α → β) (d : Dictionary α) : Dictionary β where
  entries := d.entries.map fun e => (e.1, f e.2)
  sorted := List.pairwise_map.2 d.sorted

@[ext] theorem ext {d e : Dictionary α} (h : d.entries = e.entries) : d = e := by
  cases d; cases e; simp_all

theorem lookup_cons_if (k : String) (v : α) (es : List (String × α)) (name : String) :
    ((k, v) :: es).lookup name = if name = k then some v else es.lookup name := by
  by_cases h : name = k
  · simp [h]
  · rw [List.lookup_cons, beq_eq_false_iff_ne.2 h, if_neg h]

/-- Where no two entries have one name, a lookup finds every entry. -/
theorem lookup_eq_some_iff_mem {es : List (String × α)} (h : es.Pairwise fun a b => a.1 ≠ b.1)
    {name : String} {value : α} : es.lookup name = some value ↔ (name, value) ∈ es := by
  induction es with
  | nil => simp
  | cons x rest ih =>
    obtain ⟨k, v⟩ := x
    obtain ⟨hx, hr⟩ := List.pairwise_cons.1 h
    rw [lookup_cons_if, List.mem_cons, ← ih hr]
    by_cases hk : name = k
    · subst hk
      have hnone : rest.lookup name ≠ some value := fun hv => hx _ ((ih hr).1 hv) rfl
      simp [hnone, eq_comm]
    · simp [hk]

theorem distinct (d : Dictionary α) : d.entries.Pairwise fun a b => a.1 ≠ b.1 :=
  d.sorted.imp fun h => String.ne_of_lt h

theorem mem_entries_iff (d : Dictionary α) {name : String} {value : α} :
    (name, value) ∈ d.entries ↔ d.get? name = some value :=
  (lookup_eq_some_iff_mem d.distinct).symm

theorem lookup_put (es : List (String × α)) (name other : String) (value : α) :
    (put name value es).lookup other = if other = name then some value else es.lookup other := by
  induction es with
  | nil => simp [put, lookup_cons_if]
  | cons x rest ih =>
    obtain ⟨k, v⟩ := x
    unfold put
    split
    · simp [lookup_cons_if]
    · split
      · rename_i hk
        have : k ≠ name := fun e => String.lt_irrefl _ (e ▸ hk)
        by_cases h : other = k <;> simp_all [lookup_cons_if]
      · rename_i h₁ h₂
        obtain rfl := le_antisymm_of_not_lt h₁ h₂
        by_cases h : other = name <;> simp [lookup_cons_if, h]

@[simp] theorem get?_insert (d : Dictionary α) (name other : String) (value : α) :
    (d.insert name value).get? other = if other = name then some value else d.get? other :=
  lookup_put d.entries name other value

theorem lookup_filter_ne (es : List (String × α)) (name other : String) :
    (es.filter (·.1 != name)).lookup other = if other = name then none else es.lookup other := by
  induction es with
  | nil => simp
  | cons x rest ih =>
    obtain ⟨k, v⟩ := x
    by_cases hk : k = name <;> grind [lookup_cons_if]

@[simp] theorem get?_erase (d : Dictionary α) (name other : String) :
    (d.erase name).get? other = if other = name then none else d.get? other :=
  lookup_filter_ne d.entries name other

instance [DecidableEq α] : DecidableEq (Dictionary α) := fun d e =>
  if h : d.entries = e.entries then isTrue (ext h) else isFalse fun he => h (he ▸ rfl)

end Dictionary

example : (Dictionary.ofList [("b", 1), ("a", 2), ("b", 3)]).entries = [("a", 2), ("b", 3)] := by
  decide

end FieldGuard
