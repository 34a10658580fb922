import FieldGuard.Subject.Selection

/-! Agreement of a list of values: what it takes, and what is left of it when values are dropped. A
comparison up to a tolerance is no equivalence, so the first value has to stay, or all have to be
equal. -/
namespace FieldGuard.Agreement

variable {α : Type} {same : α → α → Bool} {values sub : List (Option α)} {first v : α}

theorem toOption_withFirst_eq_some_iff :
    (withFirst same first values).toOption = some v ↔
      first = v ∧ ∀ x ∈ values, ∃ a, x = some a ∧ same v a = true := by
  induction values with
  | nil => simp [withFirst, toOption]
  | cons x rest ih =>
    cases x with
    | none => simp [withFirst, toOption]
    | some a =>
      by_cases h : same first a = true
      · rw [withFirst, if_pos h, ih]
        constructor
        · rintro ⟨rfl, hrest⟩
          exact ⟨rfl, List.forall_mem_cons.mpr ⟨⟨a, rfl, h⟩, hrest⟩⟩
        · rintro ⟨rfl, hall⟩
          exact ⟨rfl, (List.forall_mem_cons.mp hall).2⟩
      · rw [withFirst, if_neg h]
        constructor
        · intro hnone
          cases hnone
        · rintro ⟨rfl, hall⟩
          obtain ⟨b, hb, hsame⟩ := hall (some a) List.mem_cons_self
          cases hb
          exact absurd hsame h

/-- Values agree when all are there and the first is the same as each other one; it is what they
agree on. -/
theorem toOption_of_eq_some_iff :
    (of same values).toOption = some v ↔
      ∃ rest, values = some v :: rest ∧ ∀ x ∈ rest, ∃ a, x = some a ∧ same v a = true := by
  match values with
  | [] => simp [of, toOption]
  | none :: rest => simp [of, toOption]
  | some a :: rest =>
    rw [of, toOption_withFirst_eq_some_iff]
    constructor
    · rintro ⟨rfl, h⟩
      exact ⟨rest, rfl, h⟩
    · rintro ⟨rest', heq, h⟩
      obtain ⟨ha, rfl⟩ := List.cons.inj heq
      exact ⟨Option.some.inj ha, h⟩

/-- There is no agreement on nothing, with a value missing, or with one that differs from the first.
-/
theorem toOption_of_eq_none_iff :
    (of same values).toOption = none ↔
      values = [] ∨ none ∈ values ∨
        ∃ a rest b, values = some a :: rest ∧ some b ∈ rest ∧ same a b = false := by
  match values with
  | [] => simp [of, toOption]
  | none :: rest => simp [of, toOption]
  | some a :: rest =>
    by_cases hall : ∀ x ∈ rest, ∃ b, x = some b ∧ same a b = true
    · have hagree : (of same (some a :: rest)).toOption = some a :=
        toOption_of_eq_some_iff.mpr ⟨rest, rfl, hall⟩
      rw [hagree]
      refine ⟨nofun, ?_⟩
      rintro (h | h | ⟨a', rest', b, heq, hb, hsame⟩)
      · cases h
      · obtain ⟨b, hb, -⟩ := hall none (by simpa using h)
        cases hb
      · obtain ⟨ha, rfl⟩ := List.cons.inj heq
        obtain rfl := Option.some.inj ha
        obtain ⟨b', hb', hsame'⟩ := hall (some b) hb
        obtain rfl := Option.some.inj hb'
        exact absurd (hsame.symm.trans hsame') nofun
    · have hnone : (of same (some a :: rest)).toOption = none := by
        refine Option.eq_none_iff_forall_ne_some.mpr fun v hv => hall ?_
        obtain ⟨rest', heq, hrest⟩ := toOption_of_eq_some_iff.mp hv
        obtain ⟨ha, rfl⟩ := List.cons.inj heq
        exact Option.some.inj ha ▸ hrest
      refine ⟨fun _ => ?_, fun _ => hnone⟩
      obtain ⟨x, hx⟩ := Classical.not_forall.mp hall
      obtain ⟨hx, hdiffers⟩ := Classical.not_imp.mp hx
      cases x with
      | none => exact .inr (.inl (List.mem_cons_of_mem _ hx))
      | some b =>
        refine .inr (.inr ⟨a, rest, b, rfl, hx, eq_false_of_ne_true fun hsame => ?_⟩)
        exact hdiffers ⟨b, rfl, hsame⟩

/-- Without some of the values but with the first, the others agree on it. -/
theorem toOption_of_head_sublist (hsub : sub.Sublist values) (hhead : sub.head? = values.head?)
    (h : (of same values).toOption = some v) : (of same sub).toOption = some v := by
  obtain ⟨rest, rfl, hrest⟩ := toOption_of_eq_some_iff.mp h
  match sub, hhead, hsub with
  | x :: sub, hhead, hsub =>
    obtain rfl : x = some v := Option.some.inj hhead
    have hsub' : sub.Sublist rest := List.cons_sublist_cons.mp hsub
    exact toOption_of_eq_some_iff.mpr ⟨sub, rfl, fun y hy => hrest y (hsub'.mem hy)⟩

/-- Of equal values any will do. -/
theorem toOption_of_equal_sublist (hsub : sub.Sublist values) (hne : sub ≠ [])
    (heq : ∀ x ∈ values, ∀ y ∈ values, x = y) (h : (of same values).toOption = some v) :
    (of same sub).toOption = some v := by
  refine toOption_of_head_sublist hsub ?_ h
  match sub, hne with
  | x :: sub, _ =>
    obtain ⟨rest, rfl, -⟩ := toOption_of_eq_some_iff.mp h
    have hx : x ∈ some v :: rest := hsub.mem List.mem_cons_self
    rw [List.head?_cons, List.head?_cons, heq x hx (some v) List.mem_cons_self]

/-- By equality, values agree when there are some and all are the same. -/
theorem toOption_beq_eq_some_iff [BEq α] [LawfulBEq α] :
    (of (fun a b : α => a == b) values).toOption = some v ↔
      values ≠ [] ∧ ∀ x ∈ values, x = some v := by
  rw [toOption_of_eq_some_iff]
  constructor
  · rintro ⟨rest, rfl, hrest⟩
    refine ⟨List.cons_ne_nil _ _, List.forall_mem_cons.mpr ⟨rfl, fun x hx => ?_⟩⟩
    obtain ⟨a, rfl, ha⟩ := hrest x hx
    rw [eq_of_beq ha]
  · rintro ⟨hne, hall⟩
    obtain ⟨x, rest, rfl⟩ := List.exists_cons_of_ne_nil hne
    obtain ⟨rfl, hrest⟩ := List.forall_mem_cons.mp hall
    exact ⟨rest, rfl, fun x hx => ⟨v, hrest x hx, beq_self_eq_true v⟩⟩

/-- Values that agree by equality are equal. -/
theorem toOption_of_sublist [BEq α] [LawfulBEq α] (hsub : sub.Sublist values) (hne : sub ≠ [])
    (h : (of (fun a b : α => a == b) values).toOption = some v) :
    (of (fun a b : α => a == b) sub).toOption = some v := by
  obtain ⟨-, hall⟩ := toOption_beq_eq_some_iff.mp h
  exact toOption_beq_eq_some_iff.mpr ⟨hne, fun x hx => hall x (hsub.mem hx)⟩

/-- Agreement by equality has no order. -/
theorem toOption_beq_perm [BEq α] [LawfulBEq α] (hperm : sub.Perm values) :
    (of (fun a b : α => a == b) sub).toOption = (of (fun a b : α => a == b) values).toOption := by
  apply Option.ext
  intro v
  rw [toOption_beq_eq_some_iff, toOption_beq_eq_some_iff, ne_eq, ne_eq, ← List.length_eq_zero_iff,
    hperm.length_eq, List.length_eq_zero_iff]
  exact and_congr_right fun _ => forall_congr' fun x => by rw [hperm.mem_iff]

/-- What values agree on stands in front. -/
theorem head?_of_toOption (h : (of same values).toOption = some v) :
    values.head? = some (some v) := by
  obtain ⟨rest, rfl, -⟩ := toOption_of_eq_some_iff.mp h
  rfl

/-- Behind one value in front, the others have no order. -/
theorem toOption_perm_of_head (hperm : sub.Perm values) (hhead : sub.head? = values.head?) :
    (of same sub).toOption = (of same values).toOption := by
  match sub, values, hhead with
  | [], [], _ => rfl
  | x :: sub, y :: values, hhead =>
    obtain rfl : x = y := Option.some.inj hhead
    have hrest : sub.Perm values := hperm.cons_inv
    apply Option.ext
    intro v
    simp only [toOption_of_eq_some_iff, List.cons.injEq, and_assoc, exists_and_left,
      exists_eq_left']
    exact and_congr_right fun _ => forall_congr' fun z => by rw [hrest.mem_iff]

end FieldGuard.Agreement
