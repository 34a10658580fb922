import FieldGuard.Condition.Postfix

/-! The stack of waiting operators. A tier releases the operators that bind at least as tightly, and
closing a group or ending the tokens releases at the loosest tier of all. -/
namespace FieldGuard
namespace Postfix

/-- The loosest tier of a phrase that fits behind the waiting operators. -/
def room : List (Placed Waiting) → Nat
  | [] => 4
  | ⟨.group, _⟩ :: _ => 4
  | ⟨.not, _⟩ :: _ => 0
  | ⟨.binary op, _⟩ :: _ => op.tier - 1

/-- An operator that a tier releases. -/
def Waiting.Within (k : Nat) : Waiting → Prop
  | .not => True
  | .binary op => op.tier ≤ k
  | .group => False

/-- The steps that operators become when they are released. -/
def released : List (Placed Waiting) → List (Placed Step)
  | [] => []
  | ⟨.not, p⟩ :: rest => ⟨.not, p⟩ :: released rest
  | ⟨.binary op, p⟩ :: rest => ⟨.binary op, p⟩ :: released rest
  | ⟨.group, _⟩ :: rest => released rest

theorem released_append (xs ys : List (Placed Waiting)) :
    released (xs ++ ys) = released xs ++ released ys := by
  induction xs with
  | nil => rfl
  | cons w xs ih =>
    obtain ⟨item, p⟩ := w
    cases item <;> simp [released, ih]

variable {k : Nat} {p : Nat} {op : BinaryOp} {pending waiting rest : List (Placed Waiting)}

theorem Waiting.Within.mono {w : Waiting} {j : Nat} (h : w.Within j) (hjk : j ≤ k) :
    w.Within k := by
  cases w with
  | not => trivial
  | binary op => exact Nat.le_trans h hjk
  | group => exact h

@[simp] theorem release_nil : release k [] = ([], []) := rfl

@[simp] theorem release_group : release k (⟨.group, p⟩ :: rest) = ([], ⟨.group, p⟩ :: rest) := rfl

@[simp] theorem release_not :
    release k (⟨.not, p⟩ :: rest) = (⟨.not, p⟩ :: (release k rest).1, (release k rest).2) := rfl

theorem release_binary_le (h : op.tier ≤ k) :
    release k (⟨.binary op, p⟩ :: rest) =
      (⟨.binary op, p⟩ :: (release k rest).1, (release k rest).2) := by
  simp [release, h]

theorem release_binary_lt (h : k < op.tier) :
    release k (⟨.binary op, p⟩ :: rest) = ([], ⟨.binary op, p⟩ :: rest) := by
  simp [release, Nat.not_le.mpr h]

/-- Operators within a tier are released in full, and the release goes on below them. -/
theorem release_append (h : ∀ w ∈ pending, w.item.Within k) :
    release k (pending ++ waiting) =
      (released pending ++ (release k waiting).1, (release k waiting).2) := by
  induction pending with
  | nil => rfl
  | cons w rest ih =>
    obtain ⟨item, p⟩ := w
    have hr := ih fun w hw => h w (List.mem_cons_of_mem _ hw)
    have hw := h ⟨item, p⟩ List.mem_cons_self
    cases item with
    | not => simp [released, hr]
    | binary op =>
      rw [List.cons_append, release_binary_le hw, hr]
      rfl
    | group => exact hw.elim

/-- Where a phrase of a tier still fits, the tier releases nothing. -/
theorem release_of_room (pos : 0 < k) (h : k ≤ room waiting) :
    release k waiting = ([], waiting) := by
  match waiting, h with
  | [], _ => rfl
  | ⟨.group, _⟩ :: _, _ => rfl
  | ⟨.not, _⟩ :: _, h => exact absurd h (Nat.not_le.mpr pos)
  | ⟨.binary op, _⟩ :: _, h =>
    apply release_binary_lt
    have : k ≤ op.tier - 1 := h
    omega

/-- After a release, phrases of its tier fit. -/
theorem le_room_release (waiting : List (Placed Waiting)) (h : k ≤ 4) :
    k ≤ room (release k waiting).2 := by
  induction waiting with
  | nil => exact h
  | cons w rest ih =>
    obtain ⟨item, p⟩ := w
    cases item with
    | not => exact ih
    | group => exact h
    | binary op =>
      by_cases hle : op.tier ≤ k
      · rw [release_binary_le hle]
        exact ih
      · rw [release_binary_lt (Nat.not_le.mp hle)]
        change k ≤ op.tier - 1
        omega

/-- Closing a group releases all that waits in it. -/
theorem closeGroup?_eq_release (waiting : List (Placed Waiting)) :
    closeGroup? waiting =
      match release 4 waiting with
      | (out, ⟨.group, _⟩ :: rest) => some (out, rest)
      | _ => none := by
  induction waiting with
  | nil => rfl
  | cons w rest ih =>
    obtain ⟨item, p⟩ := w
    cases item with
    | group => rfl
    | not =>
      simp only [closeGroup?, ih, release_not]
      rcases release 4 rest with ⟨out, _ | ⟨⟨_ | _ | _, q⟩, left⟩⟩ <;> rfl
    | binary op =>
      simp only [closeGroup?, ih, release_binary_le op.tier_le_four]
      rcases release 4 rest with ⟨out, _ | ⟨⟨_ | _ | _, q⟩, left⟩⟩ <;> rfl

/-- At the end all that waits is released, up to a group still open. -/
theorem drain_eq_release (waiting : List (Placed Waiting)) :
    drain waiting =
      match release 4 waiting with
      | (out, []) => .ok out
      | (_, w :: _) => .error (.unmatchedLeft w.position) := by
  induction waiting with
  | nil => rfl
  | cons w rest ih =>
    obtain ⟨item, p⟩ := w
    cases item with
    | group => rfl
    | not =>
      simp only [drain, ih, release_not]
      rcases release 4 rest with ⟨out, _ | ⟨w, left⟩⟩ <;> rfl
    | binary op =>
      simp only [drain, ih, release_binary_le op.tier_le_four]
      rcases release 4 rest with ⟨out, _ | ⟨w, left⟩⟩ <;> rfl

theorem closeGroup?_eq_some_iff {out : List (Placed Step)} :
    closeGroup? waiting = some (out, rest) ↔
      ∃ p, release 4 waiting = (out, ⟨.group, p⟩ :: rest) := by
  rw [closeGroup?_eq_release]
  rcases release 4 waiting with ⟨o, _ | ⟨⟨_ | _ | _, q⟩, left⟩⟩ <;> simp

theorem drain_eq_ok_iff {out : List (Placed Step)} :
    drain waiting = .ok out ↔ release 4 waiting = (out, []) := by
  rw [drain_eq_release]
  rcases release 4 waiting with ⟨o, _ | ⟨w, left⟩⟩ <;> simp

end Postfix
end FieldGuard
