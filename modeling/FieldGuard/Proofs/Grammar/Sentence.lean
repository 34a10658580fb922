import FieldGuard.Proofs.Grammar.Reading

/-! What has been read stands for derivations. The waiting operators of a state that is reached
belong to unfinished derivations of the tokens read so far, and a release finishes them; so the
tokens that have a postfix sequence are the sentences of the grammar, and the sequence walks their
derivation. -/
namespace FieldGuard
namespace Postfix

/-- Tokens that end where an operand is expected, the steps they emitted, and the waiting operators
of their unfinished derivations. -/
inductive Opened : List (Placed Token) → List (Placed Step) → List (Placed Waiting) → Prop
  | nil : Opened [] [] []
  | not {front out waiting} (p : Nat) (h : Opened front out waiting) :
    Opened (front ++ [⟨.symbol .not, p⟩]) out (⟨.not, p⟩ :: waiting)
  | group {front out waiting} (p : Nat) (h : Opened front out waiting) :
    Opened (front ++ [⟨.symbol .leftParen, p⟩]) out (⟨.group, p⟩ :: waiting)
  | binary {front out waiting k} (op : BinaryOp) (member : op ∈ BinaryOp.ofTier (k + 1)) (p : Nat)
      (left : Derivation (k + 1)) (fits : k + 1 ≤ room waiting) (h : Opened front out waiting) :
    Opened (front ++ (left.tokens ++ [⟨.symbol (.binary op), p⟩])) (out ++ left.steps)
      (⟨.binary op, p⟩ :: waiting)

/-- A release finishes derivations around the one that was read last. -/
theorem Opened.release {front : List (Placed Token)} {out : List (Placed Step)}
    {waiting : List (Placed Waiting)} (h : Opened front out waiting) {j k : Nat} (d : Derivation j)
    (fits : j ≤ room waiting) (hjk : j ≤ k) :
    ∃ front' out', ∃ e : Derivation k, Opened front' out' (Postfix.release k waiting).2 ∧
      front' ++ e.tokens = front ++ d.tokens ∧
      out' ++ e.steps = out ++ (d.steps ++ (Postfix.release k waiting).1) := by
  induction h generalizing j with
  | nil =>
    obtain ⟨e, ht, hs⟩ := d.exists_raise hjk
    exact ⟨[], [], e, .nil, by simp [ht], by simp [hs]⟩
  | group p h ih =>
    obtain ⟨e, ht, hs⟩ := d.exists_raise hjk
    exact ⟨_, _, e, .group p h, by simp [ht], by simp [hs]⟩
  | not p h ih =>
    obtain rfl : j = 0 := Nat.le_zero.mp fits
    obtain ⟨front', out', e, ho, ht, hs⟩ := ih (.not p d) (Nat.zero_le _) (Nat.zero_le k)
    refine ⟨front', out', e, ho, ?_, ?_⟩
    · simp [ht, Derivation.tokens]
    · simp [hs]
  | @binary _ _ _ i op member p left hfit h ih =>
    have tier := BinaryOp.mem_ofTier_iff.mp member
    by_cases hle : op.tier ≤ k
    · rw [release_binary_le hle]
      have hj : j ≤ op.tier - 1 := fits
      obtain ⟨right, hrt, hrs⟩ := d.exists_raise (show j ≤ i by omega)
      obtain ⟨front', out', e, ho, ht, hs⟩ := ih (.binary op member p left right) hfit (by omega)
      refine ⟨front', out', e, ho, ?_, ?_⟩
      · simp [ht, Derivation.tokens, hrt]
      · simp [hs, hrs]
    · rw [release_binary_lt (Nat.not_le.mp hle)]
      obtain ⟨e, ht, hs⟩ := d.exists_raise hjk
      exact ⟨_, _, e, .binary op member p left hfit h, by simp [ht], by simp [hs]⟩

/-- What a state stands for: an operand is awaited, or a primary was read last. -/
inductive Represents : State → List (Placed Token) → List (Placed Step) → Prop
  | opened {front out waiting} (last : Option (Placed Symbol)) (h : Opened front out waiting) :
    Represents ⟨waiting, true, last⟩ front out
  | closed {front out waiting} (last : Option (Placed Symbol)) (h : Opened front out waiting)
      (d : Derivation 0) :
    Represents ⟨waiting, false, last⟩ (front ++ d.tokens) (out ++ d.steps)

variable {s next : State} {t : Placed Token} {front ts : List (Placed Token)}
  {out rest : List (Placed Step)}

theorem Represents.step (h : Represents s front out) (ha : Accepts s t rest next) :
    Represents next (front ++ [t]) (out ++ rest) := by
  cases ha with
  | operand o p =>
    cases h with
    | opened _ ho => exact .closed _ ho (.operand o p)
  | not p =>
    cases h with
    | opened _ ho =>
      rw [List.append_nil]
      exact .opened _ (ho.not p)
  | leftParen p =>
    cases h with
    | opened _ ho =>
      rw [List.append_nil]
      exact .opened _ (ho.group p)
  | rightParen p hc =>
    cases h with
    | closed _ ho d =>
      obtain ⟨q, hrel⟩ := closeGroup?_eq_some_iff.mp hc
      obtain ⟨front', out', e, ho', ht, hs⟩ := ho.release d (Nat.zero_le _) (Nat.zero_le 4)
      rw [hrel] at ho' hs
      cases ho' with
      | @group _ _ _ q ho₀ =>
        have hr := Represents.closed (some ⟨.rightParen, p⟩) ho₀ (.group q e p)
        rw [Derivation.steps_group, hs] at hr
        rw [← ht]
        simpa [Derivation.tokens] using hr
  | @binary waiting _ op p =>
    cases h with
    | closed _ ho d =>
      obtain ⟨k, hk⟩ : ∃ k, op.tier = k + 1 :=
        Nat.exists_eq_succ_of_ne_zero (Nat.ne_of_gt op.tier_pos)
      obtain ⟨front', out', e, ho', ht, hs⟩ := ho.release d (Nat.zero_le _) (Nat.zero_le (k + 1))
      have hroom := le_room_release waiting op.tier_le_four
      rw [hk] at hroom ⊢
      have hopened := ho'.binary op (BinaryOp.mem_ofTier_iff.mpr hk) p e hroom
      have hr := Represents.opened (some ⟨.binary op, p⟩) hopened
      rw [hs, ← List.append_assoc, ht] at hr
      simpa using hr

theorem Represents.reads (h : Represents s front out) (hr : Reads s ts rest next) :
    Represents next (front ++ ts) (out ++ rest) := by
  induction hr generalizing front out with
  | nil => simpa using h
  | cons head _ ih => simpa using ih (h.step head)

/-- Ending a state finishes a derivation of all that was read. -/
theorem Represents.finish (h : Represents s front out) (hf : Postfix.finish s = .ok rest) :
    ∃ d : Derivation 4, d.tokens = front ∧ d.steps = out ++ rest := by
  cases h with
  | opened last ho =>
    cases last <;> simp [Postfix.finish] at hf
  | closed _ ho d =>
    have hrel := drain_eq_ok_iff.mp hf
    obtain ⟨front', out', e, ho', ht, hs⟩ := ho.release d (Nat.zero_le _) (Nat.zero_le 4)
    rw [hrel] at ho' hs
    cases ho' with
    | nil => exact ⟨e, ht, by simpa using hs⟩

end Postfix

/-- Tokens have a postfix sequence exactly when they have a derivation, and the sequence walks it.
-/
theorem toPostfix_eq_ok_iff {tokens : List (Placed Token)} {steps : List (Placed Step)} :
    toPostfix tokens = .ok steps ↔ ∃ d : Derivation 4, d.tokens = tokens ∧ d.steps = steps := by
  constructor
  · intro h
    obtain ⟨out, last, rest, hr, hf, rfl⟩ := Postfix.run_eq_ok_iff.mp h
    have hstart : Postfix.Represents Postfix.start [] [] := .opened none .nil
    exact (hstart.reads hr).finish hf
  · rintro ⟨d, rfl, rfl⟩
    obtain ⟨out, pending, last, hr, hs, hw⟩ := Postfix.reads_tokens d [] none (Nat.le_refl 4)
    refine Postfix.run_eq_ok_iff.mpr ⟨out, _, Postfix.released pending, hr, ?_, hs.symm⟩
    have hrel : Postfix.release 4 (pending ++ []) = (Postfix.released pending ++ [], []) :=
      Postfix.release_append hw
    exact Postfix.drain_eq_ok_iff.mpr (by simpa using hrel)

/-- Tokens have a postfix sequence exactly when they are a sentence of the grammar. The derivation
of a sentence is unique; the sequence walks its tree from the leaves up, and so has each operand and
each operator of the tokens once, at its own place, the operands in the order of the tokens. -/
theorem toPostfix_walks_unique_derivation (tokens : List (Placed Token)) :
    ((∃ steps, toPostfix tokens = .ok steps) ↔ ∃ d : Derivation 4, d.tokens = tokens) ∧
    ∀ d : Derivation 4, d.tokens = tokens →
      (∀ e : Derivation 4, e.tokens = tokens → e = d) ∧
      toPostfix tokens = .ok d.tree.steps ∧
      d.tree.steps.Perm (tokens.filterMap stepOf?) ∧
      d.tree.steps.filter (·.item.isOperand) =
        (tokens.filterMap stepOf?).filter (·.item.isOperand) := by
  constructor
  · constructor
    · rintro ⟨steps, h⟩
      obtain ⟨d, ht, _⟩ := toPostfix_eq_ok_iff.mp h
      exact ⟨d, ht⟩
    · rintro ⟨d, ht⟩
      exact ⟨d.steps, toPostfix_eq_ok_iff.mpr ⟨d, ht, rfl⟩⟩
  · rintro d rfl
    refine ⟨fun e he => e.eq_of_tokens_eq d he, ?_, d.steps_perm, d.operands_steps⟩
    exact toPostfix_eq_ok_iff.mpr ⟨d, rfl, rfl⟩

end FieldGuard
