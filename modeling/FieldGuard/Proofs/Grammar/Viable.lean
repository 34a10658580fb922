import FieldGuard.Proofs.Grammar.Sentence

/-! Tokens that can still become a sentence. Whatever waits on the stack belongs to unfinished
derivations, and these can always be finished; so tokens are read to their end exactly when some
more tokens complete them. -/
namespace FieldGuard

/-- Some more tokens complete these to a sentence of the grammar. -/
def Viable (ts : List (Placed Token)) : Prop :=
  ∃ rest, ∃ d : Derivation 4, d.tokens = ts ++ rest

theorem Viable.of_prefix {xs ys : List (Placed Token)} (h : Viable ys) (hp : xs <+: ys) :
    Viable xs := by
  obtain ⟨zs, rfl⟩ := hp
  obtain ⟨rest, d, hd⟩ := h
  exact ⟨zs ++ rest, d, by rw [hd, List.append_assoc]⟩

theorem Derivation.viable (d : Derivation 4) : Viable d.tokens :=
  ⟨[], d, (List.append_nil _).symm⟩

namespace Postfix

/-- Derivations that wait for one more phrase are finished by it and by closing their groups. -/
theorem Opened.viable {front : List (Placed Token)} {out : List (Placed Step)}
    {waiting : List (Placed Waiting)} (h : Opened front out waiting) {j : Nat} (d : Derivation j)
    (fits : j ≤ room waiting) : Viable (front ++ d.tokens) := by
  induction h generalizing j with
  | nil =>
    obtain ⟨e, ht, -⟩ := d.exists_raise fits
    rw [List.nil_append, ← ht]
    exact e.viable
  | not p _ ih =>
    obtain rfl : j = 0 := Nat.le_zero.mp fits
    simpa [Derivation.tokens] using ih (.not p d) (Nat.zero_le _)
  | @group front _ _ p _ ih =>
    obtain ⟨e, ht, -⟩ := d.exists_raise (show j ≤ 4 from fits)
    have hclosed := ih (.group p e p) (Nat.zero_le _)
    rw [← ht]
    refine hclosed.of_prefix ⟨[⟨.symbol .rightParen, p⟩], ?_⟩
    simp [Derivation.tokens]
  | @binary _ _ _ i op member p left hfit _ ih =>
    have tier := BinaryOp.mem_ofTier_iff.mp member
    have hj : j ≤ op.tier - 1 := fits
    obtain ⟨right, ht, -⟩ := d.exists_raise (show j ≤ i by omega)
    simpa [Derivation.tokens, ht] using ih (.binary op member p left right) hfit

theorem Represents.viable {s : State} {ts : List (Placed Token)} {out : List (Placed Step)}
    (h : Represents s ts out) : Viable ts := by
  cases h with
  | opened _ ho =>
    have hnext := ho.viable (.operand .null 0) (Nat.zero_le _)
    exact hnext.of_prefix (List.prefix_append _ _)
  | closed _ ho d => exact ho.viable d (Nat.zero_le _)

theorem Reads.viable {s : State} {ts : List (Placed Token)} {out : List (Placed Step)}
    (h : Reads start ts out s) : Viable ts := by
  have hstart : Represents start [] [] := .opened none .nil
  exact (hstart.reads h).viable

/-- Tokens can become a sentence exactly when they are read to their end. -/
theorem viable_iff_reads {ts : List (Placed Token)} :
    Viable ts ↔ ∃ out s, Reads start ts out s := by
  constructor
  · rintro ⟨rest, d, hd⟩
    have hrun : run start (ts ++ rest) = .ok d.steps := toPostfix_eq_ok_iff.mpr ⟨d, hd, rfl⟩
    obtain ⟨out, last, _, hreads, -, -⟩ := run_eq_ok_iff.mp hrun
    obtain ⟨out', next, _, hts, -, -⟩ := hreads.split
    exact ⟨out', next, hts⟩
  · rintro ⟨out, s, h⟩
    exact h.viable

/-- A token that is not accepted ends all hope for a sentence. -/
theorem not_viable_of_step {front : List (Placed Token)} {t : Placed Token} {s : State}
    {out : List (Placed Step)} {e : GrammarError} (h : Reads start front out s)
    (ht : step s t = .error e) : ¬ Viable (front ++ [t]) := by
  intro hviable
  obtain ⟨_, _, hreads⟩ := viable_iff_reads.mp hviable
  obtain ⟨_, next, _, hfront, htail, -⟩ := hreads.split
  obtain ⟨-, rfl⟩ := h.unique hfront
  cases htail with
  | cons head _ =>
    have hok := step_eq_ok_iff.mpr head
    rw [ht] at hok
    cases hok

end Postfix
end FieldGuard
