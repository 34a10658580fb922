import FieldGuard.Proofs.Grammar.Derivation

/-! The grammar is unambiguous. A derivation opens and closes its groups in balance, and a binary
operator looser than its tier stands inside one of its groups only; so where two derivations of the
same tokens split at an operator, they split at the same one. -/
namespace FieldGuard

/-- How many groups a token opens, less how many it closes. -/
def Token.depth : Token → Int
  | .symbol .leftParen => 1
  | .symbol .rightParen => -1
  | _ => 0

/-- How many groups are open after some tokens. -/
def depth (ts : List (Placed Token)) : Int := ts.foldr (fun t n => t.item.depth + n) 0

@[simp] theorem depth_nil : depth [] = 0 := rfl

@[simp] theorem depth_cons (t : Placed Token) (ts : List (Placed Token)) :
    depth (t :: ts) = t.item.depth + depth ts := rfl

@[simp] theorem depth_append (xs ys : List (Placed Token)) :
    depth (xs ++ ys) = depth xs + depth ys := by
  induction xs with
  | nil => simp
  | cons x xs ih =>
    rw [List.cons_append, depth_cons, depth_cons, ih]
    omega

@[simp] theorem Token.depth_operand (o : Operand) : (Token.operand o).depth = 0 := rfl
@[simp] theorem Token.depth_not : (Token.symbol .not).depth = 0 := rfl
@[simp] theorem Token.depth_binary (op : BinaryOp) : (Token.symbol (.binary op)).depth = 0 := rfl
@[simp] theorem Token.depth_leftParen : (Token.symbol .leftParen).depth = 1 := rfl
@[simp] theorem Token.depth_rightParen : (Token.symbol .rightParen).depth = -1 := rfl

namespace Derivation

variable {k : Nat}

@[simp] theorem depth_tokens (d : Derivation k) : depth d.tokens = 0 := by
  induction d <;> simp_all [tokens]

/-- No part of a derivation from its front closes more groups than it opens. -/
theorem depth_front_nonneg (d : Derivation k) {xs ys : List (Placed Token)}
    (h : d.tokens = xs ++ ys) : 0 ≤ depth xs := by
  induction d generalizing xs ys with
  | operand o p =>
    rcases List.cons_eq_append_iff.mp h with ⟨rfl, _⟩ | ⟨as, rfl, hs⟩
    · simp
    · obtain ⟨rfl, _⟩ := List.nil_eq_append_iff.mp hs
      simp
  | group p body q ih =>
    rcases List.cons_eq_append_iff.mp h with ⟨rfl, _⟩ | ⟨as, rfl, hs⟩
    · simp
    · rcases List.append_eq_append_iff.mp hs with ⟨bs, rfl, hq⟩ | ⟨bs, hb, _⟩
      · rcases List.cons_eq_append_iff.mp hq with ⟨rfl, _⟩ | ⟨cs, rfl, hc⟩
        · simp
        · obtain ⟨rfl, _⟩ := List.nil_eq_append_iff.mp hc
          simp
      · have := ih hb
        simp only [depth_cons, Token.depth_leftParen]
        omega
  | not p body ih =>
    rcases List.cons_eq_append_iff.mp h with ⟨rfl, _⟩ | ⟨as, rfl, hs⟩
    · simp
    · simpa using ih hs
  | raise body ih => exact ih h
  | binary op member p left right ihl ihr =>
    rcases List.append_eq_append_iff.mp h with ⟨as, rfl, hs⟩ | ⟨as, hl, _⟩
    · rcases List.cons_eq_append_iff.mp hs with ⟨rfl, _⟩ | ⟨bs, rfl, hb⟩
      · simp
      · simpa using ihr hb
    · exact ihl hl

theorem binary_of_cons_eq {op op' : BinaryOp} {p q : Nat} {xs ys : List (Placed Token)}
    (h : ⟨.symbol (.binary op), p⟩ :: xs = ⟨.symbol (.binary op'), q⟩ :: ys) : op = op' := by
  simp only [List.cons.injEq, Placed.mk.injEq, Token.symbol.injEq, Symbol.binary.injEq] at h
  exact h.1.1

/-- Before an operator looser than the tier of a derivation, a group is open. -/
theorem depth_pos_of_loose (d : Derivation k) {op : BinaryOp} {p : Nat}
    {xs ys : List (Placed Token)} (h : d.tokens = xs ++ ⟨.symbol (.binary op), p⟩ :: ys)
    (loose : k < op.tier) : 0 < depth xs := by
  induction d generalizing xs ys with
  | operand o q =>
    rcases List.cons_eq_append_iff.mp h with ⟨_, hs⟩ | ⟨as, _, hs⟩
    · simp at hs
    · simp at hs
  | group q body r ih =>
    rcases List.cons_eq_append_iff.mp h with ⟨_, hs⟩ | ⟨as, rfl, hs⟩
    · simp at hs
    · rcases List.append_eq_append_iff.mp hs with ⟨bs, _, hq⟩ | ⟨bs, hb, _⟩
      · rcases List.cons_eq_append_iff.mp hq with ⟨_, hc⟩ | ⟨cs, _, hc⟩
        · simp at hc
        · simp at hc
      · have := depth_front_nonneg body hb
        simp only [depth_cons, Token.depth_leftParen]
        omega
  | not q body ih =>
    rcases List.cons_eq_append_iff.mp h with ⟨_, hs⟩ | ⟨as, rfl, hs⟩
    · simp at hs
    · simpa using ih hs loose
  | raise body ih => exact ih h (by omega)
  | binary op' member q left right ihl ihr =>
    have tier := BinaryOp.mem_ofTier_iff.mp member
    rcases List.append_eq_append_iff.mp h with ⟨as, rfl, hs⟩ | ⟨as, hl, hs⟩
    · rcases List.cons_eq_append_iff.mp hs with ⟨_, hc⟩ | ⟨bs, rfl, hb⟩
      · obtain rfl : op' = op := (binary_of_cons_eq hc).symm
        omega
      · simpa using ihr hb (by omega)
    · rcases List.cons_eq_append_iff.mp hs with ⟨rfl, hc⟩ | ⟨bs, rfl, hb⟩
      · obtain rfl : op' = op := binary_of_cons_eq hc
        omega
      · exact ihl hl loose

/-- Two derivations of the same tokens are the same. -/
theorem eq_of_tokens_eq (d e : Derivation k) (h : d.tokens = e.tokens) : d = e := by
  induction d with
  | operand o p =>
    cases e with
    | operand o' p' => simp_all [tokens]
    | group p' body q' => simp [tokens] at h
    | not p' body => simp [tokens] at h
  | group p body q ih =>
    cases e with
    | operand o' p' => simp [tokens] at h
    | group p' body' q' =>
      simp only [tokens, List.cons.injEq, Placed.mk.injEq, true_and] at h
      obtain ⟨rfl, hs⟩ := h
      obtain ⟨hb, hq⟩ := List.append_inj' hs rfl
      obtain rfl : q = q' := by simpa using hq
      rw [ih body' hb]
    | not p' body' => simp [tokens] at h
  | not p body ih =>
    cases e with
    | operand o' p' => simp [tokens] at h
    | group p' body' q' => simp [tokens] at h
    | not p' body' =>
      simp only [tokens, List.cons.injEq, Placed.mk.injEq, true_and] at h
      obtain ⟨rfl, hs⟩ := h
      rw [ih body' hs]
  | raise body ih =>
    cases e with
    | raise body' => rw [ih body' h]
    | binary op member p left right =>
      have tier := BinaryOp.mem_ofTier_iff.mp member
      have := body.depth_pos_of_loose h (by omega)
      simp at this
  | binary op member p left right ihl ihr =>
    have tier := BinaryOp.mem_ofTier_iff.mp member
    cases e with
    | raise body =>
      have := body.depth_pos_of_loose h.symm (by omega)
      simp at this
    | binary op' member' p' left' right' =>
      have tier' := BinaryOp.mem_ofTier_iff.mp member'
      -- A longer left side would put the other operator into a right side, at depth zero.
      have hl : left.tokens = left'.tokens := by
        rcases List.append_eq_append_iff.mp h with ⟨as, hl, hs⟩ | ⟨as, hl, hs⟩
        · rcases List.cons_eq_append_iff.mp hs with ⟨rfl, _⟩ | ⟨bs, rfl, hr⟩
          · simpa using hl.symm
          · have hd := congrArg depth hl
            have := right.depth_pos_of_loose hr (by omega)
            simp only [depth_append, depth_cons, depth_tokens, Token.depth_binary] at hd
            omega
        · rcases List.cons_eq_append_iff.mp hs with ⟨rfl, _⟩ | ⟨bs, rfl, hr⟩
          · simpa using hl
          · have hd := congrArg depth hl
            have := right'.depth_pos_of_loose hr (by omega)
            simp only [depth_append, depth_cons, depth_tokens, Token.depth_binary] at hd
            omega
      simp only [tokens, hl, List.append_cancel_left_eq, List.cons.injEq, Placed.mk.injEq,
        Token.symbol.injEq, Symbol.binary.injEq] at h
      obtain ⟨⟨rfl, rfl⟩, hr⟩ := h
      rw [ihl left' hl, ihr right' hr]

end Derivation
end FieldGuard
