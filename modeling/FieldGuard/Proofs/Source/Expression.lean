import FieldGuard.Condition.Basic
import FieldGuard.Proofs.Grammar.Sentence
import FieldGuard.Proofs.Source.Words

/-! Expressions and their sources. An operand of an operator is put into parentheses where it binds
less tightly than its place asks for: on the left of a binary operator a phrase of its tier fits, on
the right and behind `!` only a tighter one. Further parentheses do no harm. A source is read as the
expression it was written from. -/
namespace FieldGuard

/-- An expression tree. Each node tells how many pairs of parentheses stand around it that it does
not need. -/
inductive Expression where
  | leaf (l : Leaf) (groups : Nat)
  | not (body : Expression) (groups : Nat)
  | binary (op : BinaryOp) (left right : Expression) (groups : Nat)

/-- Words in some pairs of parentheses. -/
def Word.enclose : Nat → List Word → List Word
  | 0, ws => ws
  | n + 1, ws => .symbol .leftParen :: (enclose n ws ++ [.symbol .rightParen])

namespace Expression

/-- An expression written where a phrase of the tier `room` fits. -/
def words (room : Nat) : Expression → List Word
  | .leaf l n => Word.enclose n [.leaf l]
  | .not body n => Word.enclose n (.symbol .not :: body.words 0)
  | .binary op left right n =>
    Word.enclose (if op.tier ≤ room then n else n + 1)
      (left.words op.tier ++ .symbol (.binary op) :: right.words (op.tier - 1))

/-- The whole source of an expression. -/
def source (e : Expression) : String := Word.source (e.words 4)

/-- The walk of an expression from its leaves up. -/
def steps : Expression → List Step
  | .leaf l _ => [.operand l.operand]
  | .not body _ => body.steps ++ [.not]
  | .binary op left right _ => left.steps ++ (right.steps ++ [.binary op])

end Expression

/-- Tokens that have a derivation of a tier wherever they are placed, and the walk of it. -/
def Derives (k : Nat) (ts : List Token) (walk : List Step) : Prop :=
  ∀ placed : List (Placed Token), placed.map (·.item) = ts →
    ∃ d : Derivation k, d.tokens = placed ∧ d.steps.map (·.item) = walk

namespace Derives

variable {j k : Nat} {ts ls rs : List Token} {walk lwalk rwalk : List Step}

theorem operand (o : Operand) : Derives 0 [.operand o] [.operand o] := by
  intro placed h
  obtain ⟨⟨t, p⟩, rfl, rfl⟩ := List.map_eq_singleton_iff.mp h
  exact ⟨.operand o p, rfl, rfl⟩

theorem not (h : Derives 0 ts walk) : Derives 0 (.symbol .not :: ts) (walk ++ [.not]) := by
  intro placed hp
  obtain ⟨⟨t, p⟩, rest, rfl, rfl, hrest⟩ := List.map_eq_cons_iff.mp hp
  obtain ⟨d, rfl, hwalk⟩ := h rest hrest
  exact ⟨.not p d, rfl, by simp [hwalk]⟩

theorem binary (op : BinaryOp) (hl : Derives op.tier ls lwalk)
    (hr : Derives (op.tier - 1) rs rwalk) :
    Derives op.tier (ls ++ .symbol (.binary op) :: rs) (lwalk ++ (rwalk ++ [.binary op])) := by
  intro placed hp
  obtain ⟨left, rest, rfl, hleft, hrest⟩ := List.map_eq_append_iff.mp hp
  obtain ⟨⟨t, p⟩, right, rfl, rfl, hright⟩ := List.map_eq_cons_iff.mp hrest
  obtain ⟨k, hk⟩ : ∃ k, op.tier = k + 1 :=
    Nat.exists_eq_succ_of_ne_zero (Nat.ne_of_gt op.tier_pos)
  rw [hk] at hl hr ⊢
  obtain ⟨dl, rfl, hlwalk⟩ := hl left hleft
  obtain ⟨dr, rfl, hrwalk⟩ := hr right hright
  exact ⟨.binary op (BinaryOp.mem_ofTier_iff.mpr hk) p dl dr, rfl, by simp [hlwalk, hrwalk]⟩

theorem group (h : Derives 4 ts walk) :
    Derives 0 (.symbol .leftParen :: (ts ++ [.symbol .rightParen])) walk := by
  intro placed hp
  obtain ⟨⟨t, p⟩, rest, rfl, rfl, hrest⟩ := List.map_eq_cons_iff.mp hp
  obtain ⟨body, closing, rfl, hbody, hclosing⟩ := List.map_eq_append_iff.mp hrest
  obtain ⟨⟨t, q⟩, rfl, rfl⟩ := List.map_eq_singleton_iff.mp hclosing
  obtain ⟨d, rfl, hwalk⟩ := h body hbody
  exact ⟨.group p d q, rfl, hwalk⟩

theorem raise (h : Derives j ts walk) (hjk : j ≤ k) : Derives k ts walk := by
  intro placed hp
  obtain ⟨d, rfl, hwalk⟩ := h placed hp
  obtain ⟨e, htokens, hsteps⟩ := d.exists_raise hjk
  exact ⟨e, htokens, hsteps ▸ hwalk⟩

/-- Parentheses leave the walk as it is, and what stands in them fits everywhere. -/
theorem enclose {ws : List Word} (h : Derives j (ws.map Word.token) walk) (hj : j ≤ 4) {n : Nat}
    (hk : n = 0 → j ≤ k) : Derives k ((Word.enclose n ws).map Word.token) walk := by
  induction n generalizing k with
  | zero => exact h.raise (hk rfl)
  | succ n ih =>
    have htokens : (Word.enclose (n + 1) ws).map Word.token =
        .symbol .leftParen :: ((Word.enclose n ws).map Word.token ++ [.symbol .rightParen]) := by
      simp [Word.enclose, Word.token]
    rw [htokens]
    exact (ih fun _ => hj).group.raise (Nat.zero_le k)

end Derives

/-- Parentheses stand where operands do, so words in them may. -/
theorem Word.alternates_enclose {ws : List Word}
    (h : ∀ rest, Alternates false rest → Alternates true (ws ++ rest)) (n : Nat) {rest : List Word}
    (hrest : Alternates false rest) : Alternates true (enclose n ws ++ rest) := by
  induction n generalizing rest with
  | zero => exact h rest hrest
  | succ n ih =>
    have hclosed : Alternates false (.symbol .rightParen :: rest) := hrest
    rw [enclose, List.cons_append, List.append_assoc]
    exact ih hclosed

namespace Expression

/-- The words of an expression are a phrase of the tier that they were written for. -/
theorem derives_words (e : Expression) (room : Nat) :
    Derives room ((e.words room).map Word.token) e.steps := by
  induction e generalizing room with
  | leaf l n =>
    exact (Derives.operand l.operand).enclose (Nat.zero_le 4) fun _ => Nat.zero_le room
  | not body n ih => exact (ih 0).not.enclose (Nat.zero_le 4) fun _ => Nat.zero_le room
  | binary op left right n ihl ihr =>
    have hbare := Derives.binary op (ihl op.tier) (ihr (op.tier - 1))
    unfold words
    -- Without any parentheses the operator binds tightly enough for its place.
    refine Derives.enclose ?_ op.tier_le_four fun hn => ?_
    · simpa [Word.token, steps] using hbare
    · by_cases hroom : op.tier ≤ room
      · exact hroom
      · rw [if_neg hroom] at hn
        cases hn

/-- The operands of an expression stand where operands are expected, and behind it none is. -/
theorem alternates_words (e : Expression) (room : Nat) {rest : List Word}
    (h : Word.Alternates false rest) : Word.Alternates true (e.words room ++ rest) := by
  induction e generalizing room rest with
  | leaf l n =>
    refine Word.alternates_enclose (fun rest hrest => ?_) n h
    exact And.intro rfl hrest
  | not body n ih =>
    refine Word.alternates_enclose (fun rest hrest => ?_) n h
    exact ih 0 hrest
  | binary op left right n ihl ihr =>
    refine Word.alternates_enclose (fun rest hrest => ?_) _ h
    have hright : Word.Alternates false (.symbol (.binary op) :: (right.words (op.tier - 1) ++ rest)) :=
      ihr (op.tier - 1) hrest
    rw [List.append_assoc]
    exact ihl op.tier hright

/-- The source of an expression is read as the expression: the condition keeps the source, and its
steps are the walk of the expression from its leaves up. -/
theorem parse_source (e : Expression) :
    ∃ c, parse e.source = .ok c ∧ c.source = e.source ∧ c.steps.map (·.item) = e.steps := by
  have htokens : tokenize e.source = .ok (Word.place 0 (e.words 4)) := by
    have hend : Word.Alternates false [] := trivial
    have halternates := e.alternates_words 4 hend
    rw [List.append_nil] at halternates
    exact Word.tokenize_source halternates
  obtain ⟨d, hd, hwalk⟩ := e.derives_words 4 _ (Word.items_place 0 (e.words 4))
  have hsteps : toPostfix (Word.place 0 (e.words 4)) = .ok d.steps :=
    toPostfix_eq_ok_iff.mpr ⟨d, hd, rfl⟩
  exact ⟨⟨e.source, d.steps⟩, parse_eq_ok htokens hsteps, rfl, hwalk⟩

example : source (.binary .subtract (.not (.leaf .null 1) 0)
    (.binary .add (.leaf (.bool true) 0) (.leaf (.property .single ⟨"a'b", by decide⟩) 0) 0) 0) =
    "! ( nullptr ) - ( true + 'a\\'b' )" := by decide

end Expression
end FieldGuard
