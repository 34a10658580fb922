import FieldGuard.Proofs.Source.Expression

/-! Sources put together. What a source is read as, it is read as wherever an operand is expected and
a text apart stands behind it. So sources may be put into parentheses, under `!` and on the sides of
a binary operator, and the walks of their trees are put together in the same way. -/
namespace FieldGuard
namespace Lexeme

/-- Wherever an operand is expected and a text apart stands behind, the characters are read as these
tokens. -/
def ReadsAs (cs : List Char) (ts : List Token) : Prop :=
  ∀ p rest, Apart rest → ∃ placed expecting q, placed.map (·.item) = ts ∧
    Passes ⟨true, p, cs ++ rest⟩ placed ⟨expecting, q, rest⟩

/-- A symbol of one character that is no sign is read wherever it stands. -/
theorem passes_symbol {c : Char} {rest : List Char} {s : Symbol} (hblank : isBlank c = false)
    (hsign : Numeral.signedLength (c :: rest) = 0) (hread : Symbol.read? c rest = some (s, 0))
    (expecting : Bool) (p : Nat) :
    ∃ q, Passes ⟨expecting, p, c :: rest⟩ [⟨.symbol s, p⟩]
      ⟨(Token.symbol s).opensOperand, q, rest⟩ := by
  have hnext : next expecting c rest = .ok (.symbol s, 0) := by
    rw [next_unsigned fun _ => hsign, next_symbol hread]
  exact ⟨_, @Passes.token expecting p c [] rest _ _ _ hblank hnext (.stay _)⟩

theorem passes_leftParen (expecting : Bool) (p : Nat) (rest : List Char) :
    ∃ q, Passes ⟨expecting, p, '(' :: rest⟩ [⟨.symbol .leftParen, p⟩] ⟨true, q, rest⟩ :=
  passes_symbol rfl rfl rfl expecting p

theorem passes_rightParen (expecting : Bool) (p : Nat) (rest : List Char) :
    ∃ q, Passes ⟨expecting, p, ')' :: rest⟩ [⟨.symbol .rightParen, p⟩] ⟨false, q, rest⟩ :=
  passes_symbol rfl rfl rfl expecting p

/-- An exclamation mark in front of a parenthesis is no part of an operator. -/
theorem passes_not (expecting : Bool) (p : Nat) (rest : List Char) :
    ∃ q, Passes ⟨expecting, p, '!' :: '(' :: rest⟩ [⟨.symbol .not, p⟩] ⟨true, q, '(' :: rest⟩ :=
  passes_symbol rfl rfl rfl expecting p

/-- An operator between blanks is read wherever it stands. -/
theorem passes_binary (op : BinaryOp) (expecting : Bool) (p : Nat) (rest : List Char) :
    ∃ p' q, Passes ⟨expecting, p, ' ' :: (op.text.toList ++ ' ' :: rest)⟩
      [⟨.symbol (.binary op), p'⟩] ⟨true, q, rest⟩ := by
  have hblank : isBlank ' ' = true := rfl
  obtain ⟨c, cs, hchars, hc, hnext⟩ := reads_symbol expecting (.binary op) (.blank hblank rest)
  have htext : op.text.toList = c :: cs := hchars
  rw [htext]
  exact ⟨_, _, .blank hblank (.token hc hnext (.blank hblank (.stay _)))⟩

namespace ReadsAs

variable {cs ls rs : List Char} {ts us : List Token}

theorem of_tokenize {source : String} {tokens : List (Placed Token)}
    (h : tokenize source = .ok tokens) : ReadsAs source.toList (tokens.map (·.item)) := by
  intro p rest hrest
  obtain ⟨s, hpasses, hs⟩ := tokenize_eq_ok_iff.mp h
  have hall : (Reader.start source).rest = source.toList ++ s.rest := by
    rw [hs, List.append_nil]
    rfl
  have hmoved := (hpasses.exchange hall hrest).shift p
  rw [Reader.position_start, Nat.zero_add] at hmoved
  refine ⟨_, _, _, ?_, hmoved⟩
  rw [List.map_map]
  rfl

theorem tokenize {source : String} (h : ReadsAs source.toList ts) :
    ∃ tokens, FieldGuard.tokenize source = .ok tokens ∧ tokens.map (·.item) = ts := by
  obtain ⟨tokens, expecting, q, hitems, hpasses⟩ := h 0 [] .nil
  rw [List.append_nil] at hpasses
  exact ⟨tokens, tokenize_eq_ok_iff.mpr ⟨_, hpasses, rfl⟩, hitems⟩

theorem group (h : ReadsAs cs ts) :
    ReadsAs ('(' :: (cs ++ [')'])) (.symbol .leftParen :: (ts ++ [.symbol .rightParen])) := by
  intro p rest _
  obtain ⟨q, hopening⟩ := passes_leftParen true p (cs ++ ')' :: rest)
  obtain ⟨placed, expecting, r, rfl, hbody⟩ := h q (')' :: rest) (.closing rest)
  obtain ⟨s, hclosing⟩ := passes_rightParen expecting r rest
  refine ⟨⟨.symbol .leftParen, p⟩ :: (placed ++ [⟨.symbol .rightParen, r⟩]), false, s,
    by simp, ?_⟩
  rw [List.cons_append, List.append_assoc]
  exact hopening.append (hbody.append hclosing)

theorem not (h : ReadsAs ('(' :: cs) ts) : ReadsAs ('!' :: '(' :: cs) (.symbol .not :: ts) := by
  intro p rest hrest
  obtain ⟨q, hmark⟩ := passes_not true p (cs ++ rest)
  obtain ⟨placed, expecting, r, rfl, hbody⟩ := h q rest hrest
  exact ⟨_, expecting, r, rfl, hmark.append hbody⟩

theorem binary (op : BinaryOp) (hl : ReadsAs ls ts) (hr : ReadsAs rs us) :
    ReadsAs (ls ++ ' ' :: (op.text.toList ++ ' ' :: rs))
      (ts ++ .symbol (.binary op) :: us) := by
  intro p rest hrest
  obtain ⟨left, expecting, q, rfl, hleft⟩ :=
    hl p (' ' :: (op.text.toList ++ ' ' :: (rs ++ rest))) (.blank rfl _)
  obtain ⟨q', r, hmiddle⟩ := passes_binary op expecting q (rs ++ rest)
  obtain ⟨right, expecting', s, rfl, hright⟩ := hr r rest hrest
  refine ⟨left ++ ⟨.symbol (.binary op), q'⟩ :: right, expecting', s, by simp, ?_⟩
  have hpasses := hleft.append (hmiddle.append hright)
  simpa using hpasses

end ReadsAs
end Lexeme

/-- Every derivation stands wherever its tokens are placed. -/
theorem Derivation.derives {k : Nat} (d : Derivation k) :
    Derives k (d.tokens.map (·.item)) (d.steps.map (·.item)) := by
  induction d with
  | operand o p => exact .operand o
  | group p body q ih =>
    have hgroup := ih.group
    simpa [tokens] using hgroup
  | not p body ih =>
    have hnot := ih.not
    simpa [tokens] using hnot
  | raise body ih => exact ih.raise (Nat.le_succ _)
  | @binary k op member p left right ihl ihr =>
    have htier : op.tier = k + 1 := BinaryOp.mem_ofTier_iff.mp member
    have hl := ihl.raise (Nat.le_of_eq htier.symm)
    have hr := ihr.raise (Nat.le_sub_one_of_lt (Nat.le_of_eq htier.symm))
    have hbinary := (hl.binary op hr).raise (Nat.le_of_eq htier)
    simpa [tokens] using hbinary

/-- Characters that are read as a phrase of a tier, and the walk of it. -/
def Phrase (k : Nat) (cs : List Char) (walk : List Step) : Prop :=
  ∃ ts, Lexeme.ReadsAs cs ts ∧ Derives k ts walk

namespace Phrase

variable {j k : Nat} {cs ls rs : List Char} {walk lwalk rwalk : List Step}

theorem raise (h : Phrase j cs walk) (hjk : j ≤ k) : Phrase k cs walk := by
  obtain ⟨ts, hreads, hderives⟩ := h
  exact ⟨ts, hreads, hderives.raise hjk⟩

theorem group (h : Phrase 4 cs walk) : Phrase 0 ('(' :: (cs ++ [')'])) walk := by
  obtain ⟨ts, hreads, hderives⟩ := h
  exact ⟨_, hreads.group, hderives.group⟩

theorem not (h : Phrase 0 ('(' :: cs) walk) : Phrase 0 ('!' :: '(' :: cs) (walk ++ [.not]) := by
  obtain ⟨ts, hreads, hderives⟩ := h
  exact ⟨_, hreads.not, hderives.not⟩

theorem binary (op : BinaryOp) (hl : Phrase op.tier ls lwalk)
    (hr : Phrase (op.tier - 1) rs rwalk) :
    Phrase op.tier (ls ++ ' ' :: (op.text.toList ++ ' ' :: rs))
      (lwalk ++ (rwalk ++ [.binary op])) := by
  obtain ⟨ts, hts, hleft⟩ := hl
  obtain ⟨us, hus, hright⟩ := hr
  exact ⟨_, hts.binary op hus, hleft.binary op hright⟩

/-- Phrases in parentheses fit on both sides of every operator. -/
theorem binary_groups (op : BinaryOp) (hl : Phrase 4 ls lwalk) (hr : Phrase 4 rs rwalk) :
    Phrase 4 ('(' :: (ls ++ [')']) ++ ' ' :: (op.text.toList ++ ' ' :: '(' :: (rs ++ [')'])))
      (lwalk ++ (rwalk ++ [.binary op])) := by
  have hleft : Phrase op.tier ('(' :: (ls ++ [')'])) lwalk := hl.group.raise (Nat.zero_le _)
  have hright : Phrase (op.tier - 1) ('(' :: (rs ++ [')'])) rwalk := hr.group.raise (Nat.zero_le _)
  exact (hleft.binary op hright).raise op.tier_le_four

end Phrase

/-- A source is that of a condition with some walk exactly if its characters are a phrase with it. -/
theorem exists_parse_iff {source : String} {walk : List Step} :
    (∃ c, parse source = .ok c ∧ c.steps.map (·.item) = walk) ↔
      Phrase 4 source.toList walk := by
  constructor
  · rintro ⟨c, hc, rfl⟩
    obtain ⟨tokens, htokens, hsteps, -⟩ := parse_eq_ok_iff.mp hc
    obtain ⟨d, rfl, hwalk⟩ := toPostfix_eq_ok_iff.mp hsteps
    exact ⟨_, .of_tokenize htokens, hwalk ▸ d.derives⟩
  · rintro ⟨ts, hreads, hderives⟩
    obtain ⟨tokens, htokens, hitems⟩ := hreads.tokenize
    obtain ⟨d, hd, hwalk⟩ := hderives tokens hitems
    have hsteps : toPostfix tokens = .ok d.steps := toPostfix_eq_ok_iff.mpr ⟨d, hd, rfl⟩
    exact ⟨_, parse_eq_ok htokens hsteps, hwalk⟩

/-- A condition has the steps of a tree. -/
theorem exists_tree_of_parse {source : String} {c : Condition} (h : parse source = .ok c) :
    ∃ t : ConditionTree, c.steps.map (·.item) = t.bareSteps := by
  obtain ⟨tokens, -, hsteps, -⟩ := parse_eq_ok_iff.mp h
  obtain ⟨d, -, hd⟩ := toPostfix_eq_ok_iff.mp hsteps
  exact ⟨d.tree, by rw [← hd]; rfl⟩

end FieldGuard
