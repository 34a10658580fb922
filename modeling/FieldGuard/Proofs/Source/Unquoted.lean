import FieldGuard.Proofs.Source.Longest
import FieldGuard.Proofs.Source.Names

/-! Names that need no quotes. A source is read as a single property with its whole text as the name
exactly if none of the other forms of a token claims a part of it: no blank, symbol or colon is in
it, no quote and no numeral stands in front, and it is no literal as a whole. -/
namespace FieldGuard

namespace Numeral

variable {cs : List Char}

/-- A digit is a numeral, and so is a point with a digit behind it; nothing else starts one. -/
theorem unsignedLength_eq_zero_iff :
    unsignedLength cs = 0 ↔
      ∀ d : Char, d.isDigit → ¬[d] <+: cs ∧ ¬['.', d] <+: cs := by
  constructor
  · intro hzero d hd
    have hdigits : ∀ c ∈ [d], c.isDigit := List.forall_mem_singleton.mpr hd
    -- Both are numerals themselves, which are read to their end at least.
    let whole : Spelling := ⟨none, [d], [], none, List.cons_ne_nil _ _, hdigits, nofun⟩
    let half : Spelling := ⟨none, [], [d], none, List.cons_ne_nil _ _, nofun, hdigits⟩
    have absent (n : Spelling) (hsign : n.sign = none) : ¬n.chars <+: cs := by
      rintro ⟨rest, rfl⟩
      have hle : n.chars.length ≤ frontLength none.isSome (n.chars ++ rest) :=
        hsign ▸ n.length_chars_le rest
      have hlength : n.chars.length = 0 := Nat.le_zero.mp (hzero ▸ hle)
      exact n.chars_ne_nil (List.length_eq_zero_iff.mp hlength)
    exact ⟨absent whole rfl, absent half rfl⟩
  · intro h
    refine Decidable.byContradiction fun hne => ?_
    obtain ⟨n, rest, -, rfl, -⟩ := Spelling.exists_body_append hne
    have hfront : n.body <+: n.body ++ rest := List.prefix_append _ _
    unfold Spelling.body at h hfront
    cases hwhole : n.whole with
    | cons d ds =>
      have hd : d.isDigit := n.isDigit_whole d (hwhole ▸ List.mem_cons_self)
      refine (h d hd).1 ?_
      rw [hwhole]
      exact List.cons_prefix_cons.mpr ⟨rfl, List.nil_prefix⟩
    | nil =>
      have hne := n.digits_ne_nil
      rw [hwhole, List.nil_append] at hne
      obtain ⟨d, ds, hds⟩ := List.exists_cons_of_ne_nil hne
      have hd : d.isDigit := n.isDigit_fraction d (hds ▸ List.mem_cons_self)
      refine (h d hd).2 ?_
      rw [hwhole, hds]
      exact List.cons_prefix_cons.mpr ⟨rfl, List.cons_prefix_cons.mpr ⟨rfl, List.nil_prefix⟩⟩

end Numeral

namespace Name

/-- A name that is read as a property though no quotes are around it. -/
structure Unquoted (name : String) : Prop where
  nonempty : name ≠ ""
  no_blank : ∀ c ∈ name.toList, isBlank c = false
  no_symbol : ∀ c ∈ name.toList, c ∉ ['|', '=', '&', '>', '<', '!', '+', '-', '*', '/', '(', ')']
  no_colon : ':' ∉ name.toList
  no_quote : ∀ q : Quote, ¬[q.char] <+: name.toList
  no_numeral : ∀ d : Char, d.isDigit → ¬[d] <+: name.toList ∧ ¬['.', d] <+: name.toList
  not_null : name ≠ "nullptr"
  not_bool : ∀ word ∈ ["true", "false"], name.toList.map Char.toLower ≠ word.toList

section Unquoted

variable {c : Char} {cs word : List Char} {name : String}

theorem isBreak_eq_false_iff : isBreak c = false ↔
    isBlank c = false ∧ c ∉ ['|', '=', '&', '>', '<', '!', '+', '-', '*', '/', '(', ')'] := by
  rw [isBreak, Bool.or_eq_false_iff, decide_eq_false_iff_not]

theorem isQuote_eq_false_iff (cs : List Char) :
    isQuote c = false ↔ ∀ q : Quote, ¬[q.char] <+: c :: cs := by
  rw [Bool.eq_false_iff, ne_eq, isQuote_iff, not_exists]
  refine forall_congr' fun q => not_congr ?_
  rw [List.cons_prefix_cons]
  exact (and_iff_left List.nil_prefix).symm

theorem literal?_eq_none_iff : literal? name.toList = none ↔
    name ≠ "nullptr" ∧ ∀ word ∈ ["true", "false"], name.toList.map Char.toLower ≠ word.toList := by
  have hnull : name.toList = ['n', 'u', 'l', 'l', 'p', 't', 'r'] ↔ name = "nullptr" :=
    @String.toList_inj name "nullptr"
  have htrue : "true".toList = ['t', 'r', 'u', 'e'] := rfl
  have hfalse : "false".toList = ['f', 'a', 'l', 's', 'e'] := rfl
  unfold literal?
  simp only [List.forall_mem_cons, List.not_mem_nil, htrue, hfalse]
  grind

/-- Resolving escapes makes no text longer. -/
theorem length_unescape_le (cs : List Char) : (unescape cs).length ≤ cs.length := by
  fun_induction unescape cs with
  | case1 => exact Nat.le_refl _
  | case2 => exact Nat.le_refl _
  | case3 d rest e he ih => exact Nat.succ_le_succ (Nat.le_succ_of_le ih)
  | case4 d rest he ih => exact Nat.succ_le_succ (Nat.succ_le_succ ih)
  | case5 c d rest hc ih => exact Nat.succ_le_succ ih

theorem names_property_iff : Names word (.property name) ↔ word = name.toList ∧ ':' ∉ word := by
  constructor
  · intro h
    cases h with
    | property plain => exact ⟨rfl, plain.no_colon⟩
  · rintro ⟨rfl, hcolon⟩
    exact .property ⟨name, hcolon⟩

/-- A bare word stands for a property exactly if it is no literal and has no colon. -/
theorem ofWord_eq_property_iff : ofWord word = .ok (.property name) ↔
    literal? word = none ∧ word = name.toList ∧ ':' ∉ word := by
  rw [← names_property_iff, ← toOperand_eq_ok_iff]
  unfold ofWord
  cases hliteral : literal? word with
  | none => exact (and_iff_right rfl).symm
  | some o =>
    have hne : o ≠ .property name := by
      rintro rfl
      unfold literal? at hliteral
      grind
    exact iff_of_false (fun h => hne (Except.ok.inj h)) nofun

/-- What a name without quotes is to the forms that a token may have. -/
theorem unquoted_iff : Unquoted name ↔ ∃ c cs, name.toList = c :: cs ∧ Bare (c :: cs) ∧
    isQuote c = false ∧ Numeral.unsignedLength (c :: cs) = 0 ∧
      ofWord (c :: cs) = .ok (.property name) := by
  constructor
  · intro h
    have hne : name.toList ≠ [] := fun hnil => h.nonempty (String.toList_eq_nil_iff.mp hnil)
    obtain ⟨c, cs, hchars⟩ := List.exists_cons_of_ne_nil hne
    refine ⟨c, cs, hchars, ?_⟩
    rw [← hchars, Numeral.unsignedLength_eq_zero_iff, ofWord_eq_property_iff, literal?_eq_none_iff,
      isQuote_eq_false_iff cs, ← hchars]
    exact ⟨fun d hd => isBreak_eq_false_iff.mpr ⟨h.no_blank d hd, h.no_symbol d hd⟩, h.no_quote,
      h.no_numeral, ⟨h.not_null, h.not_bool⟩, rfl, h.no_colon⟩
  · rintro ⟨c, cs, hchars, hbare, hquote, hnumeral, hword⟩
    rw [isQuote_eq_false_iff cs] at hquote
    rw [← hchars] at hbare hquote hnumeral hword
    obtain ⟨hliteral, -, hcolon⟩ := ofWord_eq_property_iff.mp hword
    obtain ⟨hnull, hbool⟩ := literal?_eq_none_iff.mp hliteral
    have hbreak (d : Char) (hd : d ∈ name.toList) := isBreak_eq_false_iff.mp (hbare d hd)
    refine ⟨?_, fun d hd => (hbreak d hd).1, fun d hd => (hbreak d hd).2, hcolon, hquote,
      Numeral.unsignedLength_eq_zero_iff.mp hnumeral, hnull, hbool⟩
    rintro rfl
    cases hchars

end Unquoted
end Name

namespace Lexeme

variable {name : String} {rest lexeme : List Char}

/-- No form of a token but a bare word is a property that spells the whole text. -/
theorem Front.unquoted (h : Front true rest lexeme (.operand (.property name)))
    (hname : name.toList = lexeme ++ rest) : Name.Unquoted name := by
  cases h with
  | @quoted q raw _ _ ho =>
    -- Without its quotes the name is shorter than the text.
    obtain ⟨hraw, -⟩ := Name.names_property_iff.mp (Name.toOperand_eq_ok_iff.mp ho)
    have hle := Name.length_unescape_le raw
    rw [hraw, hname] at hle
    simp only [List.length_append, List.length_cons] at hle
    omega
  | @word c cs _ hbare hquote hnumeral ho _ =>
    obtain ⟨-, hword, -⟩ := Name.ofWord_eq_property_iff.mp ho
    rw [← List.cons_append, ← hname, ← hword] at hnumeral
    exact Name.unquoted_iff.mpr ⟨c, cs, hword.symm, hbare, hquote, hnumeral, ho⟩

/-- A source is read as the one property that it spells exactly if it needs no quotes. -/
theorem tokenize_eq_property_iff (name : String) :
    tokenize name = .ok [⟨.operand (.property name), 0⟩] ↔ Name.Unquoted name := by
  constructor
  · intro h
    obtain ⟨s, hpasses, hs⟩ := tokenize_eq_ok_iff.mp h
    obtain ⟨gap, c, lexeme, rest, hchars, -, hpos, hnext, -⟩ := hpasses.exists_token
    -- The token stands at the start, so no blank is in front of it.
    obtain rfl : gap = [] := by
      cases gap with
      | nil => rfl
      | cons b gap =>
        have hb := b.utf8Size_pos
        have hzero : 0 = 0 + byteLength (b :: gap) := hpos
        rw [byteLength_cons] at hzero
        omega
    exact (next_eq_ok_iff.mp hnext).unquoted hchars
  · intro h
    obtain ⟨c, cs, hchars, hbare, hquote, hnumeral, hword⟩ := Name.unquoted_iff.mp h
    rw [← List.append_nil cs] at hnumeral
    have hfront : Front true [] (c :: cs) _ := .word hbare hquote hnumeral hword rfl
    have hread := hfront.tokenize_eq
    rwa [← hchars, String.ofList_toList] at hread

end Lexeme
end FieldGuard
