import FieldGuard.Proofs.Source.Passage

/-! What names stand for. A name without colons is a property, and two such names with a double
colon between them are a member of an enum; all other names are mistakes. Between quotes every name
is read as what it stands for, and no token has a name in it that stands for anything else. -/
namespace FieldGuard

/-- The name in which the colons are wrong. -/
def TokenCause.colonsIn? : TokenCause → Option String
  | .singleColon name => some name
  | .doubleColonAtStart name => some name
  | .doubleColonAtEnd name => some name
  | .multipleDoubleColons name => some name
  | .unterminatedQuote => none
  | .unexpectedCharacter _ => none

/-- No name in an operand has a colon, and both parts of an enum member are there. -/
def Operand.WellNamed : Operand → Prop
  | .property name => ':' ∉ name.toList
  | .enum type member => (type ≠ "" ∧ ':' ∉ type.toList) ∧ member ≠ "" ∧ ':' ∉ member.toList
  | .bool _ => True
  | .number _ => True
  | .null => True

namespace Name

/-- What a name stands for. -/
inductive Names : List Char → Operand → Prop
  | property (name : Plain) : Names name.text.toList (.property name.text)
  | enum (type member : Part) :
    Names (type.text.toList ++ ':' :: ':' :: member.text.toList) (.enum type.text member.text)

section Colons

variable {name type member : List Char} {o : Operand}

theorem eq_append_of_splitColons? (h : splitColons? name = some (type, member)) :
    name = type ++ ':' :: ':' :: member := by
  fun_induction splitColons? name generalizing type with
  | case1 rest =>
    cases h
    rfl
  | case2 c rest _ ih =>
    obtain ⟨⟨before, after⟩, hrest, heq⟩ := Option.map_eq_some_iff.mp h
    cases heq
    rw [ih hrest, List.cons_append]
  | case3 => cases h

theorem Names.wellNamed (h : Names name o) : o.WellNamed := by
  cases h with
  | property name => exact name.no_colon
  | enum type member =>
    have hne (p : Part) : p.text ≠ "" := fun h => p.nonempty (by rw [h]; rfl)
    exact ⟨⟨hne type, type.no_colon⟩, hne member, member.no_colon⟩

/-- The parts before and behind the first double colon decide. -/
theorem toOperand_of_splitColons? (h : splitColons? name = some (type, member)) :
    toOperand name =
      if type = [] then .error (.doubleColonAtStart (.ofList name))
      else if member = [] then .error (.doubleColonAtEnd (.ofList name))
      else if (splitColons? member).isSome then .error (.multipleDoubleColons (.ofList name))
      else if ':' ∈ type ∨ ':' ∈ member then .error (.singleColon (.ofList name))
      else .ok (.enum (.ofList type) (.ofList member)) := by
  have hcolon : ':' ∈ name := by simp [eq_append_of_splitColons? h]
  simp only [toOperand, if_pos hcolon, h]

/-- A name stands for something, or its colons are wrong. -/
theorem toOperand_cases (name : List Char) :
    (∃ o, toOperand name = .ok o ∧ Names name o) ∨
      ∃ cause, toOperand name = .error cause ∧ ':' ∈ name ∧
        cause.colonsIn? = some (.ofList name) := by
  have wrong {cause : TokenCause} (hcolon : ':' ∈ name) (h : toOperand name = .error cause)
      (hname : cause.colonsIn? = some (.ofList name)) :
      (∃ o, toOperand name = .ok o ∧ Names name o) ∨
        ∃ cause, toOperand name = .error cause ∧ ':' ∈ name ∧
          cause.colonsIn? = some (.ofList name) :=
    .inr ⟨cause, h, hcolon, hname⟩
  by_cases hcolon : ':' ∈ name
  · cases hsplit : splitColons? name with
    | none =>
      have hread : toOperand name = .error (.singleColon (.ofList name)) := by
        simp only [toOperand, if_pos hcolon, hsplit]
      exact wrong hcolon hread rfl
    | some parts =>
      obtain ⟨type, member⟩ := parts
      have hread := toOperand_of_splitColons? hsplit
      by_cases htype : type = []
      · exact wrong hcolon (hread.trans (if_pos htype)) rfl
      rw [if_neg htype] at hread
      by_cases hmember : member = []
      · exact wrong hcolon (hread.trans (if_pos hmember)) rfl
      rw [if_neg hmember] at hread
      by_cases hmore : (splitColons? member).isSome
      · exact wrong hcolon (hread.trans (if_pos hmore)) rfl
      rw [if_neg hmore] at hread
      by_cases hsides : ':' ∈ type ∨ ':' ∈ member
      · exact wrong hcolon (hread.trans (if_pos hsides)) rfl
      rw [if_neg hsides] at hread
      obtain ⟨hleft, hright⟩ := not_or.mp hsides
      have henum := Names.enum ⟨⟨.ofList type, by simpa using hleft⟩, by simpa using htype⟩
        ⟨⟨.ofList member, by simpa using hright⟩, by simpa using hmember⟩
      simp only [String.toList_ofList, ← eq_append_of_splitColons? hsplit] at henum
      exact .inl ⟨_, hread, henum⟩
  · have hproperty := Names.property ⟨.ofList name, by simpa using hcolon⟩
    simp only [String.toList_ofList] at hproperty
    exact .inl ⟨_, if_neg hcolon, hproperty⟩

/-- A name is read as what it stands for. -/
theorem toOperand_eq_ok_iff : toOperand name = .ok o ↔ Names name o := by
  constructor
  · intro h
    obtain ⟨o', ho, hnames⟩ | ⟨cause, herror, -, -⟩ := toOperand_cases name
    · rw [h] at ho
      cases ho
      exact hnames
    · rw [h] at herror
      cases herror
  · intro h
    cases h with
    | property name => exact toOperand_plain name
    | enum type member => exact toOperand_parts type member

/-- A name that stands for nothing has a colon in it, and the mistake tells the name. -/
theorem colons_of_toOperand {cause : TokenCause} (h : toOperand name = .error cause) :
    ':' ∈ name ∧ cause.colonsIn? = some (.ofList name) := by
  obtain ⟨o, ho, -⟩ | ⟨cause', herror, hcolon, hname⟩ := toOperand_cases name
  · rw [h] at ho
    cases ho
  · rw [h] at herror
    cases herror
    exact ⟨hcolon, hname⟩

end Colons

theorem wellNamed_of_literal? {word : List Char} {o : Operand} (h : literal? word = some o) :
    o.WellNamed := by
  obtain rfl | rfl | rfl : o = .bool true ∨ o = .bool false ∨ o = .null := by
    unfold literal? at h
    grind
  all_goals trivial

/-- A name between quotes, as a source. -/
def Quote.enclose (q : Quote) (name : String) : String := .ofList (quoted q name.toList)

end Name

namespace Lexeme

/-- A name between quotes is the whole source, and what it stands for its one token. -/
theorem tokenize_enclose (q : Name.Quote) (name : String) :
    tokenize (q.enclose name) = match Name.toOperand name.toList with
      | .ok o => .ok [⟨.operand o, 0⟩]
      | .error cause => .error ⟨cause, 0⟩ := by
  have hclosed := Name.quotedLength?_escape q name.toList []
  have hplain := Name.unescape_escape q name.toList
  cases ho : Name.toOperand name.toList with
  | ok o =>
    rw [← hplain] at ho
    exact (Front.quoted q hclosed ho : Front true [] _ _).tokenize_eq
  | error cause =>
    have hblank : isBlank q.char = false := by cases q <;> rfl
    have hnext : next true q.char (Name.escape q name.toList ++ [q.char]) = .error cause := by
      rw [next_of_quote, name_of_quote, hclosed]
      dsimp only
      rw [List.take_left, hplain, ho]
      rfl
    unfold tokenize Name.Quote.enclose Name.quoted
    rw [String.toList_ofList]
    exact run_error hblank hnext 0

/-- A token is no name, or one that stands for what the token says. -/
theorem Front.wellNamed {expecting : Bool} {rest lexeme : List Char} {o : Operand}
    (h : Front expecting rest lexeme (.operand o)) : o.WellNamed := by
  cases h with
  | signed n => trivial
  | unsigned n => trivial
  | quoted q _ ho => exact (Name.toOperand_eq_ok_iff.mp ho).wellNamed
  | word _ _ _ ho _ =>
    unfold Name.ofWord at ho
    split at ho
    · next hliteral =>
      cases ho
      exact Name.wellNamed_of_literal? hliteral
    · exact (Name.toOperand_eq_ok_iff.mp ho).wellNamed

end Lexeme

/-- Quoting loses nothing. Between quotes, with the quote and the backslash escaped, a name without
colons is read as that property, two such parts with a double colon between them as that member, and
any other name as a mistake in its colons; and no source has a token with other names in it. -/
theorem enclosed_names_read_as_written (q : Name.Quote) (name : String) :
    (':' ∉ name.toList → tokenize (q.enclose name) = .ok [⟨.operand (.property name), 0⟩]) ∧
    (∀ type member : Name.Part, name = type.text ++ "::" ++ member.text →
      tokenize (q.enclose name) = .ok [⟨.operand (.enum type.text member.text), 0⟩]) ∧
    (':' ∈ name.toList → (∀ type member : Name.Part, name ≠ type.text ++ "::" ++ member.text) →
      ∃ cause, tokenize (q.enclose name) = .error ⟨cause, 0⟩ ∧ cause.colonsIn? = some name) ∧
    ∀ source tokens, tokenize source = .ok tokens →
      ∀ t ∈ tokens, ∀ o, t.item = .operand o → o.WellNamed := by
  have hread := Lexeme.tokenize_enclose q name
  refine ⟨fun hcolon => ?_, fun type member hname => ?_, fun hcolon hname => ?_,
    fun source tokens h t ht o ho => ?_⟩
  · rw [Name.toOperand_plain ⟨name, hcolon⟩] at hread
    exact hread
  · have hchars : name.toList = type.text.toList ++ ':' :: ':' :: member.text.toList := by
      simp [hname]
    rw [hchars, Name.toOperand_parts type member] at hread
    exact hread
  · obtain ⟨o, -, hnames⟩ | ⟨cause, herror, -, hcolons⟩ := Name.toOperand_cases name.toList
    · generalize hchars : name.toList = chars at hnames
      cases hnames with
      | property plain => exact absurd (hchars ▸ hcolon) plain.no_colon
      | enum type member =>
        refine absurd ?_ (hname type member)
        rw [← String.toList_inj, hchars]
        simp
    · rw [herror] at hread
      exact ⟨cause, hread, by rw [hcolons, String.ofList_toList]⟩
  · obtain ⟨s, hpasses, -⟩ := Lexeme.tokenize_eq_ok_iff.mp h
    obtain ⟨expecting, lexeme, rest, hfront⟩ := hpasses.exists_front t ht
    rw [ho] at hfront
    exact hfront.wellNamed

/-- The empty name, a member with a backslash and a quote in it, and three colons. -/
theorem enclosed_marks_read_as_written :
    (tokenize "''" = .ok [⟨.operand (.property ""), 0⟩] ∧ (Operand.property "").WellNamed) ∧
    tokenize "'a\\\\::\\''" = .ok [⟨.operand (.enum "a\\" "'"), 0⟩] ∧
    ∃ cause, tokenize "\"a:::b\"" = .error ⟨cause, 0⟩ ∧ cause.colonsIn? = some "a:::b" := by
  obtain ⟨hempty, -, -, hnamed⟩ := enclosed_names_read_as_written .single ""
  obtain ⟨-, hparts, -, -⟩ := enclosed_names_read_as_written .single "a\\::'"
  obtain ⟨-, -, hwrong, -⟩ := enclosed_names_read_as_written .double "a:::b"
  have hread : tokenize "''" = .ok [⟨.operand (.property ""), 0⟩] := hempty (by decide)
  refine ⟨⟨hread, hnamed _ _ hread _ List.mem_cons_self _ rfl⟩, ?_, hwrong (by decide) ?_⟩
  · exact hparts ⟨⟨"a\\", by decide⟩, by decide⟩ ⟨⟨"'", by decide⟩, by decide⟩ rfl
  · intro type member h
    have hchars : "a:::b".toList = type.text.toList ++ ':' :: ':' :: member.text.toList := by
      simp [h]
    have hok := Name.toOperand_parts type member
    rw [← hchars] at hok
    cases hok

end FieldGuard
