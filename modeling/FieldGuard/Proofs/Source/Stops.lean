import FieldGuard.Proofs.Source.Names

/-! Where reading stops. A source that cannot be read has a place at which no token starts, though a
character that is no blank stands there: an equals sign or a bar by itself, a quote that is not
closed, or a name with its colons wrong. The tokens up to that place are read as if the source
ended there. -/
namespace FieldGuard

section Symbols

variable {c : Char} {cs : List Char}

/-- Of the characters at which names end, blanks apart, only these two start no symbol alone. -/
theorem Symbol.read?_eq_none_iff (hbreak : Name.isBreak c = true) (hblank : isBlank c = false) :
    read? c cs = none ↔ (c = '=' ∨ c = '|') ∧ cs.head? ≠ some c := by
  rw [Name.isBreak, hblank, Bool.false_or, decide_eq_true_eq] at hbreak
  simp only [List.mem_cons, List.not_mem_nil, or_false] at hbreak
  unfold read?
  -- All others are symbols by themselves, whatever follows; these two need their like behind them.
  obtain rfl | rfl | rfl | rfl | rfl | rfl | rfl | rfl | rfl | rfl | rfl | rfl := hbreak <;>
    split <;> simp_all [List.head?_eq_some_iff]

end Symbols

namespace Name

/-- A name is in front of a text that starts with `c`: what the characters between quotes say, or
the characters up to the first one at which names end. -/
inductive Starts : Char → List Char → List Char → Prop
  | quoted (q : Quote) {raw rest : List Char} (h : Closes q raw) :
    Starts q.char (raw ++ q.char :: rest) (unescape raw)
  | bare {c : Char} {cs rest : List Char} (hbare : Bare (c :: cs)) (hquote : isQuote c = false)
      (hnumeral : Numeral.unsignedLength (c :: (cs ++ rest)) = 0) (hrest : Ends rest) :
    Starts c (cs ++ rest) (c :: cs)

/-- A word that stands for nothing is no literal. -/
theorem toOperand_of_ofWord {word : List Char} {cause : TokenCause}
    (h : ofWord word = .error cause) : toOperand word = .error cause := by
  unfold ofWord at h
  split at h
  · cases h
  · exact h

/-- No literal has a colon in it. -/
theorem ofWord_of_colon {word : List Char} (h : ':' ∈ word) : ofWord word = toOperand word := by
  unfold ofWord
  split
  · next o hliteral =>
    have hlower : ':' ∈ word.map Char.toLower := List.mem_map.mpr ⟨':', h, rfl⟩
    obtain hword | hword | rfl : word.map Char.toLower = ['t', 'r', 'u', 'e'] ∨
        word.map Char.toLower = ['f', 'a', 'l', 's', 'e'] ∨
        word = ['n', 'u', 'l', 'l', 'p', 't', 'r'] := by
      unfold literal? at hliteral
      grind
    · rw [hword] at hlower
      exact absurd hlower (by decide)
    · rw [hword] at hlower
      exact absurd hlower (by decide)
    · exact absurd h (by decide)
  · rfl

end Name

namespace Lexeme

/-- No token is in front of a text that starts with `c`, and why. -/
inductive Unreadable : Char → List Char → TokenCause → Prop
  | lone {c : Char} {cs : List Char} (hc : c = '=' ∨ c = '|') (hcs : cs.head? ≠ some c) :
    Unreadable c cs (.unexpectedCharacter c)
  | unterminated (q : Name.Quote) {cs : List Char}
      (h : ∀ raw rest, cs = raw ++ q.char :: rest → Name.Escapes raw) :
    Unreadable q.char cs .unterminatedQuote
  | name {c : Char} {cs name : List Char} {cause : TokenCause} (h : Name.Starts c cs name)
      (hcolon : ':' ∈ name) (hname : cause.colonsIn? = some (.ofList name))
      (hcause : Name.toOperand name = .error cause) :
    Unreadable c cs cause

section Next

variable {expecting : Bool} {c : Char} {cs : List Char} {cause : TokenCause}

theorem unreadable_of_quote {q : Name.Quote} (h : name q.char cs = .error cause) :
    Unreadable q.char cs cause := by
  rw [name_of_quote] at h
  cases hlength : Name.quotedLength? q.char false cs with
  | none =>
    rw [hlength] at h
    cases h
    exact .unterminated q (Name.quotedLength?_eq_none_iff.mp hlength)
  | some n =>
    obtain ⟨raw, rest, rfl, rfl, -⟩ := Name.exists_of_quotedLength? hlength
    rw [hlength] at h
    dsimp only at h
    rw [List.take_left] at h
    cases ho : Name.toOperand (Name.unescape raw) with
    | ok o =>
      rw [ho] at h
      cases h
    | error e =>
      rw [ho] at h
      cases h
      obtain ⟨hcolon, hname⟩ := Name.colons_of_toOperand ho
      exact .name (.quoted q (Name.quotedLength?_eq_some_iff.mp hlength)) hcolon hname ho

theorem unreadable_of_word (hbreak : Name.isBreak c = false) (hquote : Name.isQuote c = false)
    (hnumeral : Numeral.unsignedLength (c :: cs) = 0) (h : next false c cs = .error cause) :
    Unreadable c cs cause := by
  obtain ⟨word, rest, rfl, hbare, hrest⟩ := Name.exists_bare hbreak cs
  rw [next_word hbare hquote hnumeral hrest] at h
  cases ho : Name.ofWord (c :: word) with
  | ok o =>
    rw [ho] at h
    cases h
  | error e =>
    rw [ho] at h
    cases h
    have hcause := Name.toOperand_of_ofWord ho
    obtain ⟨hcolon, hname⟩ := Name.colons_of_toOperand hcause
    exact .name (.bare hbare hquote hnumeral hrest) hcolon hname hcause

/-- A text that cannot be read has no token in front. -/
theorem unreadable_of_next (hblank : isBlank c = false)
    (h : next expecting c cs = .error cause) : Unreadable c cs cause := by
  obtain ⟨t, n, hok, -⟩ | ⟨hread, hnumeral, hnext⟩ := takes_or_other expecting c cs
  · rw [hok] at h
    cases h
  -- Neither a symbol nor a numeral is in front, so it does not matter what is expected.
  rw [h] at hnext
  replace hnext := hnext.symm
  cases hbreak : Name.isBreak c with
  | true =>
    rw [next_break hread hbreak] at hnext
    cases hnext
    obtain ⟨hc, hcs⟩ := (Symbol.read?_eq_none_iff hbreak hblank).mp hread
    exact .lone hc hcs
  | false =>
    cases hquote : Name.isQuote c with
    | true =>
      obtain ⟨q, rfl⟩ := Name.isQuote_iff.mp hquote
      rw [next_quoted] at hnext
      exact unreadable_of_quote hnext
    | false => exact unreadable_of_word hbreak hquote hnumeral hnext

/-- Where no token is in front, none is read, whether or not an operand is expected. -/
theorem Unreadable.next_eq (h : Unreadable c cs cause) (expecting : Bool) :
    isBlank c = false ∧ next expecting c cs = .error cause := by
  cases h with
  | lone hc hcs =>
    have hbreak : Name.isBreak c = true := by obtain rfl | rfl := hc <;> rfl
    have hblank : isBlank c = false := by obtain rfl | rfl := hc <;> rfl
    have hsign : ¬Numeral.IsSign c := by
      obtain rfl | rfl := hc <;> rintro (h | h) <;> cases h
    have hread := (Symbol.read?_eq_none_iff hbreak hblank).mpr ⟨hc, hcs⟩
    refine ⟨hblank, ?_⟩
    rw [next_unsigned fun _ => Numeral.Spelling.signedLength_of_not_isSign hsign cs,
      next_break hread hbreak]
  | unterminated q h =>
    refine ⟨by cases q <;> rfl, ?_⟩
    rw [next_of_quote, name_of_quote, Name.quotedLength?_eq_none_iff.mpr h]
  | name hstarts hcolon hname hcause =>
    cases hstarts with
    | quoted q hclosed =>
      refine ⟨by cases q <;> rfl, ?_⟩
      rw [next_of_quote, name_of_quote, Name.quotedLength?_eq_some_iff.mpr hclosed]
      dsimp only
      rw [List.take_left, hcause]
      rfl
    | bare hbare hquote hnumeral hrest =>
      obtain ⟨hc, -⟩ := List.forall_mem_cons.mp hbare
      have hsign := Name.not_isSign_of_isBreak hc
      refine ⟨Name.isBlank_of_isBreak hc, ?_⟩
      rw [next_unsigned fun _ => Numeral.Spelling.signedLength_of_not_isSign hsign _,
        next_word hbare hquote hnumeral hrest, Name.ofWord_of_colon hcolon, hcause]
      rfl

end Next

end Lexeme

/-- A source cannot be read exactly if there is a place in it where no token starts and no blank
stands, with nothing but tokens and blanks in front. The mistake is the one at that place. The tokens
read on the way there are those of the source cut off at it, whatever stands behind. -/
theorem tokenize_eq_error_iff {source : String} {e : TokenError} :
    tokenize source = .error e ↔ ∃ front c back tokens expecting,
      source.toList = front ++ c :: back ∧ byteLength front = e.position ∧ isBlank c = false ∧
        tokenize (.ofList front) = .ok tokens ∧
        Lexeme.Passes (.start source) tokens ⟨expecting, e.position, c :: back⟩ ∧
        Lexeme.Unreadable c back e.cause := by
  constructor
  · intro h
    obtain ⟨tokens, ⟨expecting, p, _⟩, c, back, hpasses, rfl, rfl, hblank, hnext⟩ :=
      Lexeme.passes_of_run_error h
    obtain ⟨front, hsource, hposition⟩ := hpasses.suffix
    dsimp only at hposition
    rw [Nat.zero_add] at hposition
    exact ⟨front, c, back, tokens, expecting, hsource, hposition.symm, hblank,
      hpasses.tokenize_front hsource, hpasses, Lexeme.unreadable_of_next hblank hnext⟩
  · rintro ⟨front, c, back, tokens, expecting, -, -, -, -, hpasses, hunreadable⟩
    obtain ⟨hblank, hnext⟩ := hunreadable.next_eq expecting
    have hrun := hpasses.run_eq
    rw [Lexeme.run_error hblank hnext] at hrun
    exact hrun

end FieldGuard
