import FieldGuard.Proofs.Grammar.Reading
import FieldGuard.Proofs.Source.Passage

/-! Signs and operators. Reading a source and reading its tokens keep apart whether an operand is
expected; after the same tokens they agree. So a sign in front of a digit belongs to the numeral
exactly where the grammar wants an operand, and no numeral with a sign is one operand too many. -/
namespace FieldGuard
namespace Postfix

theorem drain_ne_unexpectedOperand (waiting : List (Placed Waiting)) (o : Operand) (p : Nat) :
    drain waiting ≠ .error (.unexpectedOperand o p) := by
  fun_induction drain waiting with
  | case1 => nofun
  | case2 => nofun
  | case3 q rest ih => cases h : drain rest <;> simp_all [Except.map]
  | case4 op q rest ih => cases h : drain rest <;> simp_all [Except.map]

theorem finish_ne_unexpectedOperand (s : State) (o : Operand) (p : Nat) :
    finish s ≠ .error (.unexpectedOperand o p) := by
  unfold finish
  split
  · split <;> nofun
  · exact drain_ne_unexpectedOperand s.waiting o p

/-- An operand is one too many where none is expected. -/
theorem expecting_of_unexpectedOperand {s : State} {t : Placed Token} {o : Operand} {p : Nat}
    (h : step s t = .error (.unexpectedOperand o p)) :
    t = ⟨.operand o, p⟩ ∧ s.expecting = false := by
  obtain ⟨waiting, expecting, last⟩ := s
  obtain ⟨item, q⟩ := t
  rcases item with (op | _ | _ | _) | o'
  · cases expecting <;> simp [step] at h
  · cases expecting <;> simp [step] at h
  · cases expecting <;> simp [step] at h
  · cases expecting with
    | true =>
      simp only [step, emptyGroup, if_true] at h
      split at h <;> cases h
    | false =>
      simp only [step, Bool.false_eq_true, if_false] at h
      split at h <;> cases h
  · cases expecting with
    | true => simp [step] at h
    | false =>
      cases h
      exact ⟨rfl, rfl⟩

/-- What is read before an operand that is one too many. -/
theorem exists_of_unexpectedOperand {s : State} {ts : List (Placed Token)} {o : Operand} {p : Nat}
    (h : run s ts = .error (.unexpectedOperand o p)) :
    ∃ before after out last, ts = before ++ ⟨.operand o, p⟩ :: after ∧ Reads s before out last ∧
      last.expecting = false := by
  obtain ⟨before, t, after, out, last, rfl, hreads, ht⟩ | ⟨out, last, -, hf⟩ :=
    run_eq_error_iff.mp h
  · obtain ⟨rfl, hexpecting⟩ := expecting_of_unexpectedOperand ht
    exact ⟨before, after, out, last, rfl, hreads, hexpecting⟩
  · exact absurd hf (finish_ne_unexpectedOperand last o p)

end Postfix

namespace Lexeme

/-- After the same tokens an operand is expected alike. -/
theorem Passes.expecting_eq {r r' : Reader} {s s' : Postfix.State} {ts : List (Placed Token)}
    {out : List (Placed Step)} (h : Passes r ts r') (hs : Postfix.Reads s ts out s')
    (hstart : r.expecting = s.expecting) : r'.expecting = s'.expecting := by
  induction h generalizing s out with
  | stay =>
    cases hs
    exact hstart
  | blank _ _ ih => exact ih hs hstart
  | token _ _ _ ih =>
    cases hs with
    | cons head tail => exact ih tail head.expecting.symm

/-- A sign in front of a digit belongs to the numeral exactly where an operand is expected. -/
theorem next_sign {sign digit : Char} (hsign : Numeral.IsSign sign) (hdigit : digit.isDigit)
    (rest : List Char) :
    (∃ (n : Numeral.Spelling) (behind : List Char), n.sign ≠ none ∧
      n.chars ++ behind = sign :: digit :: rest ∧
      next true sign (digit :: rest) = .ok (.operand (.number n.value), n.chars.length - 1)) ∧
    ∃ op : BinaryOp, op.text = String.singleton sign ∧
      next false sign (digit :: rest) = .ok (.symbol (.binary op), 0) := by
  constructor
  · have hlength : Numeral.signedLength (sign :: digit :: rest) ≠ 0 := by
      have hunsigned := Numeral.unsignedLength_ne_zero hdigit rest
      rw [Numeral.Spelling.signedLength_of_isSign hsign]
      split <;> omega
    obtain ⟨n, behind, hn, hchars, heq⟩ := Numeral.Spelling.exists_chars_append hlength
    exact ⟨n, behind, hn, hchars, next_signed hchars heq⟩
  · obtain ⟨op, htext, hread⟩ := Symbol.read?_of_isSign hsign (digit :: rest)
    exact ⟨op, htext, next_symbol hread⟩

/-- What a sign in front of a digit is read as, where an operand is expected and where it is not. -/
def SignToken (expecting : Bool) (text : List Char) (sign : Char) (t : Token) : Prop :=
  if expecting then
    ∃ n : Numeral.Spelling, n.sign ≠ none ∧ n.chars <+: text ∧ t = .operand (.number n.value)
  else ∃ op : BinaryOp, op.text = String.singleton sign ∧ t = .symbol (.binary op)

theorem Passes.exists_sign {r s : Reader} {ts : List (Placed Token)} {sign digit : Char}
    {rest : List Char} (h : Passes r ts s) (hs : s.rest = [])
    (hr : r.rest = sign :: digit :: rest) (hsign : Numeral.IsSign sign) (hdigit : digit.isDigit) :
    ∃ t, ts.head? = some ⟨t, r.position⟩ ∧ SignToken r.expecting r.rest sign t := by
  have hblank : isBlank sign = false := by obtain rfl | rfl := hsign <;> rfl
  -- The sign is no blank, so a token starts with it.
  have front {gap behind : List Char} (hgap : ∀ c ∈ gap, isBlank c = true)
      (heq : gap ++ behind = sign :: digit :: rest) : gap = [] := by
    cases gap with
    | nil => rfl
    | cons c gap =>
      obtain rfl := (List.cons.inj heq).1
      exact absurd rfl (ne_of_isBlank (hgap c List.mem_cons_self) hblank)
  cases ts with
  | nil =>
    obtain ⟨gap, hrest, hgap⟩ := h.exists_blanks
    rw [hs, hr] at hrest
    rw [front hgap hrest.symm] at hrest
    cases hrest
  | cons t ts =>
    obtain ⟨gap, c, lexeme, behind, hrest, hgap, hpos, hnext, -⟩ := h.exists_token
    rw [hr] at hrest
    obtain rfl := front hgap hrest.symm
    obtain ⟨rfl, hbehind⟩ := List.cons.inj hrest
    rw [← hbehind] at hnext
    refine ⟨t.item, by rw [List.head?_cons, ← hpos.trans (Nat.add_zero _)], ?_⟩
    obtain ⟨⟨n, after, hn, hchars, hsigned⟩, op, htext, hunsigned⟩ := next_sign hsign hdigit rest
    cases hexpecting : r.expecting with
    | true =>
      rw [hexpecting, hsigned] at hnext
      have hitem := congrArg Prod.fst (Except.ok.inj hnext)
      exact ⟨n, hn, hr ▸ ⟨after, hchars⟩, hitem.symm⟩
    | false =>
      rw [hexpecting, hunsigned] at hnext
      have hitem := congrArg Prod.fst (Except.ok.inj hnext)
      exact ⟨op, htext, hitem.symm⟩

end Lexeme

/-- Wherever the tokens read so far are in order, the source and the grammar agree on whether an
operand is expected, and a sign in front of a digit belongs to the numeral behind it exactly if one
is. No operand that is one too many starts with a sign. -/
theorem operands_expected_alike {source : String} {tokens : List (Placed Token)}
    (h : tokenize source = .ok tokens) :
    (∀ k out s, Postfix.Reads Postfix.start (tokens.take k) out s →
      (∃ r, Lexeme.Passes (.start source) (tokens.take k) r) ∧
      ∀ r, Lexeme.Passes (.start source) (tokens.take k) r →
        r.expecting = s.expecting ∧
        ∀ sign digit rest, r.rest = sign :: digit :: rest → Numeral.IsSign sign → digit.isDigit →
          ∃ t, tokens[k]? = some ⟨t, r.position⟩ ∧ Lexeme.SignToken s.expecting r.rest sign t) ∧
    ∀ o p, parse source = .error (.grammar (.unexpectedOperand o p)) →
      ∃ front c back, source.toList = front ++ c :: back ∧ byteLength front = p ∧
        ¬Numeral.IsSign c := by
  obtain ⟨last, hpasses, hlast⟩ := Lexeme.tokenize_eq_ok_iff.mp h
  constructor
  · intro k out s hreads
    constructor
    · rw [← List.take_append_drop k tokens] at hpasses
      obtain ⟨r, hr, -⟩ := hpasses.split
      exact ⟨r, hr⟩
    · intro r hr
      have hexpecting : r.expecting = s.expecting := hr.expecting_eq hreads rfl
      refine ⟨hexpecting, fun sign digit rest hrest hsign hdigit => ?_⟩
      have hrun : tokenize source = .ok (tokens.take k ++ tokens.drop k) := by
        rw [List.take_append_drop, h]
      obtain ⟨u, hu, hend⟩ := hr.behind hrun
      rw [← hexpecting, ← List.head?_drop]
      exact hu.exists_sign hend hrest hsign hdigit
  · intro o p herror
    obtain ⟨before, after, out, s, rfl, hreads, hs⟩ :=
      Postfix.exists_of_unexpectedOperand ((parse_eq_grammar_iff h).mp herror)
    obtain ⟨r, hr, hbehind⟩ := hpasses.split
    obtain ⟨front, hfront, hposition⟩ := hr.suffix
    obtain ⟨gap, c, lexeme, back, hrest, -, hpos, hnext, -⟩ := hbehind.exists_token
    have hexpecting : r.expecting = false := (hr.expecting_eq hreads rfl).trans hs
    refine ⟨front ++ gap, c, lexeme ++ back, ?_, ?_, fun hsign => ?_⟩
    · rw [List.append_assoc, ← hrest]
      exact hfront
    · rw [byteLength_append, ← Nat.zero_add (byteLength front)]
      exact (hpos.trans (by rw [hposition]; rfl)).symm
    · -- Where no operand is expected the sign is an operator.
      obtain ⟨op, -, hread⟩ := Symbol.read?_of_isSign hsign (lexeme ++ back)
      rw [hexpecting, Lexeme.next_symbol hread] at hnext
      cases hnext

/-- Behind a name a minus is an operator, and behind an operator it is a sign. -/
theorem operands_expected_alike_minus :
    (∀ r, Lexeme.Passes (.start "A -5==-5") [⟨.operand (.property "A"), 0⟩] r →
      r.expecting = false) ∧
    ∀ r, Lexeme.Passes (.start "A -5==-5")
      [⟨.operand (.property "A"), 0⟩, ⟨.symbol (.binary .subtract), 2⟩,
        ⟨.operand (.number (Binary64.ofDecimal false 5 0)), 3⟩, ⟨.symbol (.binary .equal), 4⟩] r →
      r.expecting = true := by
  have h : tokenize "A -5==-5" = .ok
      [⟨.operand (.property "A"), 0⟩, ⟨.symbol (.binary .subtract), 2⟩,
        ⟨.operand (.number (Binary64.ofDecimal false 5 0)), 3⟩, ⟨.symbol (.binary .equal), 4⟩,
        ⟨.operand (.number (Binary64.ofDecimal true 5 0)), 6⟩] := by
    refine Lexeme.tokenize_eq_ok_iff.mpr ⟨⟨false, 8, []⟩, ?_, rfl⟩
    exact @Lexeme.Passes.token true 0 'A' [] [' ', '-', '5', '=', '=', '-', '5'] _ _ _ rfl rfl <|
      .blank rfl <| @Lexeme.Passes.token false 2 '-' [] ['5', '=', '=', '-', '5'] _ _ _ rfl rfl <|
      @Lexeme.Passes.token true 3 '5' [] ['=', '=', '-', '5'] _ _ _ rfl rfl <|
      @Lexeme.Passes.token false 4 '=' ['='] ['-', '5'] _ _ _ rfl rfl <|
      @Lexeme.Passes.token true 6 '-' ['5'] [] _ _ _ rfl rfl <| .stay _
  obtain ⟨halike, -⟩ := operands_expected_alike h
  constructor
  · intro r hr
    exact ((halike 1 _ _ (.cons (.operand _ _) (.nil _))).2 r hr).1
  · intro r hr
    exact ((halike 4 _ _ <| .cons (.operand _ _) <| .cons (.binary _ _) <|
      .cons (.operand _ _) <| .cons (.binary _ _) <| .nil _).2 r hr).1

end FieldGuard
