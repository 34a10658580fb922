import FieldGuard.Proofs.Source.Bare
import FieldGuard.Proofs.Source.Lookahead
import FieldGuard.Proofs.Source.Quoted

/-! What a token is in front of a text. There are five forms in which a token can stand there; each
tells the characters that are taken, and what the text behind them has to be. That text may be
exchanged for one that stands apart. -/
namespace FieldGuard

section Symbols

variable {c : Char} {cs : List Char} {s : Symbol} {n : Nat}

/-- A symbol of one character is read before any text apart. -/
theorem Symbol.read?_settled {rest : List Char} (hrest : Apart rest)
    (h : read? c cs = some (s, 0)) : read? c rest = read? c cs := by
  rw [h]
  cases hrest with
  | nil =>
    unfold read? at h
    split at h <;> simp_all [read?]
  | @blank b hb rest =>
    have hequal : b ≠ '=' := ne_of_isBlank hb rfl
    have hand : b ≠ '&' := ne_of_isBlank hb rfl
    unfold read? at h
    split at h <;> simp_all [read?]
  | closing cs =>
    unfold read? at h
    split at h <;> simp_all [read?]

/-- A symbol is told by two characters. -/
theorem Symbol.read?_cons (c d : Char) (cs cs' : List Char) :
    read? c (d :: cs) = read? c (d :: cs') := by
  unfold read?
  split <;> simp_all

theorem Symbol.read?_length (h : read? c cs = some (s, n)) : n ≤ cs.length := by
  unfold read? at h
  split at h <;> simp_all <;> omega

/-- A symbol is read from the characters it is written in. -/
theorem Symbol.text_of_read? (h : read? c cs = some (s, n)) : s.text.toList = c :: cs.take n := by
  unfold read? at h
  split at h <;> cases h <;> rfl

/-- No blank is in a symbol. -/
theorem Symbol.isBlank_eq_false (s : Symbol) : ∀ c ∈ s.text.toList, isBlank c = false := by
  have hall : s.text.toList.all (fun c => !isBlank c) = true := by
    cases s with
    | binary op => cases op <;> rfl
    | _ => rfl
  intro c hc
  simpa using List.all_eq_true.mp hall c hc

/-- No symbol is a numeral with a sign. -/
theorem Symbol.signedLength_text (s : Symbol) : Numeral.signedLength s.text.toList = 0 := by
  cases s with
  | binary op => cases op <;> rfl
  | _ => rfl

/-- No symbol starts with a character that names may have. -/
theorem Symbol.read?_eq_none (h : Name.isBreak c = false) : read? c cs = none := by
  unfold read?
  split <;> first | rfl | simp [Name.isBreak] at h

/-- A sign is a symbol by itself. -/
theorem Symbol.read?_of_isSign (h : Numeral.IsSign c) (cs : List Char) :
    ∃ op : BinaryOp, op.text = String.singleton c ∧ read? c cs = some (.binary op, 0) := by
  obtain rfl | rfl := h
  · exact ⟨.subtract, rfl, rfl⟩
  · exact ⟨.add, rfl, rfl⟩

end Symbols

namespace Name

variable {quote : Char} {escaped : Bool} {cs : List Char} {n : Nat}

theorem isQuote_iff {c : Char} : isQuote c = true ↔ ∃ q : Quote, q.char = c := by
  simp only [isQuote, Bool.or_eq_true, beq_iff_eq]
  constructor
  · rintro (rfl | rfl)
    · exact ⟨.double, rfl⟩
    · exact ⟨.single, rfl⟩
  · rintro ⟨q, rfl⟩
    cases q
    · exact .inl rfl
    · exact .inr rfl

/-- What is read up to a closing quote does not depend on what is behind the quote. -/
theorem exists_of_quotedLength? (h : quotedLength? quote escaped cs = some n) :
    ∃ raw rest, cs = raw ++ quote :: rest ∧ raw.length = n ∧
      ∀ rest', quotedLength? quote escaped (raw ++ quote :: rest') = some n := by
  induction cs generalizing escaped n with
  | nil => cases h
  | cons c cs ih =>
    have further (escaped' : Bool) (heq : ∀ cs, quotedLength? quote escaped (c :: cs) =
        (quotedLength? quote escaped' cs).map (· + 1)) :
        ∃ raw rest, c :: cs = raw ++ quote :: rest ∧ raw.length = n ∧
          ∀ rest', quotedLength? quote escaped (raw ++ quote :: rest') = some n := by
      rw [heq] at h
      obtain ⟨k, hk, rfl⟩ := Option.map_eq_some_iff.mp h
      obtain ⟨raw, rest, rfl, rfl, hraw⟩ := ih hk
      refine ⟨c :: raw, rest, rfl, rfl, fun rest' => ?_⟩
      rw [List.cons_append, heq, hraw]
      rfl
    cases escaped with
    | true => exact further false fun _ => rfl
    | false =>
      by_cases hc : c = quote
      · subst hc
        rw [quotedLength?, if_neg Bool.false_ne_true, if_pos rfl] at h
        obtain rfl : 0 = n := Option.some.inj h
        exact ⟨[], cs, rfl, rfl, fun rest' => by simp [quotedLength?]⟩
      · exact further (c == '\\') fun _ => by simp [quotedLength?, hc]

end Name

namespace Lexeme

/-- All that can stand in front of a text as one token: the characters it is written in, where an
operand is expected or is not, and the token. -/
inductive Front (expecting : Bool) (rest : List Char) : List Char → Token → Prop
  | signed (n : Numeral.Spelling) (hexpecting : expecting = true) (hsign : n.sign ≠ none)
      (hlength : Numeral.signedLength (n.chars ++ rest) = n.chars.length) :
    Front expecting rest n.chars (.operand (.number n.value))
  | symbol {c : Char} {cs : List Char} (s : Symbol)
      (hsign : expecting = true → Numeral.signedLength (c :: (cs ++ rest)) = 0)
      (hread : Symbol.read? c (cs ++ rest) = some (s, cs.length)) :
    Front expecting rest (c :: cs) (.symbol s)
  | unsigned (n : Numeral.Spelling) (hsign : n.sign = none)
      (hlength : Numeral.unsignedLength (n.chars ++ rest) = n.chars.length) :
    Front expecting rest n.chars (.operand (.number n.value))
  | quoted (q : Name.Quote) {raw : List Char} {o : Operand}
      (hraw : Name.quotedLength? q.char false (raw ++ [q.char]) = some raw.length)
      (ho : Name.toOperand (Name.unescape raw) = .ok o) :
    Front expecting rest (q.char :: (raw ++ [q.char])) (.operand o)
  | word {c : Char} {cs : List Char} {o : Operand} (hbare : Name.Bare (c :: cs))
      (hquote : Name.isQuote c = false)
      (hnumeral : Numeral.unsignedLength (c :: (cs ++ rest)) = 0)
      (ho : Name.ofWord (c :: cs) = .ok o) (hrest : Name.Ends rest) :
    Front expecting rest (c :: cs) (.operand o)

section Next

variable {expecting : Bool} {c : Char} {cs rest : List Char}

theorem numeral?_chars (n : Numeral.Spelling) (rest : List Char) :
    numeral? n.chars.length (n.chars ++ rest) =
      some (.operand (.number n.value), n.chars.length - 1) := by
  obtain ⟨c, cs, hchars⟩ := List.exists_cons_of_ne_nil n.chars_ne_nil
  have hparse := n.parse?_chars
  rw [hchars] at hparse ⊢
  simp [numeral?, hparse]

theorem frontNumeral?_of_chars {signed : Bool} {n : Numeral.Spelling}
    (hchars : n.chars ++ rest = cs) (hlength : Numeral.frontLength signed cs = n.chars.length) :
    frontNumeral? signed cs = some (.operand (.number n.value), n.chars.length - 1) := by
  rw [frontNumeral?, hlength, ← hchars, numeral?_chars]

theorem frontNumeral?_of_length_zero {signed : Bool} (h : Numeral.frontLength signed cs = 0) :
    frontNumeral? signed cs = none := by
  rw [frontNumeral?, h]
  rfl

/-- Without a signed numeral in front it does not matter whether an operand is expected. -/
theorem next_unsigned (h : expecting = true → Numeral.signedLength (c :: cs) = 0) :
    next expecting c cs = next false c cs := by
  cases expecting with
  | false => rfl
  | true =>
    have hnone : frontNumeral? true (c :: cs) = none := frontNumeral?_of_length_zero (h rfl)
    unfold next
    rw [hnone]
    rfl

theorem next_symbol {s : Symbol} {n : Nat} (h : Symbol.read? c cs = some (s, n)) :
    next false c cs = .ok (.symbol s, n) := by
  simp [next, h]

theorem next_signed {n : Numeral.Spelling} (hchars : n.chars ++ rest = c :: cs)
    (hlength : Numeral.signedLength (c :: cs) = n.chars.length) :
    next true c cs = .ok (.operand (.number n.value), n.chars.length - 1) := by
  have hfront : frontNumeral? true (c :: cs) = _ := frontNumeral?_of_chars hchars hlength
  unfold next
  rw [if_pos rfl, hfront]

theorem next_numeral {n : Numeral.Spelling} (hread : Symbol.read? c cs = none)
    (hchars : n.chars ++ rest = c :: cs)
    (hlength : Numeral.unsignedLength (c :: cs) = n.chars.length) :
    next false c cs = .ok (.operand (.number n.value), n.chars.length - 1) := by
  have hfront : frontNumeral? false (c :: cs) = _ := frontNumeral?_of_chars hchars hlength
  unfold next
  rw [hread, hfront]
  rfl

theorem next_quoted {q : Name.Quote} : next false q.char cs = name q.char cs := by
  cases q <;> rfl

/-- No numeral starts with a quote. -/
theorem next_of_quote (expecting : Bool) (q : Name.Quote) (cs : List Char) :
    next expecting q.char cs = name q.char cs := by
  have hsigned : Numeral.signedLength (q.char :: cs) = 0 := by cases q <;> rfl
  rw [next_unsigned fun _ => hsigned, next_quoted]

theorem name_of_quote (q : Name.Quote) (cs : List Char) :
    name q.char cs = match Name.quotedLength? q.char false cs with
      | none => .error .unterminatedQuote
      | some n =>
        (Name.toOperand (Name.unescape (cs.take n))).map fun o => (.operand o, n + 1) :=
  if_pos (Name.isQuote_iff.mpr ⟨q, rfl⟩)

/-- Neither a symbol nor a numeral is in front: a literal is, or a name. -/
theorem next_other (hread : Symbol.read? c cs = none)
    (hnumeral : Numeral.unsignedLength (c :: cs) = 0) :
    next false c cs = match Name.keyword? (c :: cs) with
      | some (o, n) => .ok (.operand o, n - 1)
      | none => name c cs := by
  have hnone : frontNumeral? false (c :: cs) = none := frontNumeral?_of_length_zero hnumeral
  unfold next
  rw [hread, hnone]
  rfl

/-- A character that ends names and starts no symbol starts no token. -/
theorem next_break (hread : Symbol.read? c cs = none) (hbreak : Name.isBreak c = true) :
    next false c cs = .error (.unexpectedCharacter c) := by
  have hnumeral : Numeral.unsignedLength (c :: cs) = 0 := by
    refine Decidable.byContradiction fun hne => ?_
    rw [Numeral.isBreak_of_isFront (Numeral.isFront_of_unsignedLength hne)] at hbreak
    cases hbreak
  have hkeyword : Name.keyword? ([] ++ c :: cs) = none :=
    Name.keyword?_append (by decide) hbreak
  have hquote : Name.isQuote c = false := by
    refine Bool.eq_false_iff.mpr fun h => ?_
    obtain ⟨q, rfl⟩ := Name.isQuote_iff.mp h
    cases q <;> cases hbreak
  rw [next_other hread hnumeral, ← List.nil_append (c :: cs), hkeyword, name, hquote, hbreak]
  rfl

theorem next_word (hbare : Name.Bare (c :: cs)) (hquote : Name.isQuote c = false)
    (hnumeral : Numeral.unsignedLength (c :: (cs ++ rest)) = 0) (hrest : Name.Ends rest) :
    next false c (cs ++ rest) =
      (Name.ofWord (c :: cs)).map fun o => (.operand o, cs.length) := by
  obtain ⟨hc, hcs⟩ := List.forall_mem_cons.mp hbare
  have hkeyword := Name.keyword?_append hbare hrest
  rw [List.cons_append] at hkeyword
  rw [next_other (Symbol.read?_eq_none hc) hnumeral, hkeyword, Name.ofWord]
  cases Name.literal? (c :: cs) with
  | some o => rfl
  | none =>
    have hname : (cs ++ rest).takeWhile (fun d => !Name.isBreak d) = cs := by
      have hall : ∀ d ∈ cs, (!Name.isBreak d) = true := fun d hd => by rw [hcs d hd]; rfl
      rw [List.takeWhile_append_of_pos hall, hrest.takeWhile_eq_nil, List.append_nil]
    simp [name, hquote, hc, hname]

end Next

variable {expecting : Bool} {lexeme rest : List Char} {t : Token}

/-- A token in front of a text is read, and nothing else is taken. -/
theorem Front.next_eq (h : Front expecting rest lexeme t) :
    ∃ c cs, lexeme = c :: cs ∧ isBlank c = false ∧
      next expecting c (cs ++ rest) = .ok (t, cs.length) := by
  cases h with
  | signed n hexpecting hsign hlength =>
    obtain ⟨s, hs⟩ := Option.ne_none_iff_exists'.mp hsign
    have hchars : n.chars = s.char :: n.body := by rw [Numeral.Spelling.chars, hs]; rfl
    refine ⟨s.char, n.body, hchars, by cases s <;> rfl, ?_⟩
    rw [hchars, List.cons_append] at hlength
    have happend : n.chars ++ rest = s.char :: (n.body ++ rest) := by rw [hchars]; rfl
    rw [hexpecting, next_signed happend (by rw [hlength, hchars]), hchars]
    rfl
  | @symbol c cs s hsign hread =>
    have hc : c ∈ s.text.toList := by
      rw [Symbol.text_of_read? hread]
      exact List.mem_cons_self
    refine ⟨c, cs, rfl, s.isBlank_eq_false c hc, ?_⟩
    rw [next_unsigned hsign, next_symbol hread]
  | unsigned n hsign hlength =>
    obtain ⟨c, cs, hbody, hc⟩ := n.exists_body
    have hchars : n.chars = c :: cs := (Numeral.Spelling.chars_of_sign hsign).trans hbody
    refine ⟨c, cs, hchars, Numeral.isBlank_eq_false hc, ?_⟩
    rw [hchars, List.cons_append] at hlength
    have hsigned : Numeral.signedLength (c :: (cs ++ rest)) = 0 :=
      Numeral.Spelling.signedLength_of_not_isSign hc.not_isSign _
    have happend : n.chars ++ rest = c :: (cs ++ rest) := by rw [hchars]; rfl
    have hread : Symbol.read? c (cs ++ rest) = none :=
      Symbol.read?_eq_none (Numeral.isBreak_of_isFront hc)
    rw [next_unsigned fun _ => hsigned, next_numeral hread happend (by rw [hlength, hchars]),
      hchars]
    rfl
  | @quoted q raw o hraw ho =>
    obtain ⟨raw', rest', heq, hlength, hany⟩ := Name.exists_of_quotedLength? hraw
    obtain ⟨rfl, -⟩ := List.append_inj heq hlength.symm
    refine ⟨q.char, raw ++ [q.char], rfl, by cases q <;> rfl, ?_⟩
    rw [next_of_quote, name_of_quote, List.append_assoc, List.singleton_append, hany]
    dsimp only
    rw [List.take_left, ho]
    simp [Except.map]
  | @word c cs o hbare hquote hnumeral ho hrest =>
    obtain ⟨hc, -⟩ := List.forall_mem_cons.mp hbare
    have hsigned : Numeral.signedLength (c :: (cs ++ rest)) = 0 :=
      Numeral.Spelling.signedLength_of_not_isSign (Name.not_isSign_of_isBreak hc) _
    refine ⟨c, cs, rfl, Name.isBlank_of_isBreak hc, ?_⟩
    rw [next_unsigned fun _ => hsigned, next_word hbare hquote hnumeral hrest, ho]
    rfl

/-- A token in front of a text starts with `c` and takes the next `n` characters. -/
def Takes (expecting : Bool) (c : Char) (cs : List Char) (t : Token) (n : Nat) : Prop :=
  ∃ lexeme rest, cs = lexeme ++ rest ∧ lexeme.length = n ∧ Front expecting rest (c :: lexeme) t

section Takes

variable {c : Char} {cs : List Char} {n : Nat}

theorem takes_numeral {m : Numeral.Spelling} (hchars : m.chars ++ rest = c :: cs)
    (hfront : Front expecting rest m.chars t) : Takes expecting c cs t (m.chars.length - 1) := by
  obtain ⟨d, ds, hd⟩ := List.exists_cons_of_ne_nil m.chars_ne_nil
  rw [hd, List.cons_append] at hchars
  obtain ⟨rfl, rfl⟩ := List.cons.inj hchars
  exact ⟨ds, rest, rfl, by rw [hd]; rfl, hd ▸ hfront⟩

theorem takes_symbol {s : Symbol} (hsign : expecting = true → Numeral.signedLength (c :: cs) = 0)
    (hread : Symbol.read? c cs = some (s, n)) : Takes expecting c cs (.symbol s) n := by
  have hn : (cs.take n).length = n := List.length_take_of_le (Symbol.read?_length hread)
  have hcs : cs.take n ++ cs.drop n = cs := List.take_append_drop n cs
  refine ⟨cs.take n, cs.drop n, hcs.symm, hn, .symbol s ?_ ?_⟩
  · rw [hcs]
    exact hsign
  · rw [hcs, hn, hread]

theorem takes_quoted {q : Name.Quote} (h : name q.char cs = .ok (t, n)) :
    Takes expecting q.char cs t n := by
  rw [name_of_quote] at h
  split at h
  · cases h
  · next k hk =>
    obtain ⟨raw, rest, rfl, rfl, hany⟩ := Name.exists_of_quotedLength? hk
    rw [List.take_left] at h
    cases ho : Name.toOperand (Name.unescape raw) with
    | error e => simp [ho, Except.map] at h
    | ok o =>
      rw [ho] at h
      cases h
      exact ⟨raw ++ [q.char], rest, by simp, by simp, .quoted q (hany []) ho⟩

theorem takes_word (hc : Name.isBreak c = false) (hquote : Name.isQuote c = false)
    (hnumeral : Numeral.unsignedLength (c :: cs) = 0) (h : next false c cs = .ok (t, n)) :
    Takes expecting c cs t n := by
  obtain ⟨word, rest, rfl, hbare, hrest⟩ := Name.exists_bare hc cs
  rw [next_word hbare hquote hnumeral hrest] at h
  cases ho : Name.ofWord (c :: word) with
  | error e => simp [ho, Except.map] at h
  | ok o =>
    rw [ho] at h
    cases h
    exact ⟨word, rest, rfl, rfl, .word hbare hquote hnumeral ho hrest⟩

/-- Neither a symbol nor a numeral is in front: a name is, or a literal. -/
theorem takes_other (hread : Symbol.read? c cs = none)
    (hnumeral : Numeral.unsignedLength (c :: cs) = 0) (h : next false c cs = .ok (t, n)) :
    Takes expecting c cs t n := by
  cases hbreak : Name.isBreak c with
  | true =>
    rw [next_break hread hbreak] at h
    cases h
  | false =>
    cases hquote : Name.isQuote c with
    | true =>
      obtain ⟨q, rfl⟩ := Name.isQuote_iff.mp hquote
      rw [next_quoted] at h
      exact takes_quoted h
    | false => exact takes_word hbreak hquote hnumeral h

/-- A numeral or a symbol in front is read; without one, a name or a literal may be. -/
theorem takes_or_other (expecting : Bool) (c : Char) (cs : List Char) :
    (∃ t n, next expecting c cs = .ok (t, n) ∧ Takes expecting c cs t n) ∨
      Symbol.read? c cs = none ∧ Numeral.unsignedLength (c :: cs) = 0 ∧
        next expecting c cs = next false c cs := by
  by_cases hsigned : expecting = true → Numeral.signedLength (c :: cs) = 0
  · have hnext := next_unsigned hsigned
    cases hread : Symbol.read? c cs with
    | some r =>
      obtain ⟨s, k⟩ := r
      exact .inl ⟨_, _, hnext.trans (next_symbol hread), takes_symbol hsigned hread⟩
    | none =>
      by_cases hnumeral : Numeral.unsignedLength (c :: cs) = 0
      · exact .inr ⟨rfl, hnumeral, hnext⟩
      · obtain ⟨m, rest, hsign, hbody, hlength⟩ := Numeral.Spelling.exists_body_append hnumeral
        rw [← Numeral.Spelling.chars_of_sign hsign] at hbody hlength
        exact .inl ⟨_, _, hnext.trans (next_numeral hread hbody hlength),
          takes_numeral hbody (.unsigned m hsign (by rw [hbody, hlength]))⟩
  · obtain ⟨rfl, hne⟩ := Classical.not_imp.mp hsigned
    obtain ⟨m, rest, hsign, hchars, hlength⟩ := Numeral.Spelling.exists_chars_append hne
    exact .inl ⟨_, _, next_signed hchars hlength,
      takes_numeral hchars (.signed m rfl hsign (by rw [hchars, hlength]))⟩

/-- What is read as a token is a token in front of the text behind it. -/
theorem takes_of_next (h : next expecting c cs = .ok (t, n)) : Takes expecting c cs t n := by
  obtain ⟨t', n', hnext, htakes⟩ | ⟨hread, hnumeral, hnext⟩ := takes_or_other expecting c cs
  · rw [hnext] at h
    cases h
    exact htakes
  · rw [hnext] at h
    exact takes_other hread hnumeral h

/-- The tokens that are read are those in front. -/
theorem next_eq_ok_iff :
    next expecting c (cs ++ rest) = .ok (t, cs.length) ↔ Front expecting rest (c :: cs) t := by
  constructor
  · intro h
    obtain ⟨lexeme, rest', heq, hlength, hfront⟩ := takes_of_next h
    obtain ⟨rfl, rfl⟩ := List.append_inj heq hlength.symm
    exact hfront
  · intro h
    obtain ⟨_, _, heq, -, hnext⟩ := h.next_eq
    cases heq
    exact hnext

end Takes

/-- The text behind a token may be exchanged from any place on for one that stands apart. -/
theorem Front.settled {front back : List Char} (h : Front expecting (front ++ back) lexeme t)
    (hrest : Apart rest) : Front expecting (front ++ rest) lexeme t := by
  cases h with
  | signed n hexpecting hsign hlength =>
    refine .signed n hexpecting hsign ?_
    rw [← List.append_assoc] at hlength ⊢
    have hle : Numeral.signedLength (n.chars ++ front ++ back) ≤ (n.chars ++ front).length := by
      rw [hlength, List.length_append]
      exact Nat.le_add_right _ _
    rw [Numeral.signedLength_settled hrest hle, hlength]
  | @symbol c cs s hsign hread =>
    refine .symbol s (fun hexpecting => ?_) ?_
    · have hzero := hsign hexpecting
      rw [← List.append_assoc, ← List.cons_append] at hzero ⊢
      rw [Numeral.signedLength_settled hrest (by rw [hzero]; exact Nat.zero_le _), hzero]
    · rw [← hread, ← List.append_assoc, ← List.append_assoc]
      match hcs : cs ++ front with
      | d :: ds => exact Symbol.read?_cons c d _ _
      | [] =>
        obtain ⟨rfl, rfl⟩ := List.append_eq_nil_iff.mp hcs
        exact Symbol.read?_settled hrest hread
  | unsigned n hsign hlength =>
    refine .unsigned n hsign ?_
    rw [← List.append_assoc] at hlength ⊢
    have hle : Numeral.unsignedLength (n.chars ++ front ++ back) ≤ (n.chars ++ front).length := by
      rw [hlength, List.length_append]
      exact Nat.le_add_right _ _
    rw [Numeral.unsignedLength_settled hrest hle, hlength]
  | quoted q hraw ho => exact .quoted q hraw ho
  | word hbare hquote hnumeral ho hends =>
    refine .word hbare hquote ?_ ho (hends.append (Name.ends_of_apart hrest))
    rw [← List.append_assoc, ← List.cons_append] at hnumeral ⊢
    rw [Numeral.unsignedLength_settled hrest (by rw [hnumeral]; exact Nat.zero_le _), hnumeral]

/-- What a lexeme stands for depends neither on the text behind it nor on the tokens before it. -/
theorem Front.alone (h : Front expecting rest lexeme t) : Front true [] lexeme t := by
  have hsettled : Front expecting ([] ++ []) lexeme t := Front.settled h .nil
  cases hsettled with
  | signed n _ hsign hlength => exact .signed n rfl hsign hlength
  | symbol s _ hread =>
    refine .symbol s (fun _ => ?_) hread
    have htext := Symbol.text_of_read? hread
    rw [List.take_left] at htext
    rw [List.append_nil, ← htext, s.signedLength_text]
  | unsigned n hsign hlength => exact .unsigned n hsign hlength
  | quoted q hraw ho => exact .quoted q hraw ho
  | word hbare hquote hnumeral ho hrest => exact .word hbare hquote hnumeral ho hrest

/-- No blank is at the end of a token. -/
theorem Front.isBlank_eq_false {c : Char} (h : Front expecting rest lexeme t)
    (hc : lexeme.getLast? = some c) : isBlank c = false := by
  have hmem := List.mem_of_getLast? hc
  cases h with
  | signed n => exact n.isBlank_eq_false c hmem
  | unsigned n => exact n.isBlank_eq_false c hmem
  | symbol s hsign hread =>
    refine s.isBlank_eq_false c ?_
    rwa [Symbol.text_of_read? hread, List.take_left]
  | quoted q =>
    rw [← List.cons_append, List.getLast?_concat] at hc
    cases hc
    cases q <;> rfl
  | word hbare =>
    refine Bool.eq_false_iff.mpr fun hblank => ?_
    have hbreak := Name.isBreak_of_isBlank hblank
    rw [hbare c hmem] at hbreak
    cases hbreak

end Lexeme
end FieldGuard
