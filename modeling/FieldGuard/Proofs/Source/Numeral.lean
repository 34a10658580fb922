import FieldGuard.Condition.Lexeme

/-! Numerals as they are written. A numeral that nothing, a blank or a closing parenthesis follows is
read whole, its value is the double nearest to the number that its digits say, and nothing else is
read whole as a numeral. -/
namespace FieldGuard

/-- The rest of a text behind a token: there is none, or a blank or a closing parenthesis follows. -/
inductive Apart : List Char → Prop
  | nil : Apart []
  | blank {c : Char} (h : isBlank c = true) (cs : List Char) : Apart (c :: cs)
  | closing (cs : List Char) : Apart (')' :: cs)

theorem ne_of_isBlank {c d : Char} (hc : isBlank c = true) (hd : isBlank d = false) : c ≠ d := by
  rintro rfl
  rw [hc] at hd
  cases hd

/-- A text apart from what is in front of it starts with no other character. -/
theorem Apart.ne_cons {d : Char} {rest cs : List Char} (h : Apart rest) (hd : isBlank d = false)
    (hclosing : d ≠ ')') : rest ≠ d :: cs := by
  rintro rfl
  cases h with
  | blank hc _ => exact ne_of_isBlank hc hd rfl
  | closing _ => exact hclosing rfl

namespace Numeral

inductive Sign where
  | plus
  | minus
  deriving DecidableEq, Repr

def Sign.char : Sign → Char
  | .plus => '+'
  | .minus => '-'

/-- The power of ten of a numeral: a mark, an optional sign and digits. -/
structure Exponent where
  capital : Bool
  sign : Option Sign
  digits : List Char
  digits_ne_nil : digits ≠ []
  isDigit : ∀ c ∈ digits, c.isDigit

/-- A numeral: an optional sign, digits before and behind an optional point, and an optional power
of ten. The point is there where digits follow it. -/
structure Spelling where
  sign : Option Sign
  whole : List Char
  fraction : List Char
  exponent : Option Exponent
  digits_ne_nil : whole ++ fraction ≠ []
  isDigit_whole : ∀ c ∈ whole, c.isDigit
  isDigit_fraction : ∀ c ∈ fraction, c.isDigit

def signChars : Option Sign → List Char
  | none => []
  | some s => [s.char]

namespace Exponent

def mark (e : Exponent) : Char := if e.capital then 'E' else 'e'

def chars (e : Exponent) : List Char := e.mark :: (signChars e.sign ++ e.digits)

def value (e : Exponent) : Int :=
  if e.sign = some .minus then -(digitsValue e.digits : Int) else digitsValue e.digits

end Exponent

def exponentChars : Option Exponent → List Char
  | none => []
  | some e => e.chars

def pointChars (fraction : List Char) : List Char :=
  if fraction = [] then [] else '.' :: fraction

namespace Spelling

/-- A numeral without its sign. -/
def body (n : Spelling) : List Char :=
  n.whole ++ (pointChars n.fraction ++ exponentChars n.exponent)

def chars (n : Spelling) : List Char := signChars n.sign ++ n.body

/-- The double nearest to the number that the digits say. -/
def value (n : Spelling) : Float :=
  Binary64.ofDecimal (n.sign = some .minus) (digitsValue (n.whole ++ n.fraction))
    ((n.exponent.map Exponent.value).getD 0 - n.fraction.length)

end Spelling

/-- No digit stands in front of a text. -/
def NoDigit (cs : List Char) : Prop := cs.takeWhile Char.isDigit = []

theorem NoDigit.cons {c : Char} {cs : List Char} (h : c.isDigit = false) : NoDigit (c :: cs) :=
  List.takeWhile_cons_of_neg (by simp [h])

/-- A sign may start with the character. -/
def IsSign (c : Char) : Prop := c = '-' ∨ c = '+'

/-- A numeral without a sign may start with the character. -/
def IsFront (c : Char) : Prop := c = '.' ∨ c.isDigit

theorem isBlank_eq_false {c : Char} (h : IsFront c) : isBlank c = false := by
  obtain rfl | h := h
  · rfl
  · simp only [Char.isDigit, Bool.and_eq_true, decide_eq_true_eq, UInt32.le_iff_toNat_le] at h
    have hlow : 48 ≤ c.toNat := h.1
    have hhigh : c.toNat ≤ 57 := h.2
    simp only [isBlank, Bool.or_eq_false_iff, Bool.and_eq_false_iff, beq_eq_false_iff_ne,
      decide_eq_false_iff_not]
    omega

theorem noDigit_of_apart {rest : List Char} (h : Apart rest) : NoDigit rest := by
  cases h with
  | nil => rfl
  | blank hc cs =>
    refine .cons (Bool.eq_false_iff.mpr fun hd => ?_)
    rw [isBlank_eq_false (.inr hd)] at hc
    cases hc
  | closing cs => exact .cons rfl

theorem Sign.isSign (s : Sign) : IsSign s.char := by
  cases s with
  | plus => exact .inr rfl
  | minus => exact .inl rfl

theorem IsSign.exists_char {c : Char} (h : IsSign c) : ∃ s : Sign, s.char = c := by
  obtain rfl | rfl := h
  · exact ⟨.minus, rfl⟩
  · exact ⟨.plus, rfl⟩

theorem IsFront.not_isSign {c : Char} (h : IsFront c) : ¬IsSign c := by
  obtain rfl | h := h
  · rintro (h | h) <;> cases h
  · rintro (rfl | rfl) <;> cases h

theorem splitSign_of_not_isSign {c : Char} {cs : List Char} (h : ¬IsSign c) :
    splitSign (c :: cs) = (false, c :: cs) := by
  unfold splitSign
  split
  · next heq => exact absurd (.inl (List.cons.inj heq).1) h
  · next heq => exact absurd (.inr (List.cons.inj heq).1) h
  · rfl

theorem splitSign_signChars (sign : Option Sign) {c : Char} {cs : List Char} (h : ¬IsSign c) :
    splitSign (signChars sign ++ c :: cs) = (decide (sign = some .minus), c :: cs) := by
  match sign with
  | none => exact splitSign_of_not_isSign h
  | some .plus => rfl
  | some .minus => rfl

theorem signLength_signChars (sign : Option Sign) {c : Char} {cs : List Char} (h : ¬IsSign c) :
    signLength (signChars sign ++ c :: cs) = (signChars sign).length := by
  match sign with
  | none =>
    rw [signChars, List.nil_append]
    unfold signLength
    split
    · next heq => exact absurd (.inl (List.cons.inj heq).1) h
    · next heq => exact absurd (.inr (List.cons.inj heq).1) h
    · rfl
  | some .plus => rfl
  | some .minus => rfl

/-- The sign in front of a text, and what is behind it. -/
theorem exists_signChars (cs : List Char) :
    ∃ sign rest, signChars sign ++ rest = cs ∧ signLength cs = (signChars sign).length := by
  unfold signLength
  split
  · next rest => exact ⟨some .minus, rest, rfl, rfl⟩
  · next rest => exact ⟨some .plus, rest, rfl, rfl⟩
  · exact ⟨none, cs, rfl, rfl⟩

section Digits

variable {ds rest : List Char}

theorem takeWhile_digits (hd : ∀ c ∈ ds, c.isDigit) (h : NoDigit rest) :
    (ds ++ rest).takeWhile Char.isDigit = ds := by
  rw [List.takeWhile_append_of_pos hd, h, List.append_nil]

theorem dropWhile_digits (hd : ∀ c ∈ ds, c.isDigit) (h : NoDigit rest) :
    (ds ++ rest).dropWhile Char.isDigit = rest := by
  have hsplit := List.takeWhile_append_dropWhile (p := Char.isDigit) (l := ds ++ rest)
  rw [takeWhile_digits hd h] at hsplit
  exact List.append_cancel_left hsplit

/-- The digits in front of a text, and what is behind them. -/
theorem exists_digits (cs : List Char) :
    ∃ ds rest, ds ++ rest = cs ∧ (∀ c ∈ ds, c.isDigit) ∧ cs.takeWhile Char.isDigit = ds :=
  ⟨_, _, List.takeWhile_append_dropWhile, List.all_eq_true.mp List.all_takeWhile, rfl⟩

end Digits

section Exponent

variable {rest : List Char}

theorem Exponent.mark_eq (e : Exponent) : e.mark = 'e' ∨ e.mark = 'E' := by
  unfold mark
  split
  · exact .inr rfl
  · exact .inl rfl

theorem exponentPart_chars (e : Exponent) : exponentPart e.chars = some e.value := by
  obtain ⟨d, ds, hds⟩ := List.exists_cons_of_ne_nil e.digits_ne_nil
  have hfront : IsFront d := .inr (e.isDigit d (hds ▸ List.mem_cons_self))
  have hsplit : splitSign (signChars e.sign ++ e.digits) = _ :=
    hds ▸ splitSign_signChars e.sign hfront.not_isSign
  have hall : e.digits.all Char.isDigit := List.all_eq_true.mpr e.isDigit
  simp [exponentPart, Exponent.chars, e.mark_eq, hsplit, e.digits_ne_nil, hall, Exponent.value]

theorem exponentPart_exponentChars (e : Option Exponent) :
    exponentPart (exponentChars e) = some ((e.map Exponent.value).getD 0) := by
  cases e with
  | none => rfl
  | some e => exact exponentPart_chars e

/-- Behind the mark of a power of ten come an optional sign and digits. -/
theorem exponentLength_mark {m : Char} (hm : m = 'e' ∨ m = 'E') (cs : List Char) :
    exponentLength (m :: cs) =
      if ((cs.drop (signLength cs)).takeWhile Char.isDigit).length = 0 then 0
      else 1 + signLength cs + ((cs.drop (signLength cs)).takeWhile Char.isDigit).length := by
  unfold exponentLength
  dsimp only
  rw [if_pos hm]
  cases cs with
  | nil => rfl
  | cons c cs =>
    by_cases hc : IsSign c
    · have hlength : signLength (c :: cs) = 1 := by obtain rfl | rfl := hc <;> rfl
      have hif : c = '-' ∨ c = '+' := hc
      rw [hlength, List.drop_succ_cons, List.drop_zero]
      simp only [if_pos hif]
      split
      · next h0 => rw [if_pos h0]
      · next h0 => rw [if_neg h0]
    · have hlength : signLength (c :: cs) = 0 := signLength_signChars none hc
      have hif : ¬(c = '-' ∨ c = '+') := hc
      rw [hlength, List.drop_zero]
      simp only [if_neg hif]
      split
      · next h0 => rw [if_pos h0]
      · next h0 => rw [if_neg h0]

theorem exponentLength_chars (e : Exponent) (h : NoDigit rest) :
    exponentLength (e.chars ++ rest) = e.chars.length := by
  obtain ⟨d, ds, hds⟩ := List.exists_cons_of_ne_nil e.digits_ne_nil
  have hfront : IsFront d := .inr (e.isDigit d (hds ▸ List.mem_cons_self))
  have htake := takeWhile_digits e.isDigit h
  have hchars : e.chars ++ rest = e.mark :: (signChars e.sign ++ (e.digits ++ rest)) := by
    simp [Exponent.chars]
  have hlength : signLength (signChars e.sign ++ (e.digits ++ rest)) =
      (signChars e.sign).length := by
    rw [hds, List.cons_append]
    exact signLength_signChars e.sign hfront.not_isSign
  have hne : ¬e.digits.length = 0 := by simpa using e.digits_ne_nil
  rw [hchars, exponentLength_mark e.mark_eq, hlength, List.drop_left, htake, if_neg hne]
  simp only [Exponent.chars, List.length_cons, List.length_append]
  omega

/-- The power of ten in front of a text, and what is behind it. -/
theorem exists_exponentChars (cs : List Char) :
    ∃ e rest, exponentChars e ++ rest = cs ∧ exponentLength cs = (exponentChars e).length := by
  match cs with
  | [] => exact ⟨none, [], rfl, rfl⟩
  | m :: cs =>
    by_cases hm : m = 'e' ∨ m = 'E'
    · obtain ⟨sign, digits, rfl, hsign⟩ := exists_signChars cs
      obtain ⟨ds, rest, rfl, hdigits, hds⟩ := exists_digits digits
      have hlength : exponentLength (m :: (signChars sign ++ (ds ++ rest))) =
          if ds.length = 0 then 0 else 1 + (signChars sign).length + ds.length := by
        rw [exponentLength_mark hm, hsign, List.drop_left, hds]
      cases ds with
      | nil => exact ⟨none, _, rfl, hlength⟩
      | cons d ds =>
        let e : Exponent := ⟨m = 'E', sign, d :: ds, List.cons_ne_nil d ds, hdigits⟩
        have hmark : e.mark = m := by obtain rfl | rfl := hm <;> rfl
        refine ⟨some e, rest, ?_, ?_⟩
        · simp [exponentChars, Exponent.chars, hmark, e]
        · rw [hlength]
          simp [exponentChars, Exponent.chars, e]
          omega
    · exact ⟨none, m :: cs, rfl, by unfold exponentLength; exact if_neg hm⟩

theorem exponentLength_of_apart (h : Apart rest) : exponentLength rest = 0 := by
  cases h with
  | nil => rfl
  | blank hc cs =>
    have hmark (d : Char) (hd : isBlank d = false) := ne_of_isBlank hc hd
    exact if_neg (not_or.mpr ⟨hmark 'e' rfl, hmark 'E' rfl⟩)
  | closing cs => rfl

theorem exponentLength_exponentChars (e : Option Exponent) (h : Apart rest) :
    exponentLength (exponentChars e ++ rest) = (exponentChars e).length := by
  cases e with
  | none => exact exponentLength_of_apart h
  | some e => exact exponentLength_chars e (noDigit_of_apart h)

/-- Behind the digits of a numeral stands no digit, and no point. -/
theorem exponentChars_front (e : Option Exponent) (h : Apart rest) :
    NoDigit (exponentChars e ++ rest) ∧ ∀ cs, exponentChars e ++ rest ≠ '.' :: cs := by
  cases e with
  | none => exact ⟨noDigit_of_apart h, fun cs => h.ne_cons rfl (by decide)⟩
  | some e =>
    rw [exponentChars, Exponent.chars, List.cons_append]
    obtain h | h := e.mark_eq <;> rw [h] <;> exact ⟨rfl, nofun⟩

end Exponent

section Body

variable {fraction rest : List Char}

theorem noDigit_pointChars (fraction : List Char) (h : NoDigit rest) :
    NoDigit (pointChars fraction ++ rest) := by
  unfold pointChars
  split
  · exact h
  · exact .cons rfl

theorem fractionLength_pointChars (hd : ∀ c ∈ fraction, c.isDigit) (h : NoDigit rest)
    (hpoint : ∀ cs, rest ≠ '.' :: cs) :
    fractionLength (pointChars fraction ++ rest) = (pointChars fraction).length := by
  unfold pointChars
  split
  · rw [List.nil_append, fractionLength]
    · rfl
    · exact hpoint
  · next hne =>
    obtain ⟨d, ds, rfl⟩ := List.exists_cons_of_ne_nil hne
    rw [List.cons_append, fractionLength, takeWhile_digits hd h]
    exact Nat.add_comm 1 _

/-- The digits before the point and those behind it. -/
theorem unsigned_eq (negative : Bool) {whole exponent : List Char} {e : Int}
    (hw : ∀ c ∈ whole, c.isDigit) (hd : ∀ c ∈ fraction, c.isDigit) (hne : whole ++ fraction ≠ [])
    (h : NoDigit exponent) (hpoint : ∀ cs, exponent ≠ '.' :: cs)
    (he : exponentPart exponent = some e) :
    unsigned negative (whole ++ (pointChars fraction ++ exponent)) =
      some (Binary64.ofDecimal negative (digitsValue (whole ++ fraction))
        (e - fraction.length)) := by
  have hdrop := dropWhile_digits hw (noDigit_pointChars fraction h)
  unfold unsigned
  rw [takeWhile_digits hw (noDigit_pointChars fraction h), hdrop]
  unfold pointChars
  by_cases hf : fraction = []
  · subst hf
    rw [List.append_nil] at hne
    rw [if_pos rfl, List.nil_append]
    split
    next fraction rest heq =>
      split at heq
      · exact absurd rfl (hpoint _)
      · obtain ⟨rfl, rfl⟩ := Prod.mk.inj heq
        simp [hne, he]
  · rw [if_neg hf]
    simp [takeWhile_digits hd h, dropWhile_digits hd h, hf, he]

theorem unsignedLength_eq {cs : List Char} {w f : Nat}
    (hw : (cs.takeWhile Char.isDigit).length = w) (hf : fractionLength (cs.drop w) = f) :
    unsignedLength cs =
      if w + f = 0 then 0 else w + f + exponentLength (cs.drop (w + f)) := by
  unfold unsignedLength
  rw [hw]
  dsimp only
  rw [hf]
  split
  · next h0 => rw [if_pos h0]
  · next h0 => rw [if_neg h0]

/-- A digit in front is a numeral, or the start of one. -/
theorem unsignedLength_ne_zero {c : Char} (hc : c.isDigit) (cs : List Char) :
    unsignedLength (c :: cs) ≠ 0 := by
  have hwhole : ((c :: cs).takeWhile Char.isDigit).length ≠ 0 := by
    rw [List.takeWhile_cons_of_pos hc]
    exact Nat.succ_ne_zero _
  rw [unsignedLength_eq rfl rfl, if_neg (by omega)]
  omega

/-- The point and the digits in front of a text, and what is behind them. -/
theorem exists_pointChars (cs : List Char) :
    ∃ fraction rest, pointChars fraction ++ rest = cs ∧ (∀ c ∈ fraction, c.isDigit) ∧
      fractionLength cs = (pointChars fraction).length := by
  unfold fractionLength
  split
  · next cs =>
    obtain ⟨ds, rest, rfl, hdigits, hds⟩ := exists_digits cs
    rw [hds]
    cases ds with
    | nil => exact ⟨[], '.' :: rest, rfl, nofun, rfl⟩
    | cons d ds => exact ⟨d :: ds, rest, rfl, hdigits, Nat.add_comm 1 _⟩
  · exact ⟨[], cs, rfl, nofun, rfl⟩

end Body

namespace Spelling

variable {rest : List Char}

theorem unsignedLength_body (n : Spelling) (h : Apart rest) :
    unsignedLength (n.body ++ rest) = n.body.length := by
  obtain ⟨hdigit, hpoint⟩ := exponentChars_front n.exponent h
  have hbody : n.body ++ rest =
      n.whole ++ (pointChars n.fraction ++ (exponentChars n.exponent ++ rest)) := by
    simp [body]
  have hwhole : ((n.body ++ rest).takeWhile Char.isDigit).length = n.whole.length := by
    rw [hbody, takeWhile_digits n.isDigit_whole (noDigit_pointChars _ hdigit)]
  have hfraction : fractionLength ((n.body ++ rest).drop n.whole.length) =
      (pointChars n.fraction).length := by
    rw [hbody, List.drop_left, fractionLength_pointChars n.isDigit_fraction hdigit hpoint]
  have hpos : n.whole.length + (pointChars n.fraction).length ≠ 0 := by
    have hne := n.digits_ne_nil
    rw [ne_eq, List.append_eq_nil_iff] at hne
    unfold pointChars
    split <;> simp_all
  rw [unsignedLength_eq hwhole hfraction, if_neg hpos, hbody, ← List.append_assoc,
    ← List.length_append, List.drop_left, exponentLength_exponentChars n.exponent h]
  simp [body, Nat.add_assoc]

/-- A numeral without its sign has a digit or a point in front. -/
theorem exists_body (n : Spelling) : ∃ c cs, n.body = c :: cs ∧ IsFront c := by
  unfold body
  cases hw : n.whole with
  | cons d ds =>
    exact ⟨d, _, rfl, .inr (n.isDigit_whole d (hw ▸ List.mem_cons_self))⟩
  | nil =>
    have hne : n.fraction ≠ [] := by
      have hne := n.digits_ne_nil
      rwa [hw] at hne
    exact ⟨'.', _, by rw [pointChars, if_neg hne]; rfl, .inl rfl⟩

theorem chars_of_sign {n : Spelling} (h : n.sign = none) : n.chars = n.body := by
  rw [chars, h]
  rfl

/-- A numeral has signs, digits, points and marks only. -/
theorem mem_chars (n : Spelling) : ∀ c ∈ n.chars, IsSign c ∨ IsFront c ∨ c = 'e' ∨ c = 'E' := by
  have sign (s : Option Sign) : ∀ c ∈ signChars s, IsSign c ∨ IsFront c ∨ c = 'e' ∨ c = 'E' := by
    cases s with
    | none => exact nofun
    | some s => exact List.forall_mem_singleton.mpr (.inl s.isSign)
  have digits {ds : List Char} (hd : ∀ c ∈ ds, c.isDigit) :
      ∀ c ∈ ds, IsSign c ∨ IsFront c ∨ c = 'e' ∨ c = 'E' :=
    fun c hc => .inr (.inl (.inr (hd c hc)))
  have point : ∀ c ∈ pointChars n.fraction, IsSign c ∨ IsFront c ∨ c = 'e' ∨ c = 'E' := by
    unfold pointChars
    split
    · exact nofun
    · exact List.forall_mem_cons.mpr ⟨.inr (.inl (.inl rfl)), digits n.isDigit_fraction⟩
  have exponent : ∀ c ∈ exponentChars n.exponent,
      IsSign c ∨ IsFront c ∨ c = 'e' ∨ c = 'E' := by
    cases n.exponent with
    | none => exact nofun
    | some e =>
      exact List.forall_mem_cons.mpr ⟨.inr (.inr e.mark_eq),
        List.forall_mem_append.mpr ⟨sign e.sign, digits e.isDigit⟩⟩
  exact List.forall_mem_append.mpr ⟨sign n.sign,
    List.forall_mem_append.mpr ⟨digits n.isDigit_whole,
      List.forall_mem_append.mpr ⟨point, exponent⟩⟩⟩

/-- No blank is in a numeral. -/
theorem isBlank_eq_false (n : Spelling) : ∀ c ∈ n.chars, isBlank c = false := by
  intro c hc
  obtain (rfl | rfl) | hfront | rfl | rfl := n.mem_chars c hc
  · rfl
  · rfl
  · exact Numeral.isBlank_eq_false hfront
  · rfl
  · rfl

theorem chars_ne_nil (n : Spelling) : n.chars ≠ [] := by
  obtain ⟨c, cs, hbody, -⟩ := n.exists_body
  simp [chars, hbody]

theorem parse?_chars (n : Spelling) : parse? n.chars = some n.value := by
  obtain ⟨hdigit, hpoint⟩ := exponentChars_front n.exponent .nil
  rw [List.append_nil] at hdigit hpoint
  have hvalue : unsigned (decide (n.sign = some .minus)) n.body = some n.value :=
    unsigned_eq _ n.isDigit_whole n.isDigit_fraction n.digits_ne_nil hdigit hpoint
      (exponentPart_exponentChars n.exponent)
  obtain ⟨c, cs, hbody, hc⟩ := n.exists_body
  have hsplit : splitSign n.chars = (decide (n.sign = some .minus), n.body) := by
    rw [chars, hbody]
    exact splitSign_signChars n.sign hc.not_isSign
  unfold parse?
  rw [hsplit]
  dsimp only
  rw [hvalue]
  rfl

theorem signedLength_of_isSign {c : Char} (hc : IsSign c) (cs : List Char) :
    signedLength (c :: cs) = if unsignedLength cs = 0 then 0 else 1 + unsignedLength cs := by
  rw [signedLength]
  refine (if_pos hc).trans ?_
  split
  · next h0 => rw [if_pos h0]
  · next h0 => rw [if_neg h0]

theorem signedLength_of_not_isSign {c : Char} (hc : ¬IsSign c) (cs : List Char) :
    signedLength (c :: cs) = 0 := if_neg hc

/-- A sign is read with the numeral behind it. -/
theorem signedLength_chars (n : Spelling) (h : Apart rest) :
    signedLength (n.chars ++ rest) = if n.sign = none then 0 else n.chars.length := by
  obtain ⟨c, cs, hbody, hc⟩ := n.exists_body
  have hlength := n.unsignedLength_body h
  unfold chars
  match n.sign with
  | none =>
    rw [hbody]
    exact signedLength_of_not_isSign hc.not_isSign _
  | some s =>
    have hpos : n.body.length ≠ 0 := by
      rw [hbody]
      exact Nat.succ_ne_zero _
    rw [if_neg nofun, signChars, List.cons_append, List.nil_append, List.cons_append,
      signedLength_of_isSign s.isSign, hlength, if_neg hpos, List.length_cons, Nat.add_comm]

/-- The numeral without a sign in front of a text, and what is behind it. -/
theorem exists_body_append {cs : List Char} (h : unsignedLength cs ≠ 0) :
    ∃ (n : Spelling) (rest : List Char),
      n.sign = none ∧ n.body ++ rest = cs ∧ unsignedLength cs = n.body.length := by
  obtain ⟨whole, rest, rfl, hdigits, hwhole⟩ := exists_digits cs
  obtain ⟨fraction, rest, rfl, hdigits', hfraction⟩ := exists_pointChars rest
  obtain ⟨e, rest, rfl, he⟩ := exists_exponentChars rest
  have hdrop : (whole ++ (pointChars fraction ++ (exponentChars e ++ rest))).drop
      (whole.length + (pointChars fraction).length) = exponentChars e ++ rest := by
    rw [← List.length_append, ← List.append_assoc, List.drop_left]
  rw [unsignedLength_eq (congrArg List.length hwhole) (by rw [List.drop_left, hfraction]),
    hdrop, he] at h ⊢
  by_cases hpos : whole.length + (pointChars fraction).length = 0
  · exact absurd (if_pos hpos) h
  · have hsome : whole ++ fraction ≠ [] := by
      rintro hnil
      obtain ⟨rfl, rfl⟩ := List.append_eq_nil_iff.mp hnil
      exact hpos rfl
    refine ⟨⟨none, whole, fraction, e, hsome, hdigits, hdigits'⟩, rest, rfl, ?_, ?_⟩
    · simp [body]
    · rw [if_neg hpos]
      simp [body, Nat.add_assoc]

/-- The numeral with a sign in front of a text, and what is behind it. -/
theorem exists_chars_append {cs : List Char} (h : signedLength cs ≠ 0) :
    ∃ (n : Spelling) (rest : List Char),
      n.sign ≠ none ∧ n.chars ++ rest = cs ∧ signedLength cs = n.chars.length := by
  match cs with
  | [] => exact absurd rfl h
  | c :: cs =>
    by_cases hc : IsSign c
    · rw [signedLength_of_isSign hc] at h ⊢
      by_cases hpos : unsignedLength cs = 0
      · exact absurd (if_pos hpos) h
      · obtain ⟨n, rest, -, rfl, hlength⟩ := exists_body_append hpos
        obtain ⟨s, rfl⟩ := hc.exists_char
        refine ⟨{ n with sign := some s }, rest, Option.some_ne_none s, rfl, ?_⟩
        rw [if_neg hpos, hlength]
        exact Nat.add_comm 1 _
    · exact absurd (signedLength_of_not_isSign hc cs) h

end Spelling
end Numeral
end FieldGuard
