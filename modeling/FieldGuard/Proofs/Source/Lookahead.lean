import FieldGuard.Proofs.Source.Numeral

/-! How far a numeral reaches. A scan may look at characters behind those it takes, but neither a
blank nor a closing parenthesis prolongs a numeral; so what is taken within the front of a text is
taken whatever text is put apart behind the front. -/
namespace FieldGuard
namespace Numeral

/-- What is taken within the front of a text stays the same with another text apart behind it. -/
def Settled (length : List Char → Nat) : Prop :=
  ∀ {front back rest : List Char}, Apart rest → length (front ++ back) ≤ front.length →
    length (front ++ rest) = length (front ++ back)

section Digits

variable {front back rest : List Char}

theorem takeWhile_settled {p : Char → Bool} (hrest : rest.takeWhile p = [])
    (h : ((front ++ back).takeWhile p).length ≤ front.length) :
    (front ++ rest).takeWhile p = (front ++ back).takeWhile p := by
  induction front with
  | nil =>
    have hback : (back.takeWhile p).length = 0 := Nat.le_zero.mp h
    rw [List.nil_append, List.nil_append, hrest, List.length_eq_zero_iff.mp hback]
  | cons c front ih =>
    by_cases hc : p c
    · simp only [List.cons_append, List.takeWhile_cons_of_pos hc] at h ⊢
      rw [ih (Nat.le_of_succ_le_succ h)]
    · simp only [List.cons_append, List.takeWhile_cons_of_neg hc]

theorem digits_settled (hrest : Apart rest)
    (h : ((front ++ back).takeWhile Char.isDigit).length ≤ front.length) :
    ((front ++ rest).takeWhile Char.isDigit).length =
      ((front ++ back).takeWhile Char.isDigit).length :=
  congrArg List.length (takeWhile_settled (noDigit_of_apart hrest) h)

end Digits

theorem fractionLength_point (cs : List Char) :
    fractionLength ('.' :: cs) =
      if (cs.takeWhile Char.isDigit).length = 0 then 0
      else 1 + (cs.takeWhile Char.isDigit).length := by
  rw [fractionLength]
  split
  · next h0 => rw [if_pos h0]
  · next h0 => rw [if_neg h0]

theorem fractionLength_of_ne {cs : List Char} (h : ∀ rest, cs ≠ '.' :: rest) :
    fractionLength cs = 0 := by
  unfold fractionLength
  split
  · next rest => exact absurd rfl (h rest)
  · rfl

theorem fractionLength_settled : Settled fractionLength := by
  intro front back rest hrest h
  match front with
  | [] =>
    have hback : fractionLength back = 0 := Nat.le_zero.mp h
    rw [List.nil_append, List.nil_append, hback]
    exact fractionLength_of_ne fun cs => hrest.ne_cons rfl (by decide)
  | c :: front =>
    by_cases hc : c = '.'
    · subst hc
      rw [List.cons_append, fractionLength_point, List.length_cons] at h
      have hle : ((front ++ back).takeWhile Char.isDigit).length ≤ front.length := by
        split at h <;> omega
      rw [List.cons_append, List.cons_append, fractionLength_point, fractionLength_point,
        digits_settled hrest hle]
    · have hlength (text : List Char) : fractionLength (c :: front ++ text) = 0 :=
        fractionLength_of_ne fun cs heq => hc (List.cons.inj heq).1
      rw [hlength, hlength]

theorem signLength_of_apart {rest : List Char} (h : Apart rest) : signLength rest = 0 := by
  cases h with
  | nil => rfl
  | blank hc cs =>
    exact signLength_signChars none
      (not_or.mpr ⟨ne_of_isBlank hc rfl, ne_of_isBlank hc rfl⟩)
  | closing cs => rfl

theorem signLength_le (cs : List Char) : signLength cs ≤ cs.length := by
  obtain ⟨sign, rest, rfl, hlength⟩ := exists_signChars cs
  rw [hlength, List.length_append]
  exact Nat.le_add_right _ _

/-- A sign is told by the first character. -/
theorem signLength_append {front : List Char} (h : front ≠ []) (text : List Char) :
    signLength (front ++ text) = signLength front := by
  obtain ⟨c, cs, rfl⟩ := List.exists_cons_of_ne_nil h
  by_cases hc : IsSign c
  · obtain rfl | rfl := hc <;> rfl
  · have hlength (cs : List Char) : signLength (c :: cs) = 0 := signLength_signChars none hc
    rw [List.cons_append, hlength, hlength]

theorem exponentLength_settled : Settled exponentLength := by
  intro front back rest hrest h
  match front with
  | [] =>
    have hback : exponentLength back = 0 := Nat.le_zero.mp h
    rw [List.nil_append, List.nil_append, hback, exponentLength_of_apart hrest]
  | m :: front =>
    by_cases hm : m = 'e' ∨ m = 'E'
    · rw [List.cons_append, exponentLength_mark hm, List.length_cons] at h
      rw [List.cons_append, List.cons_append, exponentLength_mark hm, exponentLength_mark hm]
      by_cases hfront : front = []
      · -- A mark alone has no digits in the front, so it counts for nothing before either text.
        subst hfront
        have hdigits : (rest.takeWhile Char.isDigit).length = 0 :=
          congrArg List.length (noDigit_of_apart hrest)
        simp only [List.nil_append, List.length_nil] at h
        rw [List.nil_append, signLength_of_apart hrest, List.drop_zero, if_pos hdigits]
        split at h
        · next h0 => exact (if_pos h0).symm
        · omega
      · have hdrop (text : List Char) : (front ++ text).drop (signLength front) =
            front.drop (signLength front) ++ text :=
          List.drop_append_of_le_length (signLength_le front)
        rw [signLength_append hfront, hdrop] at h
        have hle : ((front.drop (signLength front) ++ back).takeWhile Char.isDigit).length ≤
            (front.drop (signLength front)).length := by
          rw [List.length_drop]
          split at h <;> omega
        rw [signLength_append hfront, signLength_append hfront, hdrop, hdrop,
          digits_settled hrest hle]
    · have hlength (text : List Char) : exponentLength (m :: front ++ text) = 0 := if_neg hm
      rw [hlength, hlength]

theorem unsignedLength_settled : Settled unsignedLength := by
  intro front back rest hrest h
  obtain ⟨w, hw⟩ : ∃ w, ((front ++ back).takeWhile Char.isDigit).length = w := ⟨_, rfl⟩
  obtain ⟨f, hf⟩ : ∃ f, fractionLength ((front ++ back).drop w) = f := ⟨_, rfl⟩
  rw [unsignedLength_eq hw hf] at h ⊢
  have hle : w + f ≤ front.length := by split at h <;> omega
  have hdrop (n : Nat) (hn : n ≤ front.length) (text : List Char) :
      (front ++ text).drop n = front.drop n ++ text :=
    List.drop_append_of_le_length hn
  have hdigits : ((front ++ back).takeWhile Char.isDigit).length ≤ front.length := by omega
  have hw' : ((front ++ rest).takeWhile Char.isDigit).length = w := by
    rw [digits_settled hrest hdigits, hw]
  have hf' : fractionLength ((front ++ rest).drop w) = f := by
    rw [hdrop w (by omega)] at hf ⊢
    have hfraction : fractionLength (front.drop w ++ back) ≤ (front.drop w).length := by
      rw [hf, List.length_drop]
      omega
    rw [fractionLength_settled hrest hfraction, hf]
  rw [unsignedLength_eq hw' hf']
  by_cases h0 : w + f = 0
  · rw [if_pos h0, if_pos h0]
  · rw [if_neg h0, hdrop _ hle] at h
    have hexponent : exponentLength (front.drop (w + f) ++ back) ≤ (front.drop (w + f)).length := by
      rw [List.length_drop]
      omega
    rw [if_neg h0, if_neg h0, hdrop _ hle, hdrop _ hle, exponentLength_settled hrest hexponent]

theorem unsignedLength_of_apart {rest : List Char} (h : Apart rest) : unsignedLength rest = 0 := by
  have hnil : unsignedLength ([] ++ rest) = unsignedLength ([] ++ []) :=
    unsignedLength_settled h (Nat.le_refl 0)
  exact hnil

/-- A character in front of a text apart is no sign of a numeral. -/
theorem signedLength_cons_of_apart (c : Char) {rest : List Char} (h : Apart rest) :
    signedLength (c :: rest) = 0 := by
  rw [signedLength, unsignedLength_of_apart h]
  exact ite_self 0

theorem signedLength_settled : Settled signedLength := by
  intro front back rest hrest h
  match front with
  | [] =>
    have hback : signedLength back = 0 := Nat.le_zero.mp h
    rw [List.nil_append, List.nil_append, hback]
    cases hrest with
    | nil => rfl
    | blank hc cs =>
      exact Spelling.signedLength_of_not_isSign
        (not_or.mpr ⟨ne_of_isBlank hc rfl, ne_of_isBlank hc rfl⟩) cs
    | closing cs => rfl
  | c :: front =>
    by_cases hc : IsSign c
    · rw [List.cons_append, Spelling.signedLength_of_isSign hc, List.length_cons] at h
      have hle : unsignedLength (front ++ back) ≤ front.length := by split at h <;> omega
      rw [List.cons_append, List.cons_append, Spelling.signedLength_of_isSign hc,
        Spelling.signedLength_of_isSign hc, unsignedLength_settled hrest hle]
    · rw [List.cons_append, List.cons_append, Spelling.signedLength_of_not_isSign hc,
        Spelling.signedLength_of_not_isSign hc]

end Numeral
end FieldGuard
