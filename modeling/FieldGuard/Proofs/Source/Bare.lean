import FieldGuard.Proofs.Source.Numeral

/-! Bare words. A bare word has no character at which names end and is read up to the first one; it
is a literal if it is spelled so as a whole, and a name otherwise. -/
namespace FieldGuard
namespace Name

/-- No character at which names end. -/
def Bare (name : List Char) : Prop := ∀ c ∈ name, isBreak c = false

instance (name : List Char) : Decidable (Bare name) :=
  List.decidableBAll (fun c => isBreak c = false) name

/-- Names end in front of this text: it is empty, or starts with a character that ends names. -/
def Ends (rest : List Char) : Prop := rest.head?.all isBreak = true

/-- The literal that a whole word is. -/
def literal? (word : List Char) : Option Operand :=
  if word.map Char.toLower = ['t', 'r', 'u', 'e'] then some (.bool true)
  else if word.map Char.toLower = ['f', 'a', 'l', 's', 'e'] then some (.bool false)
  else if word = ['n', 'u', 'l', 'l', 'p', 't', 'r'] then some .null
  else none

/-- What a bare word stands for. -/
def ofWord (word : List Char) : Except TokenCause Operand :=
  match literal? word with
  | some o => .ok o
  | none => toOperand word

theorem isBreak_of_isBlank {c : Char} (h : isBlank c = true) : isBreak c = true := by
  rw [isBreak, h, Bool.true_or]

theorem isBlank_of_isBreak {c : Char} (h : isBreak c = false) : isBlank c = false := by
  refine Bool.eq_false_iff.mpr fun hblank => ?_
  rw [isBreak_of_isBlank hblank] at h
  cases h

theorem not_isSign_of_isBreak {c : Char} (h : isBreak c = false) : ¬Numeral.IsSign c := by
  rintro (rfl | rfl) <;> cases h

theorem ends_of_apart {rest : List Char} (h : Apart rest) : Ends rest := by
  cases h with
  | nil => rfl
  | blank hc cs => exact isBreak_of_isBlank hc
  | closing cs => rfl

theorem Ends.append {front back rest : List Char} (h : Ends (front ++ back)) (hrest : Ends rest) :
    Ends (front ++ rest) := by
  cases front with
  | nil => exact hrest
  | cons c front => exact h

theorem Ends.takeWhile_eq_nil {rest : List Char} (h : Ends rest) :
    rest.takeWhile (fun c => !isBreak c) = [] := by
  cases rest with
  | nil => rfl
  | cons c rest =>
    have hc : isBreak c = true := h
    exact List.takeWhile_cons_of_neg (by simp [hc])

theorem bare_cons_takeWhile {c : Char} (hc : isBreak c = false) (cs : List Char) :
    Bare (c :: cs.takeWhile fun d => !isBreak d) := by
  have hall : (cs.takeWhile fun d => !isBreak d).all fun d => !isBreak d := List.all_takeWhile
  refine List.forall_mem_cons.mpr ⟨hc, fun d hd => ?_⟩
  simpa using List.all_eq_true.mp hall d hd

theorem ends_dropWhile (cs : List Char) : Ends (cs.dropWhile fun d => !isBreak d) := by
  induction cs with
  | nil => rfl
  | cons c cs ih =>
    by_cases hc : isBreak c = true
    · rw [List.dropWhile_cons_of_neg (by simp [hc])]
      exact hc
    · rw [List.dropWhile_cons_of_pos (by simp [hc])]
      exact ih

/-- The bare name in front of a text that starts with a character names may have. -/
theorem exists_bare {c : Char} (hc : isBreak c = false) (cs : List Char) :
    ∃ word rest, cs = word ++ rest ∧ Bare (c :: word) ∧ Ends rest :=
  ⟨_, _, List.takeWhile_append_dropWhile.symm, bare_cons_takeWhile hc cs, ends_dropWhile cs⟩

/-- The characters that end names are no letters, so they have no case. -/
theorem toLower_of_isBreak {c : Char} (h : isBreak c = true) : c.toLower = c := by
  refine dif_neg fun hupper => ?_
  have hlow : 65 ≤ c.toNat := hupper.1
  have hhigh : c.toNat ≤ 90 := hupper.2
  obtain hblank | hmem := Bool.or_eq_true_iff.mp h
  · simp only [isBlank, Bool.or_eq_true, Bool.and_eq_true, beq_iff_eq, decide_eq_true_eq] at hblank
    omega
  · revert hlow hhigh
    simp only [decide_eq_true_eq, List.mem_cons, List.not_mem_nil, or_false] at hmem
    obtain rfl | rfl | rfl | rfl | rfl | rfl | rfl | rfl | rfl | rfl | rfl | rfl := hmem <;> decide

section Words

variable {f : Char → Char} {name rest : List Char}

/-- A word stands in front of a text, as a whole, exactly if the bare name in front is that word. -/
theorem starts_append (word : List Char) (hf : ∀ c, isBreak c = true → f c = c)
    (hword : Bare word) (hname : Bare name) (hrest : Ends rest) :
    (((name ++ rest).take word.length).map f == word && endsAfter word.length (name ++ rest)) =
      decide (name.map f = word) := by
  rw [Bool.eq_iff_iff, Bool.and_eq_true, beq_iff_eq, decide_eq_true_iff]
  constructor
  · rintro ⟨hstart, hend⟩
    obtain hlt | heq | hgt := Nat.lt_trichotomy word.length name.length
    · -- The name goes on behind the word.
      rw [endsAfter, List.drop_append_of_le_length (Nat.le_of_lt hlt),
        List.drop_eq_getElem_cons hlt, List.cons_append, List.head?_cons, Option.all_some,
        hname _ (List.getElem_mem hlt)] at hend
      cases hend
    · rwa [heq, List.take_left] at hstart
    · -- The word goes on behind the name.
      cases rest with
      | nil =>
        have hlength := congrArg List.length hstart
        simp only [List.append_nil, List.length_map, List.length_take] at hlength
        omega
      | cons b rest =>
        have hb : b ∈ (name ++ b :: rest).take word.length := by
          rw [List.take_append]
          refine List.mem_append_right _ ?_
          obtain ⟨k, hk⟩ := Nat.exists_eq_add_of_lt hgt
          rw [show word.length - name.length = k + 1 by omega]
          exact List.mem_cons_self
        have hmem : b ∈ word := by
          rw [← hf b hrest]
          exact hstart ▸ List.mem_map_of_mem hb
        have hbreak : isBreak b = true := hrest
        rw [hword b hmem] at hbreak
        cases hbreak
  · rintro rfl
    rw [List.length_map, List.take_left, endsAfter, List.drop_left]
    exact ⟨rfl, hrest⟩

/-- A literal is read in front of a text exactly if the bare name in front is one. -/
theorem keyword?_append (hname : Bare name) (hrest : Ends rest) :
    keyword? (name ++ rest) = (literal? name).map fun o => (o, name.length) := by
  have hlower (c : Char) := @toLower_of_isBreak c
  have htrue := starts_append ['t', 'r', 'u', 'e'] hlower (by decide) hname hrest
  have hfalse := starts_append ['f', 'a', 'l', 's', 'e'] hlower (by decide) hname hrest
  have hnull := starts_append (f := id) ['n', 'u', 'l', 'l', 'p', 't', 'r'] (fun _ _ => rfl)
    (by decide) hname hrest
  have hlength {f : Char → Char} {word : List Char} (h : name.map f = word) :
      name.length = word.length := by rw [← h, List.length_map]
  rw [List.map_id, List.map_id] at hnull
  unfold keyword? literal? startsWithWord
  simp only [List.length_cons, List.length_nil, Nat.zero_add, Nat.reduceAdd] at htrue hfalse hnull ⊢
  simp only [htrue, hfalse, hnull, decide_eq_true_eq]
  split
  · next h => simp [hlength h]
  · split
    · next h => simp [hlength h]
    · split
      · next h => simp [h]
      · rfl

end Words
end Name

/-- Numerals start with characters that names may have. -/
theorem Numeral.isBreak_of_isFront {c : Char} (h : IsFront c) : Name.isBreak c = false := by
  have hblank := isBlank_eq_false h
  unfold Name.isBreak
  rw [hblank, Bool.false_or, decide_eq_false_iff_not]
  simp only [List.mem_cons, List.not_mem_nil, or_false]
  obtain rfl | h := h
  · decide
  · rintro (rfl | rfl | rfl | rfl | rfl | rfl | rfl | rfl | rfl | rfl | rfl | rfl) <;> cases h

theorem Numeral.isFront_of_unsignedLength {c : Char} {cs : List Char}
    (h : unsignedLength (c :: cs) ≠ 0) : IsFront c := by
  obtain ⟨n, rest, -, hbody, -⟩ := Spelling.exists_body_append h
  obtain ⟨d, ds, hd, hfront⟩ := n.exists_body
  rw [hd] at hbody
  obtain rfl := (List.cons.inj hbody).1
  exact hfront

end FieldGuard
