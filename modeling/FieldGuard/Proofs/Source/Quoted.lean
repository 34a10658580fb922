import FieldGuard.Condition.Lexeme

/-! Quoted names as they are written. The quote and the backslash are escaped, so a quoted name ends
at its quote and is read as it was; a name without colons is a property, and two such names with a
double colon between them are an enum member. However it is written, a quoted name ends at the first
quote with an even number of backslashes in front of it. -/
namespace FieldGuard
namespace Name

inductive Quote where
  | double
  | single
  deriving DecidableEq, Repr

def Quote.char : Quote → Char
  | .double => '"'
  | .single => '\''

theorem Quote.char_ne_backslash (q : Quote) : q.char ≠ '\\' := by cases q <;> decide

/-- A character between quotes. -/
def escapeChar (q : Quote) (c : Char) : List Char :=
  if c = '\\' ∨ c = q.char then ['\\', c] else [c]

/-- A name between quotes. -/
def escape (q : Quote) (name : List Char) : List Char := name.flatMap (escapeChar q)

/-- A name in quotes. -/
def quoted (q : Quote) (name : List Char) : List Char := q.char :: (escape q name ++ [q.char])

section Escape

variable {q : Quote} {c : Char} {cs name : List Char}

theorem quotedLength?_escapeChar (q : Quote) (c : Char) (cs : List Char) :
    quotedLength? q.char false (escapeChar q c ++ cs) =
      (quotedLength? q.char false cs).map (· + (escapeChar q c).length) := by
  have hq := q.char_ne_backslash
  unfold escapeChar
  split
  · simp [quotedLength?, hq.symm, Function.comp_def]
  · next h =>
    obtain ⟨hc, hcq⟩ := not_or.mp h
    simp [quotedLength?, hcq, beq_eq_false_iff_ne.mpr hc]

/-- A quoted name ends at its quote. -/
theorem quotedLength?_escape (q : Quote) (name rest : List Char) :
    quotedLength? q.char false (escape q name ++ q.char :: rest) =
      some (escape q name).length := by
  induction name with
  | nil => simp [escape, quotedLength?]
  | cons c name ih =>
    rw [escape, List.flatMap_cons, List.append_assoc, quotedLength?_escapeChar]
    rw [escape] at ih
    rw [ih, Option.map_some, List.length_append, Nat.add_comm]

theorem unescape_cons (h : c ≠ '\\') (cs : List Char) : unescape (c :: cs) = c :: unescape cs := by
  cases cs with
  | nil => rfl
  | cons d cs => rw [unescape, if_neg h]

theorem unescape_escapeChar (q : Quote) (c : Char) (cs : List Char) :
    unescape (escapeChar q c ++ cs) = c :: unescape cs := by
  unfold escapeChar
  split
  · next h =>
    have hc : escaped? c = some c := by
      obtain rfl | rfl := h
      · rfl
      · cases q <;> rfl
    simp [unescape, hc]
  · next h => exact unescape_cons (not_or.mp h).1 cs

/-- Escapes are resolved to the name they stand in. -/
theorem unescape_escape (q : Quote) (name : List Char) : unescape (escape q name) = name := by
  induction name with
  | nil => rfl
  | cons c name ih => rw [escape, List.flatMap_cons, unescape_escapeChar, ← escape, ih]

end Escape

/-- A quote behind the text would be escaped: an odd number of backslashes is in front of it. -/
def Escapes (raw : List Char) : Prop := (raw.reverse.takeWhile (· == '\\')).length % 2 = 1

instance (raw : List Char) : Decidable (Escapes raw) :=
  inferInstanceAs (Decidable ((raw.reverse.takeWhile (· == '\\')).length % 2 = 1))

/-- The first quote that is not escaped is the one behind the text. -/
def Closes (q : Quote) (raw : List Char) : Prop :=
  ¬Escapes raw ∧ ∀ before after, raw = before ++ q.char :: after → Escapes before

section Closing

variable {q : Quote} {front raw cs : List Char} {c : Char}

theorem escapes_concat (front : List Char) (c : Char) :
    Escapes (front ++ [c]) ↔ c = '\\' ∧ ¬Escapes front := by
  unfold Escapes
  rw [List.reverse_append, List.reverse_singleton, List.singleton_append]
  by_cases hc : c = '\\'
  · rw [List.takeWhile_cons_of_pos (by simp [hc]), List.length_cons]
    simp only [hc, true_and]
    omega
  · rw [List.takeWhile_cons_of_neg (by simp [hc])]
    simp [hc]

/-- Whether the next character is escaped is told by the backslashes read last. -/
theorem quotedLength?_cons (q : Quote) (front : List Char) (c : Char) (cs : List Char) :
    quotedLength? q.char (decide (Escapes front)) (c :: cs) =
      if c = q.char ∧ ¬Escapes front then some 0
      else (quotedLength? q.char (decide (Escapes (front ++ [c]))) cs).map (· + 1) := by
  have hnext := escapes_concat front c
  rw [quotedLength?]
  by_cases hescapes : Escapes front
  · have hfree : ¬Escapes (front ++ [c]) := fun h => (hnext.mp h).2 hescapes
    simp [hescapes, hfree]
  · by_cases hc : c = q.char
    · simp [hescapes, hc]
    · have hslash : decide (Escapes (front ++ [c])) = (c == '\\') := by
        rw [Bool.eq_iff_iff, decide_eq_true_iff, hnext, beq_iff_eq]
        simp [hescapes]
      simp [hescapes, hc, hslash]

/-- The text goes on behind what is read without a closing quote. -/
theorem quotedLength?_eq_none_iff_behind :
    quotedLength? q.char (decide (Escapes front)) cs = none ↔
      ∀ raw rest, cs = raw ++ q.char :: rest → Escapes (front ++ raw) := by
  induction cs generalizing front with
  | nil => simp [quotedLength?]
  | cons c cs ih =>
    rw [quotedLength?_cons]
    split
    · next hclosed =>
      refine iff_of_false (Option.some_ne_none 0) fun h => ?_
      have hescapes := h [] cs (by rw [hclosed.1]; rfl)
      rw [List.append_nil] at hescapes
      exact hclosed.2 hescapes
    · next hopen =>
      rw [Option.map_eq_none_iff, ih]
      constructor
      · intro h raw rest heq
        cases raw with
        | nil =>
          obtain ⟨hc, -⟩ := List.cons.inj heq
          rw [List.append_nil]
          exact Decidable.not_not.mp (not_and.mp hopen hc)
        | cons d raw =>
          obtain ⟨rfl, hcs⟩ := List.cons.inj heq
          have hescapes := h raw rest hcs
          rwa [List.append_assoc] at hescapes
      · intro h raw rest hcs
        have hescapes := h (c :: raw) rest (by rw [hcs]; rfl)
        rwa [List.append_assoc]

theorem quotedLength?_eq_some_iff_behind {rest : List Char} :
    quotedLength? q.char (decide (Escapes front)) (raw ++ q.char :: rest) = some raw.length ↔
      ¬Escapes (front ++ raw) ∧
        ∀ before after, raw = before ++ q.char :: after → Escapes (front ++ before) := by
  induction raw generalizing front with
  | nil =>
    rw [List.nil_append, quotedLength?_cons, List.append_nil]
    by_cases hescapes : Escapes front <;> simp [hescapes]
  | cons c raw ih =>
    rw [List.cons_append, quotedLength?_cons]
    split
    · next hclosed =>
      refine iff_of_false (by simp) fun h => ?_
      have hescapes := h.2 [] raw (by rw [hclosed.1]; rfl)
      rw [List.append_nil] at hescapes
      exact hclosed.2 hescapes
    · next hopen =>
      rw [List.length_cons, Option.map_eq_some_iff]
      simp only [Nat.add_right_cancel_iff, exists_eq_right, ih, List.append_assoc,
        List.singleton_append]
      refine and_congr_right fun _ => ⟨fun h before after heq => ?_, fun h before after heq => ?_⟩
      · cases before with
        | nil =>
          obtain ⟨hc, -⟩ := List.cons.inj heq
          rw [List.append_nil]
          exact Decidable.not_not.mp (not_and.mp hopen hc)
        | cons d before =>
          obtain ⟨rfl, hraw⟩ := List.cons.inj heq
          exact h before after hraw
      · exact h (c :: before) after (by rw [heq]; rfl)

/-- A quoted name has no end exactly if every further quote is escaped. -/
theorem quotedLength?_eq_none_iff :
    quotedLength? q.char false cs = none ↔
      ∀ raw rest, cs = raw ++ q.char :: rest → Escapes raw :=
  @quotedLength?_eq_none_iff_behind q [] cs

/-- A quoted name ends at the first quote that is not escaped. -/
theorem quotedLength?_eq_some_iff {rest : List Char} :
    quotedLength? q.char false (raw ++ q.char :: rest) = some raw.length ↔ Closes q raw :=
  @quotedLength?_eq_some_iff_behind q [] raw rest

end Closing

/-- A name without colons. -/
structure Plain where
  text : String
  no_colon : ':' ∉ text.toList

/-- The enum or the member of an enum member. -/
structure Part extends Plain where
  nonempty : text.toList ≠ []

section Colons

variable {name type : List Char}

theorem splitColons?_eq_none (h : ':' ∉ name) : splitColons? name = none := by
  induction name with
  | nil => rfl
  | cons c name ih =>
    unfold splitColons?
    split
    · next heq => exact absurd (List.cons.inj heq).1.symm (List.ne_of_not_mem_cons h)
    · next heq =>
      obtain ⟨rfl, rfl⟩ := List.cons.inj heq
      rw [ih (List.not_mem_of_not_mem_cons h)]
      rfl
    · rfl

theorem splitColons?_append (h : ':' ∉ type) (member : List Char) :
    splitColons? (type ++ ':' :: ':' :: member) = some (type, member) := by
  induction type with
  | nil => rfl
  | cons c type ih =>
    rw [List.cons_append]
    unfold splitColons?
    split
    · next heq => exact absurd (List.cons.inj heq).1.symm (List.ne_of_not_mem_cons h)
    · next heq =>
      obtain ⟨rfl, rfl⟩ := List.cons.inj heq
      rw [ih (List.not_mem_of_not_mem_cons h)]
      rfl
    · next heq => cases heq

theorem toOperand_plain (name : Plain) : toOperand name.text.toList = .ok (.property name.text) := by
  simp [toOperand, name.no_colon]

theorem toOperand_parts (type member : Part) :
    toOperand (type.text.toList ++ ':' :: ':' :: member.text.toList) =
      .ok (.enum type.text member.text) := by
  have hsplit := splitColons?_append type.no_colon member.text.toList
  have hmember := splitColons?_eq_none member.no_colon
  simp [toOperand, hsplit, hmember, type.nonempty, member.nonempty, type.no_colon, member.no_colon]

end Colons
end Name
end FieldGuard
