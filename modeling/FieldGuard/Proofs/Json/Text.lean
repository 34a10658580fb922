import FieldGuard.Json.Scalar
import FieldGuard.Proofs.Json.Number
import Mathlib.Tactic.SplitIfs

/-! The texts of JSON values, as a grammar. Blanks between parts of a value and escapes for pairs of
surrogates are left out, since nothing here writes them. What is written for a value on one line is
a text of it, as long as its numbers are finite (`Json.isText_compact`), and a text never breaks the
line, since a string holds no control characters (`Json.IsText.newline_notMem`). -/
namespace FieldGuard
namespace Json

section Grammar

/-- What stands for a character in a string: the character itself unless it is a quote, a backslash
or a control character, an escape of one letter, or the number of the character in four hexadecimal
digits. -/
inductive SpellsChar : Char → List Char → Prop
  | plain {c} (hq : c ≠ '"') (hb : c ≠ '\\') (hc : 0x20 ≤ c.toNat) : SpellsChar c [c]
  | escape {c e} (h : JsonString.simpleEscape? e = some c) : SpellsChar c ['\\', e]
  | number {a b c d n} (h : JsonString.hexUnit [a, b, c, d] = .ok n) (hn : n.isValidChar) :
    SpellsChar (.ofNat n) ['\\', 'u', a, b, c, d]

/-- A string between quotes, character by character. -/
def SpellsString (s : String) (cs : List Char) : Prop :=
  ∃ parts : List (Char × List Char), (∀ p ∈ parts, SpellsChar p.1 p.2) ∧
    s.toList = parts.map (·.1) ∧ cs = '"' :: (parts.flatMap (·.2) ++ ['"'])

/-- The texts of a value. Items and members come with their texts, which stand between brackets with
commas between them. -/
inductive IsText : Json → List Char → Prop
  | null : IsText .null "null".toList
  | true : IsText (.bool true) "true".toList
  | false : IsText (.bool false) "false".toList
  | number {n cs} (h : n.IsText cs) : IsText (.number n) cs
  | string {s cs} (h : SpellsString s cs) : IsText (.string s) cs
  | array (items : List (Json × List Char)) (h : ∀ i ∈ items, IsText i.1 i.2) :
    IsText (.array (items.map (·.1))) ('[' :: ([','].intercalate (items.map (·.2)) ++ [']']))
  | object (members : List ((String × Json) × (List Char × List Char)))
    (hn : ∀ m ∈ members, SpellsString m.1.1 m.2.1) (hv : ∀ m ∈ members, IsText m.1.2 m.2.2) :
    IsText (.object (members.map (·.1)))
      ('\x7b' :: ([','].intercalate (members.map fun m => m.2.1 ++ ':' :: m.2.2) ++ ['\x7d']))

end Grammar

section Strings

theorem hexDigit?_hexDigit : ∀ n < 16, JsonString.hexDigit? (hexDigit n) = some n := by
  decide

theorem hexUnit_hexDigit {n : Nat} (h : n < 0x20) :
    JsonString.hexUnit ['0', '0', hexDigit (n / 16), hexDigit (n % 16)] = .ok n := by
  have hzero : JsonString.hexDigit? '0' = some 0 := by decide
  have hhigh := hexDigit?_hexDigit (n / 16) (by omega)
  have hlow := hexDigit?_hexDigit (n % 16) (by omega)
  have hvalue : ((0 * 16 + 0) * 16 + n / 16) * 16 + n % 16 = n := by omega
  simp only [JsonString.hexUnit, List.take, hzero, hhigh, hlow, hvalue]

theorem spellsChar_escapeChar (c : Char) : SpellsChar c (escapeChar c) := by
  unfold escapeChar
  split_ifs with hquote hbackslash hbackspace hfeed hnewline hreturn htab hcontrol
  any_goals
    subst c
    exact .escape rfl
  · have h := SpellsChar.number (hexUnit_hexDigit hcontrol) (.inl (by omega))
    rwa [Char.ofNat_toNat] at h
  · exact .plain hquote hbackslash (by omega)

theorem spellsString_quote (s : String) : SpellsString s (quote s).toList := by
  refine ⟨s.toList.map fun c => (c, escapeChar c), ?_, by simp [Function.comp_def],
    by simp [quote, List.flatMap_map]⟩
  rw [List.forall_mem_map]
  exact fun c _ => spellsChar_escapeChar c

end Strings

section Values

/-- A value all of whose numbers are finite. -/
inductive Finite : Json → Prop
  | null : Finite .null
  | bool (b) : Finite (.bool b)
  | number {n} (h : n.Finite) : Finite (.number n)
  | string (s) : Finite (.string s)
  | array {items} (h : ∀ v ∈ items, Finite v) : Finite (.array items)
  | object {members} (h : ∀ m ∈ members, Finite m.2) : Finite (.object members)

@[simp]
theorem finite_null : Finite .null := .null

@[simp]
theorem finite_bool (b : Bool) : Finite (.bool b) := .bool b

@[simp]
theorem finite_string (s : String) : Finite (.string s) := .string s

@[simp]
theorem finite_integer (i : Int) : Finite (.number (.integer i)) := .number trivial

@[simp]
theorem finite_array_iff {items : List Json} : Finite (.array items) ↔ ∀ v ∈ items, v.Finite :=
  ⟨fun | .array h => h, .array⟩

@[simp]
theorem finite_object_iff {members : List (String × Json)} :
    Finite (.object members) ↔ ∀ m ∈ members, m.2.Finite :=
  ⟨fun | .object h => h, .object⟩

theorem compactItems_eq (items : List Json) : compactItems items = items.map compact := by
  induction items with
  | nil => rfl
  | cons v rest ih => rw [compactItems, ih, List.map_cons]

theorem compactMembers_eq (members : List (String × Json)) :
    compactMembers members = members.map fun m => quote m.1 ++ ":" ++ compact m.2 := by
  induction members with
  | nil => rfl
  | cons m rest ih => rw [compactMembers, ih, List.map_cons]

theorem isText_compact {v : Json} (h : v.Finite) : v.IsText v.compact.toList := by
  induction h with
  | null => exact .null
  | bool b =>
    cases b with
    | true => exact .true
    | false => exact .false
  | number h => exact .number (JsonNumber.isText_text h)
  | string s => exact .string (spellsString_quote s)
  | @array items h ih =>
    have htext := IsText.array (items.map fun v => (v, v.compact.toList))
      (List.forall_mem_map.mpr ih)
    simpa [compact, compactItems_eq, Function.comp_def] using htext
  | @object members h ih =>
    have htext := IsText.object (members.map fun m => (m, (quote m.1).toList, m.2.compact.toList))
      (by
        rw [List.forall_mem_map]
        dsimp only
        exact fun m _ => spellsString_quote m.1)
      (by
        rw [List.forall_mem_map]
        dsimp only
        exact ih)
    simpa [compact, compactMembers_eq, Function.comp_def] using htext

theorem IsText.head?_of_object {members : List (String × Json)} {cs : List Char}
    (h : (Json.object members).IsText cs) : cs.head? = some '\x7b' := by
  generalize hv : Json.object members = v at h
  cases h with
  | object members hn ht => rfl
  | _ => cases hv

end Values

section Lines

theorem mem_of_mem_intercalate {c : Char} {parts : List (List Char)}
    (h : c ∈ [','].intercalate parts) : c = ',' ∨ ∃ p ∈ parts, c ∈ p := by
  induction parts with
  | nil => cases h
  | cons p rest ih =>
    cases rest with
    | nil =>
      rw [List.intercalate_singleton] at h
      exact .inr ⟨p, by simp, h⟩
    | cons q rest =>
      rw [List.intercalate_cons_cons, List.mem_append, List.mem_append, List.mem_singleton] at h
      rcases h with (h | h) | h
      · exact .inr ⟨p, by simp, h⟩
      · exact .inl h
      · rcases ih h with h | ⟨x, hx, hc⟩
        · exact .inl h
        · exact .inr ⟨x, List.mem_cons_of_mem _ hx, hc⟩

theorem newline_notMem_intercalate {parts : List (List Char)} (h : ∀ p ∈ parts, '\n' ∉ p) :
    '\n' ∉ [','].intercalate parts := by
  intro hmem
  rcases mem_of_mem_intercalate hmem with hc | ⟨p, hp, hc⟩
  · exact absurd hc (by decide)
  · exact h p hp hc

theorem SpellsChar.newline_notMem {c : Char} {cs : List Char} (h : SpellsChar c cs) :
    '\n' ∉ cs := by
  cases h with
  | plain hq hb hc =>
    rw [List.mem_singleton]
    rintro rfl
    exact absurd hc (by decide)
  | @escape _ e h =>
    have he : JsonString.simpleEscape? '\n' = none := rfl
    simp only [List.mem_cons, List.not_mem_nil, or_false, not_or]
    refine ⟨by decide, ?_⟩
    rintro rfl
    cases he.symm.trans h
  | @number a b c d n h hn =>
    have hnone : JsonString.hexDigit? '\n' = none := by decide
    simp only [List.mem_cons, List.not_mem_nil, or_false]
    rintro (hc | hc | rfl | rfl | rfl | rfl)
    · exact absurd hc (by decide)
    · exact absurd hc (by decide)
    all_goals simp [JsonString.hexUnit, hnone] at h

theorem SpellsString.newline_notMem {s : String} {cs : List Char} (h : SpellsString s cs) :
    '\n' ∉ cs := by
  obtain ⟨parts, hparts, -, rfl⟩ := h
  have hbody : '\n' ∉ parts.flatMap (·.2) := by
    rw [List.mem_flatMap]
    rintro ⟨p, hp, hc⟩
    exact (hparts p hp).newline_notMem hc
  simpa using hbody

/-- A text of a value stands on one line. -/
theorem IsText.newline_notMem {v : Json} {cs : List Char} (h : v.IsText cs) : '\n' ∉ cs := by
  induction h with
  | null => decide
  | true => decide
  | false => decide
  | number h => exact h.newline_notMem
  | string h => exact h.newline_notMem
  | array items h ih =>
    have hitems := newline_notMem_intercalate (List.forall_mem_map.mpr ih)
    simpa using hitems
  | object members hn hv ih =>
    have hmember : ∀ m ∈ members, '\n' ∉ m.2.1 ++ ':' :: m.2.2 := by
      intro m hm
      simpa using ⟨(hn m hm).newline_notMem, ih m hm⟩
    have hmembers := newline_notMem_intercalate (List.forall_mem_map.mpr hmember)
    simpa using hmembers

end Lines

end Json
end FieldGuard
