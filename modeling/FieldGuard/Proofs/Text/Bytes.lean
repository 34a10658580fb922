import FieldGuard.Condition.Token

/-! Texts as bytes in UTF-8. The bytes of a text come before those of another exactly if the text
does (`utf8_lt_utf8_iff`), and stand in front of them exactly if the text does
(`utf8_prefix_utf8_iff`); so texts may be sorted and cut by their characters or by their bytes. -/
namespace FieldGuard

/-- The bytes of a text. -/
def utf8 (cs : List Char) : List UInt8 := cs.flatMap String.utf8EncodeChar

theorem utf8_append (as bs : List Char) : utf8 (as ++ bs) = utf8 as ++ utf8 bs :=
  List.flatMap_append

theorem length_utf8 (cs : List Char) : (utf8 cs).length = byteLength cs := by
  induction cs with
  | nil => rfl
  | cons c cs ih =>
    rw [utf8, List.flatMap_cons, List.length_append, String.length_utf8EncodeChar, byteLength_cons,
      ← ih, utf8]

/-- A text of characters of one byte has as many bytes as characters. -/
theorem length_utf8_of_single {cs : List Char} (h : ∀ c ∈ cs, c.utf8Size = 1) :
    (utf8 cs).length = cs.length := by
  have hlength : ∀ c ∈ cs, (String.utf8EncodeChar c).length = 1 := fun c hc => by
    rw [String.length_utf8EncodeChar, h c hc]
  rw [utf8, List.length_flatMap, List.map_congr_left hlength, List.map_const', List.sum_replicate_nat,
    Nat.mul_one]

section Order

variable {c d : Char} {l r : List UInt8} {m n : Nat} {as bs : List Char}

theorem ofNat_cons_lt_iff (hm : m < 256) (hn : n < 256) :
    UInt8.ofNat m :: l < UInt8.ofNat n :: r ↔ m < n ∨ m = n ∧ l < r := by
  rw [List.cons_lt_cons_iff, UInt8.lt_iff_toNat_lt, ← UInt8.toNat_inj, UInt8.toNat_ofNat_of_lt' hm,
    UInt8.toNat_ofNat_of_lt' hn]

theorem digits_lt_or (h : m < n) : m / 64 < n / 64 ∨ m / 64 = n / 64 ∧ m % 64 < n % 64 := by
  omega

/-- The bytes of two characters differ in the order of the characters, whatever follows them. The
first byte grows with the number of bytes; with one number of them they are the digits of the
characters in base 64. -/
theorem utf8EncodeChar_append_lt (h : c < d) (l r : List UInt8) :
    String.utf8EncodeChar c ++ l < String.utf8EncodeChar d ++ r := by
  have hcd : c.val.toNat < d.val.toNat := h
  have hd : d.val.toNat < 0x110000 := by
    have hvalid : d.val.toNat < 0xd800 ∨ 0xdfff < d.val.toNat ∧ d.val.toNat < 0x110000 := d.valid
    omega
  unfold String.utf8EncodeChar
  dsimp only
  generalize c.val.toNat = m at *
  generalize d.val.toNat = n at *
  have hfourth := digits_lt_or hcd
  have hthird := @digits_lt_or (m / 64) (n / 64)
  have hsecond := @digits_lt_or (m / 64 / 64) (n / 64 / 64)
  simp only [Nat.div_div_eq_div_mul, Nat.reduceMul] at hthird hsecond
  have hm : m / 262144 % 8 = m / 262144 := Nat.mod_eq_of_lt (by omega)
  have hn : n / 262144 % 8 = n / 262144 := Nat.mod_eq_of_lt (by omega)
  by_cases hlr : l < r
  all_goals
    repeat' split
    all_goals
      simp (disch := omega) only [List.cons_append, List.nil_append, ofNat_cons_lt_iff, hlr, hm, hn]
      omega

theorem utf8_lt_utf8 (h : as < bs) : utf8 as < utf8 bs := by
  induction h with
  | nil =>
    rename_i b bs
    obtain ⟨x, xs, hb⟩ := List.exists_cons_of_ne_nil (String.utf8EncodeChar_ne_nil (c := b))
    rw [utf8, utf8, List.flatMap_cons, hb]
    exact List.nil_lt_cons x _
  | rel h => exact utf8EncodeChar_append_lt h _ _
  | cons _ ih => exact List.append_left_lt ih

/-- Texts stand in the order of their bytes. -/
theorem utf8_lt_utf8_iff : utf8 as < utf8 bs ↔ as < bs := by
  refine ⟨fun h => ?_, utf8_lt_utf8⟩
  refine List.not_le.mp fun hle => ?_
  obtain hlt | rfl := List.le_iff_lt_or_eq.mp hle
  · exact List.lt_asymm h (utf8_lt_utf8 hlt)
  · exact List.lt_irrefl _ h

theorem utf8_le_utf8_iff {a b : String} : utf8 a.toList ≤ utf8 b.toList ↔ a ≤ b :=
  not_congr utf8_lt_utf8_iff

end Order

/-- The bytes of a text stand in front of others exactly if the text does. -/
theorem utf8_prefix_utf8_iff {as bs : List Char} : utf8 as <+: utf8 bs ↔ as <+: bs := by
  constructor
  · rintro ⟨rest, h⟩
    refine List.isPrefix_of_utf8Encode_append_eq_utf8Encode rest.toByteArray ?_
    exact List.toByteArray_append.symm.trans (congrArg List.toByteArray h)
  · rintro ⟨rest, rfl⟩
    exact ⟨utf8 rest, (utf8_append as rest).symm⟩

end FieldGuard
