import FieldGuard.Proofs.Source.Front
import FieldGuard.Proofs.Text.Bytes

/-! The numeral in front of a source is read as far as it goes: it is the longest one whose bytes
the source starts with. Nothing is read as a numeral only where none stands in front. All characters
of a numeral are single bytes, so what is taken ends between two characters. -/
namespace FieldGuard
namespace Numeral

theorem frontLength_settled (signed : Bool) : Settled (frontLength signed) := by
  cases signed with
  | false => exact unsignedLength_settled
  | true => exact signedLength_settled

namespace Spelling

variable {signed : Bool} {rest cs : List Char}

theorem frontLength_chars (n : Spelling) (h : Apart rest) :
    frontLength n.sign.isSome (n.chars ++ rest) = n.chars.length := by
  cases hs : n.sign with
  | none =>
    rw [chars_of_sign hs]
    exact n.unsignedLength_body h
  | some s =>
    refine (n.signedLength_chars h).trans (if_neg ?_)
    rw [hs]
    exact nofun

/-- A numeral in front of a text is read to its end at least. -/
theorem length_chars_le (n : Spelling) (rest : List Char) :
    n.chars.length ≤ frontLength n.sign.isSome (n.chars ++ rest) := by
  refine Nat.le_of_not_lt fun hlt => ?_
  -- What is read within the numeral is read of the numeral alone, and that is all of it.
  have hsettled := frontLength_settled n.sign.isSome .nil (Nat.le_of_lt hlt)
  rw [n.frontLength_chars .nil] at hsettled
  exact Nat.ne_of_gt hlt hsettled

/-- What is taken in front of a text is a numeral. -/
theorem exists_of_frontLength (h : frontLength signed cs ≠ 0) :
    ∃ (n : Spelling) (rest : List Char),
      n.sign.isSome = signed ∧ n.chars ++ rest = cs ∧ frontLength signed cs = n.chars.length := by
  cases signed with
  | false =>
    obtain ⟨n, rest, hs, hcs, hlength⟩ := exists_body_append h
    rw [← chars_of_sign hs] at hcs hlength
    exact ⟨n, rest, Option.isSome_eq_false_iff.mpr (Option.isNone_iff_eq_none.mpr hs), hcs, hlength⟩
  | true =>
    obtain ⟨n, rest, hs, hcs, hlength⟩ := exists_chars_append h
    exact ⟨n, rest, Option.isSome_iff_ne_none.mpr hs, hcs, hlength⟩

/-- Every character of a numeral is one byte. -/
theorem utf8Size_eq_one (n : Spelling) : ∀ c ∈ n.chars, c.utf8Size = 1 := by
  intro c hc
  obtain (rfl | rfl) | (rfl | hdigit) | rfl | rfl := n.mem_chars c hc
  any_goals rfl
  have hle : c.val ≤ '9'.val := of_decide_eq_true (Bool.and_eq_true_iff.mp hdigit).2
  exact Char.utf8Size_eq_one_iff.mpr (UInt32.le_trans hle (by decide))

theorem length_utf8_chars (n : Spelling) : (utf8 n.chars).length = n.chars.length :=
  length_utf8_of_single n.utf8Size_eq_one

/-- The bytes of a numeral stand in front of a source, and a sign among them exactly if one is
asked for. -/
structure InFront (n : Spelling) (signed : Bool) (source : String) : Prop where
  sign : n.sign.isSome = signed
  bytes : utf8 n.chars <+: utf8 source.toList

/-- No numeral in front of a source has more bytes. -/
structure Longest (n : Spelling) (signed : Bool) (source : String) : Prop
    extends InFront n signed source where
  length_le : ∀ m : Spelling, m.InFront signed source →
    (utf8 m.chars).length ≤ (utf8 n.chars).length

variable {n : Spelling} {source : String}

theorem InFront.exists_append (h : n.InFront signed source) :
    ∃ rest, n.chars ++ rest = source.toList :=
  utf8_prefix_utf8_iff.mp h.bytes

theorem inFront_of_append (h : n.chars ++ rest = source.toList) :
    n.InFront n.sign.isSome source :=
  ⟨rfl, utf8_prefix_utf8_iff.mpr ⟨rest, h⟩⟩

theorem InFront.length_le (h : n.InFront signed source) :
    (utf8 n.chars).length ≤ frontLength signed source.toList := by
  obtain ⟨rest, hrest⟩ := h.exists_append
  rw [n.length_utf8_chars, ← hrest, ← h.sign]
  exact n.length_chars_le rest

/-- What is taken is as long as the longest numeral in front. -/
theorem longest_iff : n.Longest signed source ↔
    n.InFront signed source ∧ frontLength signed source.toList = n.chars.length := by
  constructor
  · intro h
    refine ⟨h.toInFront, Nat.le_antisymm ?_ (n.length_utf8_chars ▸ h.toInFront.length_le)⟩
    by_cases hzero : frontLength signed source.toList = 0
    · rw [hzero]
      exact Nat.zero_le _
    · obtain ⟨m, rest, rfl, hrest, hlength⟩ := exists_of_frontLength hzero
      have hle := h.length_le m (inFront_of_append hrest)
      rwa [m.length_utf8_chars, n.length_utf8_chars, ← hlength] at hle
  · rintro ⟨hfront, hlength⟩
    refine ⟨hfront, fun m hm => ?_⟩
    rw [n.length_utf8_chars, ← hlength]
    exact hm.length_le

end Spelling
end Numeral

namespace Lexeme

variable {signed : Bool} {source : String} {t : Token} {k : Nat}

theorem frontNumeral?_eq_some_of_longest {n : Numeral.Spelling} (h : n.Longest signed source) :
    frontNumeral? signed source.toList = some (.operand (.number n.value), n.chars.length - 1) := by
  obtain ⟨hfront, hlength⟩ := Numeral.Spelling.longest_iff.mp h
  obtain ⟨rest, hrest⟩ := hfront.exists_append
  exact frontNumeral?_of_chars hrest hlength

/-- There is no numeral in front, or there is a longest one. -/
theorem exists_longest_of_inFront {n : Numeral.Spelling} (h : n.InFront signed source) :
    ∃ m : Numeral.Spelling, m.Longest signed source := by
  have hne : Numeral.frontLength signed source.toList ≠ 0 := by
    have hle := h.length_le
    have hpos := List.length_pos_iff.mpr n.chars_ne_nil
    rw [n.length_utf8_chars] at hle
    omega
  obtain ⟨m, rest, rfl, hrest, hlength⟩ := Numeral.Spelling.exists_of_frontLength hne
  exact ⟨m, Numeral.Spelling.longest_iff.mpr ⟨Numeral.Spelling.inFront_of_append hrest, hlength⟩⟩

theorem frontNumeral?_eq_none_iff :
    frontNumeral? signed source.toList = none ↔ ∀ n : Numeral.Spelling, ¬n.InFront signed source := by
  constructor
  · intro h n hn
    obtain ⟨m, hm⟩ := exists_longest_of_inFront hn
    rw [frontNumeral?_eq_some_of_longest hm] at h
    cases h
  · intro h
    refine frontNumeral?_of_length_zero (Decidable.byContradiction fun hne => ?_)
    obtain ⟨n, rest, rfl, hrest, -⟩ := Numeral.Spelling.exists_of_frontLength hne
    exact h n (Numeral.Spelling.inFront_of_append hrest)

theorem frontNumeral?_eq_some_iff :
    frontNumeral? signed source.toList = some (t, k) ↔
      ∃ n : Numeral.Spelling, n.Longest signed source ∧ t = .operand (.number n.value) ∧
        k + 1 = (utf8 n.chars).length := by
  constructor
  · intro h
    obtain ⟨m, hm⟩ : ∃ m : Numeral.Spelling, m.InFront signed source := by
      refine Classical.byContradiction fun hnone => ?_
      rw [frontNumeral?_eq_none_iff.mpr (not_exists.mp hnone)] at h
      cases h
    obtain ⟨n, hn⟩ := exists_longest_of_inFront hm
    rw [frontNumeral?_eq_some_of_longest hn] at h
    have hpos := List.length_pos_iff.mpr n.chars_ne_nil
    cases h
    exact ⟨n, hn, rfl, by rw [n.length_utf8_chars, Nat.sub_add_cancel hpos]⟩
  · rintro ⟨n, hn, rfl, hk⟩
    rw [n.length_utf8_chars] at hk
    rw [frontNumeral?_eq_some_of_longest hn, ← hk]
    rfl

/-- The bytes of a numeral in front of a source end between two characters. -/
theorem isValid_of_inFront {n : Numeral.Spelling} (h : n.InFront signed source) :
    (⟨(utf8 n.chars).length⟩ : String.Pos.Raw).IsValid source := by
  obtain ⟨rest, hrest⟩ := h.exists_append
  refine String.Pos.Raw.isValid_iff_exists_take_toList.mpr ⟨n.chars.length, ?_⟩
  rw [← hrest, List.take_left, length_utf8, byteLength_ofList]

/-- The numeral that is read in front of a source is the longest one there is, and none is read only
if there is none. What is taken of the source ends between two of its characters. -/
theorem longest_numeral_read (signed : Bool) (source : String) :
    (∀ t k, frontNumeral? signed source.toList = some (t, k) ↔
      ∃ n : Numeral.Spelling, n.Longest signed source ∧ t = .operand (.number n.value) ∧
        k + 1 = (utf8 n.chars).length) ∧
    (frontNumeral? signed source.toList = none ↔ ∀ n : Numeral.Spelling, ¬n.InFront signed source) ∧
    ∀ t k, frontNumeral? signed source.toList = some (t, k) →
      (⟨k + 1⟩ : String.Pos.Raw).IsValid source := by
  refine ⟨fun t k => frontNumeral?_eq_some_iff, frontNumeral?_eq_none_iff, fun t k h => ?_⟩
  obtain ⟨n, hn, -, hk⟩ := frontNumeral?_eq_some_iff.mp h
  rw [hk]
  exact isValid_of_inFront hn.toInFront

/-- A mark that no digits follow is left, and a sign behind it. -/
theorem longest_numeral_read_before_mark :
    (frontNumeral? true "-1.5e+é".toList).map Prod.snd = some 3 ∧
      (⟨4⟩ : String.Pos.Raw).IsValid "-1.5e+é" := by
  have hfront : (frontNumeral? true "-1.5e+é".toList).map Prod.snd = some 3 := by decide
  obtain ⟨⟨t, k⟩, hread, hk⟩ := Option.map_eq_some_iff.mp hfront
  obtain rfl : k = 3 := hk
  exact ⟨hfront, (longest_numeral_read true "-1.5e+é").2.2 t 3 hread⟩

end Lexeme
end FieldGuard
