import FieldGuard.Decimal.Numeral
import FieldGuard.Json.Value
import FieldGuard.Proofs.Decimal.Unpacked

/-! The text of a number in JSON: digits without a zero in front, and for a double a fraction and an
exponent, each of which may be absent. What is written for an integer or a finite double has this
form (`JsonNumber.isText_text`): the shortest digits of a double other than zero are never a zero,
so zeros behind them never follow a zero in front. -/
namespace FieldGuard

namespace Decimal

variable {tie : Tie} {m : Nat} {q g : Int} {d : Decimal}

theorem compareScaled_zero {n : Nat} (hn : n ≠ 0) (i j : Int) : compareScaled 0 i n j = .lt := by
  have hpos : 0 < n <<< j.toNat * Nat.pow 10 (-i).toNat := by
    rw [Nat.shiftLeft_eq]
    exact Nat.mul_pos (Nat.mul_pos (by omega) (Nat.two_pow_pos _)) (Nat.pow_pos (by decide))
  rw [compareScaled, Nat.zero_mul, Nat.zero_shiftLeft]
  exact Nat.compare_eq_lt.mpr hpos

/-- Zero lies below all reals that round to a positive double. -/
theorem digits_ne_zero_of_readsBack (hm : m ≠ 0) (h : readsBack m q d = true) : d.digits ≠ 0 := by
  intro hd
  have hlow : (if m == Binary64.hiddenBit && -1074 < q then 4 * m - 1 else 4 * m - 2) ≠ 0 := by
    split <;> omega
  simp only [readsBack, hd, compareScaled_zero hlow] at h
  simp at h

theorem digits_ne_zero_of_onGrid? (hm : m ≠ 0) (h : onGrid? tie m q g = some d) :
    d.digits ≠ 0 := by
  simp only [onGrid?] at h
  split at h
  · cases h
  · rename_i hbelow _
    obtain rfl := Option.some.inj h
    exact digits_ne_zero_of_readsBack hm hbelow
  · obtain rfl := Option.some.inj h
    exact Nat.succ_ne_zero _
  · rename_i hbelow habove
    have hb := digits_ne_zero_of_readsBack hm hbelow
    have ha := digits_ne_zero_of_readsBack hm habove
    split at h
    · obtain rfl := Option.some.inj h
      exact hb
    · obtain rfl := Option.some.inj h
      exact ha
    · split at h
      · obtain rfl := Option.some.inj h
        exact hb
      · obtain rfl := Option.some.inj h
        exact ha

theorem digits_strip_ne_zero (fuel : Nat) (h : d.digits ≠ 0) : (strip fuel d).digits ≠ 0 := by
  induction fuel generalizing d with
  | zero => exact h
  | succ fuel ih =>
    rw [strip]
    split
    · rename_i hc
      simp only [Bool.and_eq_true, bne_iff_ne, beq_iff_eq] at hc
      refine ih (d := ⟨d.digits / 10, d.exponent + 1⟩) ?_
      show d.digits / 10 ≠ 0
      omega
    · exact h

theorem digits_exact_ne_zero (hm : m ≠ 0) (q : Int) : (exact m q).digits ≠ 0 := by
  have hshift : m <<< q.toNat ≠ 0 := by
    rw [Nat.shiftLeft_eq]
    exact Nat.mul_ne_zero hm (Nat.ne_of_gt (Nat.two_pow_pos _))
  have hpow : Nat.pow 5 (-q).toNat ≠ 0 := Nat.ne_of_gt (Nat.pow_pos (by decide))
  exact Nat.mul_ne_zero hshift hpow

theorem digits_shortest_ne_zero (tie : Tie) (hm : m ≠ 0) (q : Int) :
    (shortest tie m q).digits ≠ 0 := by
  refine digits_strip_ne_zero 400 ?_
  cases hf : (List.range 17).findSome? fun (n : Nat) =>
      onGrid? tie m q (magnitude m q - (n + 1)) with
  | none => exact digits_exact_ne_zero hm q
  | some d =>
    obtain ⟨n, -, hn⟩ := List.exists_of_findSome?_eq_some hf
    exact digits_ne_zero_of_onGrid? hm hn

end Decimal

namespace JsonNumber

section Grammar

/-- One digit or more. -/
def IsDigits (cs : List Char) : Prop := cs ≠ [] ∧ ∀ c ∈ cs, c.isDigit = true

/-- The digits before a point: a zero alone, or digits that start with another one. -/
def IsWhole (cs : List Char) : Prop := cs = ['0'] ∨ IsDigits cs ∧ cs.head? ≠ some '0'

/-- Nothing, or a point and digits. -/
def IsFraction (cs : List Char) : Prop := cs = [] ∨ ∃ ds, IsDigits ds ∧ cs = '.' :: ds

/-- Nothing, or a mark, a sign that may be absent, and digits. -/
def IsExponent (cs : List Char) : Prop :=
  cs = [] ∨ ∃ sign ds, sign ∈ [[], ['+'], ['-']] ∧ IsDigits ds ∧ cs = 'e' :: (sign ++ ds)

/-- The text of a number without its sign. -/
def IsUnsigned (cs : List Char) : Prop :=
  ∃ whole fraction exponent, IsWhole whole ∧ IsFraction fraction ∧ IsExponent exponent ∧
    cs = whole ++ fraction ++ exponent

/-- The texts of a number. A double is the value of its text up to rounding only, so any number is
a text of it here. -/
inductive IsText : JsonNumber → List Char → Prop
  | natural {ds} (h : IsWhole ds) : IsText (.integer (Numeral.digitsValue ds)) ds
  | negative {ds} (h : IsWhole ds) : IsText (.integer (-Numeral.digitsValue ds)) ('-' :: ds)
  | double {x cs} (h : IsUnsigned cs) : IsText (.double x) cs
  | negativeDouble {x cs} (h : IsUnsigned cs) : IsText (.double x) ('-' :: cs)

end Grammar

section Digits

variable {n : Nat} {ds : List Char}

theorem IsWhole.isDigits (h : IsWhole ds) : IsDigits ds := by
  rcases h with rfl | h
  · exact ⟨List.cons_ne_nil _ _, List.forall_mem_singleton.mpr rfl⟩
  · exact h.1

theorem IsDigits.append_digits {es : List Char} (h : IsDigits ds)
    (he : ∀ c ∈ es, c.isDigit = true) : IsDigits (ds ++ es) := by
  refine ⟨by simp [h.1], fun c hc => ?_⟩
  rcases List.mem_append.mp hc with hc | hc
  · exact h.2 c hc
  · exact he c hc

theorem isDigits_toDigits (n : Nat) : IsDigits (Nat.toDigits 10 n) :=
  ⟨Nat.toDigits_ne_nil, fun _ hc => Nat.isDigit_of_mem_toDigits (by decide) (by decide) hc⟩

theorem head?_toDigits_ne_zero (h : n ≠ 0) : (Nat.toDigits 10 n).head? ≠ some '0' := by
  induction n using Nat.strongRecOn with
  | ind n ih =>
    rw [Nat.toDigits_eq_if (by decide)]
    split
    · have hd : n.digitChar ≠ '0' := by simp [h]
      simpa using hd
    · have hrest := ih (n / 10) (by omega) (by omega)
      rwa [List.head?_append, Option.or_of_isSome (by simp)]

theorem isWhole_toDigits (n : Nat) : IsWhole (Nat.toDigits 10 n) := by
  rcases Nat.eq_zero_or_pos n with rfl | h
  · exact .inl (Nat.toDigits_zero 10)
  · exact .inr ⟨isDigits_toDigits n, head?_toDigits_ne_zero (by omega)⟩

theorem digitsValue_toDigits (n : Nat) : Numeral.digitsValue (Nat.toDigits 10 n) = n :=
  Nat.ofDigitChars_ten_toDigits

theorem digit_of_mem_zeros {c : Char} (h : c ∈ (Layout.zeros n).toList) : c.isDigit = true := by
  rw [Layout.zeros, String.toList_ofList] at h
  rw [List.eq_of_mem_replicate h]
  decide

end Digits

section Layout

variable {ds : List Char} {k : Nat} {e : Int}

/-- Digits without a zero in front, cut behind some of them, still have none. -/
theorem isWhole_take (hd : IsDigits ds) (hz : ds.head? ≠ some '0') (hk : k ≠ 0) :
    IsWhole (ds.take k) := by
  refine .inr ⟨⟨by simp [hk, hd.1], fun c hc => hd.2 c (List.mem_of_mem_take hc)⟩, ?_⟩
  rwa [List.head?_take, if_neg hk]

theorem isDigits_drop (hd : IsDigits ds) (hk : k < ds.length) : IsDigits (ds.drop k) :=
  ⟨by simpa [List.drop_eq_nil_iff] using hk, fun c hc => hd.2 c (List.mem_of_mem_drop hc)⟩

theorem isUnsigned_writePositional (hd : IsDigits ds) (hz : ds.head? ≠ some '0') (e : Int) :
    IsUnsigned (Layout.writePositional true (String.ofList ds) e).toList := by
  simp only [Layout.writePositional, String.length_ofList, String.toList_ofList]
  split
  · refine ⟨ds ++ (Layout.zeros e.toNat).toList, ['.', '0'], [], .inr ⟨?_, ?_⟩,
      .inr ⟨['0'], IsWhole.isDigits (.inl rfl), rfl⟩, .inl rfl, by simp⟩
    · exact hd.append_digits fun c hc => digit_of_mem_zeros hc
    · rwa [List.head?_append, Option.or_of_isSome (by simp [hd.1])]
  · rename_i hneg
    split
    · rename_i hlead
      exact ⟨ds.take (ds.length + e).toNat, '.' :: ds.drop (ds.length + e).toNat, [],
        isWhole_take hd hz (by omega), .inr ⟨_, isDigits_drop hd (by omega), rfl⟩, .inl rfl,
        by simp⟩
    · refine ⟨['0'], '.' :: ((Layout.zeros (-(ds.length + e)).toNat).toList ++ ds), [], .inl rfl,
        .inr ⟨_, ⟨by simp [hd.1], fun c hc => ?_⟩, rfl⟩, .inl rfl, by simp⟩
      rcases List.mem_append.mp hc with hc | hc
      · exact digit_of_mem_zeros hc
      · exact hd.2 c hc

theorem isUnsigned_writeScientific (hd : IsDigits ds) (hz : ds.head? ≠ some '0') (e : Int) :
    IsUnsigned (Layout.writeScientific true (String.ofList ds) e).toList := by
  have hexponent : ∀ (sign : String) (n : Nat), sign.toList ∈ [[], ['+'], ['-']] →
      IsExponent ('e' :: (sign.toList ++ Nat.toDigits 10 n)) := fun sign n hs =>
    .inr ⟨sign.toList, Nat.toDigits 10 n, hs, isDigits_toDigits n, rfl⟩
  have hfraction : IsFraction (if (String.ofList (ds.drop 1)).isEmpty then ""
      else "." ++ String.ofList (ds.drop 1)).toList := by
    split
    · exact .inl rfl
    · rename_i h
      have hlong : 1 < ds.length := by
        rwa [String.isEmpty_iff, ← String.toList_inj, String.toList_ofList, String.toList_empty,
          List.drop_eq_nil_iff, Nat.not_le] at h
      exact .inr ⟨ds.drop 1, isDigits_drop hd hlong, by simp⟩
  have hsign : (if ds.length - 1 + e < 0 then "-" else if true then "+" else "").toList ∈
      [[], ['+'], ['-']] := by
    split <;> decide
  simp only [Layout.writeScientific, String.length_ofList, String.toList_ofList]
  exact ⟨ds.take 1, _, _, isWhole_take hd hz Nat.one_ne_zero, hfraction,
    hexponent _ (ds.length - 1 + e).natAbs hsign, by simp⟩

theorem isUnsigned_writeDecimal {d : Decimal} (h : d.digits ≠ 0) :
    IsUnsigned (Layout.json.writeDecimal d).toList := by
  have hdigits := isDigits_toDigits d.digits
  have hzero := head?_toDigits_ne_zero h
  simp only [Layout.writeDecimal, Layout.json, Nat.toString_eq_ofList_toDigits]
  split
  · exact isUnsigned_writePositional hdigits hzero _
  · exact isUnsigned_writeScientific hdigits hzero _

end Layout

section Finite

/-- A number that JSON has a text for. -/
def Finite : JsonNumber → Prop
  | .integer _ => True
  | .double x => x.isFinite = true

theorem exists_decode_of_isFinite {x : Float} (h : x.isFinite = true) :
    ∃ d, Binary64.decode x = .finite d := by
  have hfinite : x.toModel.unpack.isFinite = true := h
  rw [Binary64.unpack_eq] at hfinite
  cases hd : Binary64.decode x with
  | finite d => exact ⟨d, rfl⟩
  | nan | infinity =>
    rw [hd] at hfinite
    exact absurd hfinite Bool.false_ne_true

theorem isText_write {x : Float} (h : x.isFinite = true) :
    IsText (.double x) (Layout.json.write x).toList := by
  obtain ⟨⟨negative, m, q⟩, hd⟩ := exists_decode_of_isFinite h
  have hbody : IsUnsigned (if m = 0 then (if Layout.json.pointZero then "0.0" else "0")
      else Layout.json.writeDecimal (Decimal.shortest Layout.json.tie m q)).toList := by
    split
    · exact ⟨['0'], ['.', '0'], [], .inl rfl, .inr ⟨['0'], (IsWhole.isDigits (.inl rfl)), rfl⟩,
        .inl rfl, rfl⟩
    · rename_i hm
      exact isUnsigned_writeDecimal (Decimal.digits_shortest_ne_zero _ hm q)
  rw [Layout.write, hd]
  cases negative with
  | false => simpa using .double hbody
  | true => simpa using .negativeDouble hbody

theorem isText_toString (i : Int) : IsText (.integer i) (toString i).toList := by
  rw [Int.toString_eq_repr, Int.repr_eq_if]
  split
  · rename_i hi
    have h := IsText.natural (isWhole_toDigits i.toNat)
    rwa [digitsValue_toDigits, Int.toNat_of_nonneg hi, ← Nat.toList_repr] at h
  · rename_i hi
    have h := IsText.negative (isWhole_toDigits (-i).toNat)
    rw [digitsValue_toDigits, Int.toNat_of_nonneg (by omega), Int.neg_neg] at h
    simpa using h

theorem isText_text {n : JsonNumber} (h : n.Finite) : n.IsText n.text.toList := by
  cases n with
  | integer i => exact isText_toString i
  | double x => exact isText_write h

end Finite

section Lines

variable {cs : List Char}

theorem IsDigits.newline_notMem (h : IsDigits cs) : '\n' ∉ cs :=
  fun hc => absurd (h.2 _ hc) (by decide)

theorem IsFraction.newline_notMem (h : IsFraction cs) : '\n' ∉ cs := by
  rcases h with rfl | ⟨ds, hd, rfl⟩
  · simp
  · simpa using hd.newline_notMem

theorem IsExponent.newline_notMem (h : IsExponent cs) : '\n' ∉ cs := by
  rcases h with rfl | ⟨sign, ds, hs, hd, rfl⟩
  · simp
  · have hsign : '\n' ∉ sign := by
      intro hc
      simp only [List.mem_cons, List.not_mem_nil, or_false] at hs
      rcases hs with rfl | rfl | rfl <;> simp at hc
    simpa using ⟨hsign, hd.newline_notMem⟩

theorem IsUnsigned.newline_notMem (h : IsUnsigned cs) : '\n' ∉ cs := by
  obtain ⟨whole, fraction, exponent, hw, hf, he, rfl⟩ := h
  simpa using ⟨hw.isDigits.newline_notMem, hf.newline_notMem, he.newline_notMem⟩

/-- The text of a number stands on one line. -/
theorem IsText.newline_notMem {n : JsonNumber} (h : n.IsText cs) : '\n' ∉ cs := by
  cases h with
  | natural h => exact h.isDigits.newline_notMem
  | negative h => simpa using h.isDigits.newline_notMem
  | double h => exact h.newline_notMem
  | negativeDouble h => simpa using h.newline_notMem

end Lines

end JsonNumber
end FieldGuard
