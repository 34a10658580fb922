import FieldGuard.Proofs.Decimal.Limit
import FieldGuard.Subject.Document

/-! Integers in subject files. A number is taken as the integer that it is, or not at all: whether
it is stored as an integer or as a double, it is neither rounded nor brought into range
(`JsonNumber.toInt64?_eq_some_iff`). The ids of objects are the integers below `2 ^ 48`. -/
namespace FieldGuard

/-- The integers of 64 bits with a sign. -/
def FitsInt64 (j : ℤ) : Prop := -2 ^ 63 ≤ j ∧ j ≤ 2 ^ 63 - 1

theorem fitsInt64_toInt (i : Int64) : FitsInt64 i.toInt := ⟨i.le_toInt, i.toInt_le⟩

namespace Binary64

variable {x : Float} {d : Dyadic} {i : Int64} {j : ℤ}

theorem cutToInt64_of_decode (h : decode x = .finite d) :
    cutToInt64 x = Int64.ofIntClamp (d.signed d.wholeSize) := by
  unfold cutToInt64
  rw [h]
  rfl

/-- The sizes below the limit, with a sign, are the integers of 64 bits but the first. -/
theorem natAbs_lt_limit_iff : j.natAbs < 2 ^ 63 ↔ FitsInt64 j ∧ j ≠ -2 ^ 63 := by
  unfold FitsInt64
  omega

theorem toInt_cutToInt64 (h : exactInt? x = some j) (hfits : FitsInt64 j) :
    (cutToInt64 x).toInt = j := by
  obtain ⟨d, hd, rfl⟩ := exists_decode_of_exactInt? h
  rw [cutToInt64_of_decode hd]
  exact Int64.toInt_ofIntClamp hfits.1 hfits.2

/-- A whole double is below the limit in size exactly if the integer is. -/
theorem abs_lt_limit_of_exactInt? (h : exactInt? x = some j) :
    x.abs < ofInt Int64.maxValue.toInt ↔ FitsInt64 j ∧ j ≠ -2 ^ 63 := by
  obtain ⟨d, hd, rfl⟩ := exists_decode_of_exactInt? h
  rw [abs_lt_limit_iff hd, ← natAbs_lt_limit_iff, d.natAbs_signed]

/-- An integer that does not fit is rounded to no whole double that does. -/
theorem not_abs_lt_limit_ofInt (h : ¬FitsInt64 j) (hwhole : (exactInt? (ofInt j)).isSome) :
    ¬(ofInt j).abs < ofInt Int64.maxValue.toInt := by
  obtain ⟨k, hk⟩ := Option.isSome_iff_exists.mp hwhole
  obtain ⟨d, hd, -⟩ := exists_decode_of_exactInt? hk
  have hlarge : 2 ^ 63 ≤ j.natAbs := Nat.not_lt.mp fun hlt => h (natAbs_lt_limit_iff.mp hlt).1
  rw [abs_lt_limit_iff hd, wholeSize_lt_iff hd]
  exact Int.not_lt.mpr (exponent_of_ofInt hlarge hd)

end Binary64

namespace JsonNumber

variable {n : JsonNumber} {x : Float} {i : Int64} {j : ℤ}

/-- The number that is meant, if it is not a double without a value. -/
def value? : JsonNumber → Option ℚ
  | .integer i => some i
  | .double x => Binary64.value? x

/-- The first of the integers that fit, as a double. -/
def IsFirstDouble (n : JsonNumber) : Prop :=
  ∃ x, n = .double x ∧ n.value? = some ((-2 ^ 63 : ℤ) : ℚ)

theorem toInt64?_integer_of_fits (h : FitsInt64 j) :
    (JsonNumber.integer j).toInt64? = some (Int64.ofInt j) := by
  have hstored : (JsonNumber.integer j).stored? = some (Int64.ofInt j) := if_pos h
  rw [toInt64?, hstored]

theorem toInt64?_integer_of_not_fits (h : ¬FitsInt64 j) :
    (JsonNumber.integer j).toInt64? = none := by
  have hstored : (JsonNumber.integer j).stored? = none := if_neg h
  rw [toInt64?, hstored]
  exact if_neg fun hdouble => Binary64.not_abs_lt_limit_ofInt h hdouble.1 hdouble.2

theorem toInt64?_double (x : Float) :
    (JsonNumber.double x).toInt64? =
      if (Binary64.exactInt? x).isSome ∧ x.abs < Binary64.ofInt Int64.maxValue.toInt then
        some (Binary64.cutToInt64 x)
      else none := rfl

theorem toInt64?_double_eq_some_iff :
    (JsonNumber.double x).toInt64? = some i ↔
      Binary64.value? x = some (i.toInt : ℚ) ∧ i.toInt ≠ -2 ^ 63 := by
  rw [← Binary64.exactInt?_eq_some_iff, toInt64?_double]
  constructor
  · intro h
    split at h
    · next hguard =>
      obtain ⟨j, hj⟩ := Option.isSome_iff_exists.mp hguard.1
      obtain ⟨hfits, hne⟩ := (Binary64.abs_lt_limit_of_exactInt? hj).mp hguard.2
      obtain rfl := Option.some.inj h
      rw [Binary64.toInt_cutToInt64 hj hfits]
      exact ⟨hj, hne⟩
    · cases h
  · rintro ⟨hj, hne⟩
    have hguard := (Binary64.abs_lt_limit_of_exactInt? hj).mpr ⟨fitsInt64_toInt i, hne⟩
    rw [if_pos ⟨Option.isSome_of_eq_some hj, hguard⟩]
    exact congrArg some (Int64.toInt_inj.mp (Binary64.toInt_cutToInt64 hj (fitsInt64_toInt i)))

/-- A number is taken as the integer that it is. -/
theorem toInt64?_eq_some_iff :
    n.toInt64? = some i ↔ n.value? = some (i.toInt : ℚ) ∧ ¬n.IsFirstDouble := by
  cases n with
  | integer j =>
    have hfirst : ¬(JsonNumber.integer j).IsFirstDouble := nofun
    rw [and_iff_left hfirst, value?, Option.some_inj, Int.cast_inj]
    by_cases h : FitsInt64 j
    · rw [toInt64?_integer_of_fits h, Option.some_inj, ← Int64.toInt_inj,
        Int64.toInt_ofInt_of_le h.1 (Int.lt_of_le_sub_one h.2)]
    · rw [toInt64?_integer_of_not_fits h]
      refine iff_of_false nofun ?_
      rintro rfl
      exact h (fitsInt64_toInt i)
  | double x =>
    rw [toInt64?_double_eq_some_iff, value?]
    refine and_congr_right fun hvalue => not_congr ?_
    constructor
    · intro hi
      exact ⟨x, rfl, by rw [value?, hvalue, hi]⟩
    · rintro ⟨-, -, hfirst⟩
      rw [value?, hvalue, Option.some_inj, Int.cast_inj] at hfirst
      exact hfirst

/-- No number is taken but the integers that fit. -/
theorem toInt64?_eq_none_iff :
    n.toInt64? = none ↔
      (¬∃ j : ℤ, n.value? = some (j : ℚ)) ∨ (∃ j : ℤ, n.value? = some (j : ℚ) ∧ ¬FitsInt64 j) ∨
        n.IsFirstDouble := by
  constructor
  · intro h
    by_cases hwhole : ∃ j : ℤ, n.value? = some (j : ℚ)
    · obtain ⟨j, hj⟩ := hwhole
      by_cases hfits : FitsInt64 j
      · refine .inr (.inr (Classical.byContradiction fun hfirst => ?_))
        have hint : (Int64.ofInt j).toInt = j :=
          Int64.toInt_ofInt_of_le hfits.1 (Int.lt_of_le_sub_one hfits.2)
        rw [← hint] at hj
        rw [toInt64?_eq_some_iff.mpr ⟨hj, hfirst⟩] at h
        cases h
      · exact .inr (.inl ⟨j, hj, hfits⟩)
    · exact .inl hwhole
  · intro h
    cases hi : n.toInt64? with
    | none => rfl
    | some i =>
      obtain ⟨hvalue, hnot⟩ := toInt64?_eq_some_iff.mp hi
      obtain hwhole | ⟨j, hj, hfits⟩ | hfirst := h
      · exact absurd ⟨i.toInt, hvalue⟩ hwhole
      · rw [hvalue, Option.some_inj, Int.cast_inj] at hj
        exact absurd (hj ▸ fitsInt64_toInt i) hfits
      · exact absurd hfirst hnot

/-- The number is an integer that objects may be told by. -/
def IsId (n : JsonNumber) (id : ℕ) : Prop := n.value? = some (id : ℚ) ∧ id < 2 ^ 48

theorem isId_iff {id : ℕ} : n.IsId id ↔ ∃ i, n.toInt64? = some i ∧ i.toInt = id ∧ id < 2 ^ 48 := by
  constructor
  · rintro ⟨hvalue, hlt⟩
    have hint : (Int64.ofInt id).toInt = id := Int64.toInt_ofInt_of_le (by omega) (by omega)
    refine ⟨Int64.ofInt id, toInt64?_eq_some_iff.mpr ⟨?_, ?_⟩, hint, hlt⟩
    · rw [hvalue, hint, Int.cast_natCast]
    · rintro ⟨-, -, hfirst⟩
      rw [hvalue, Option.some_inj, ← Int.cast_natCast, Int.cast_inj] at hfirst
      omega
  · rintro ⟨i, hi, hid, hlt⟩
    have hvalue := (toInt64?_eq_some_iff.mp hi).1
    rw [hid, Int.cast_natCast] at hvalue
    exact ⟨hvalue, hlt⟩

end JsonNumber

namespace SubjectDocument

variable {enums : Enums} {ids after : Identities} {name : String} {n : JsonNumber}
  {value : FieldValue} {e : ValueError}

/-- A reference by an integer, zero for no object. -/
def reference (id : ℕ) : FieldValue := .object (if id = 0 then .null else .object id)

theorem fieldValue_of_isId {id : ℕ} (h : n.IsId id) (enums : Enums) (ids : Identities)
    (name : String) :
    fieldValue enums ids (.object name) (.number n) = .ok (reference id, ids) := by
  obtain ⟨i, hi, hid, hlt⟩ := JsonNumber.isId_iff.mp h
  have hbase : (Identities.base : ℤ) = 2 ^ 48 := rfl
  simp only [fieldValue, hi, reference]
  by_cases hzero : id = 0
  · rw [if_pos (by omega), if_pos hzero]
  · rw [if_neg (by omega), if_pos (by omega), if_neg hzero, hid, Int.toNat_natCast]

theorem fieldValue_of_not_isId (h : ¬∃ id, n.IsId id) (enums : Enums) (ids : Identities)
    (name : String) :
    fieldValue enums ids (.object name) (.number n) = .error (.idOutOfRange n) := by
  have hbase : (Identities.base : ℤ) = 2 ^ 48 := rfl
  cases hi : n.toInt64? with
  | none => simp only [fieldValue, hi]
  | some i =>
    have hnot : ¬(0 ≤ i.toInt ∧ i.toInt < 2 ^ 48) := by
      rintro ⟨hle, hlt⟩
      refine h ⟨i.toInt.toNat, JsonNumber.isId_iff.mpr ⟨i, hi, ?_, ?_⟩⟩
      · omega
      · omega
    simp only [fieldValue, hi]
    rw [if_neg (by omega), if_neg (by omega)]

theorem isId_unique {i j : ℕ} (hi : n.IsId i) (hj : n.IsId j) : i = j := by
  have hvalue := hi.1.symm.trans hj.1
  rwa [Option.some_inj, Nat.cast_inj] at hvalue

/-- A number is taken as a reference exactly if it is an id, and as the reference by that id. -/
theorem fieldValue_object_eq_ok_iff :
    fieldValue enums ids (.object name) (.number n) = .ok (value, after) ↔
      after = ids ∧ ∃ id, n.IsId id ∧ value = reference id := by
  by_cases h : ∃ id, n.IsId id
  · obtain ⟨id, hid⟩ := h
    rw [fieldValue_of_isId hid]
    constructor
    · intro heq
      cases heq
      exact ⟨rfl, id, hid, rfl⟩
    · rintro ⟨rfl, other, hother, rfl⟩
      rw [isId_unique hid hother]
  · rw [fieldValue_of_not_isId h]
    exact iff_of_false nofun fun ⟨_, id, hid, _⟩ => h ⟨id, hid⟩

theorem fieldValue_object_eq_error_iff :
    fieldValue enums ids (.object name) (.number n) = .error e ↔
      e = .idOutOfRange n ∧ ¬∃ id, n.IsId id := by
  by_cases h : ∃ id, n.IsId id
  · obtain ⟨id, hid⟩ := h
    rw [fieldValue_of_isId hid]
    exact iff_of_false nofun fun hnone => hnone.2 ⟨id, hid⟩
  · rw [fieldValue_of_not_isId h, and_iff_left h, Except.error.injEq, eq_comm]

/-- Numbers are taken as the integers that they are. One that is no integer, or does not fit into 64
bits with a sign, is not taken, and neither is the first of these integers as a double. Objects are
told by the integers from zero, which is for no object, up to the first id of a name. -/
theorem integers_taken_exactly (n : JsonNumber) :
    (∀ i, n.toInt64? = some i ↔ n.value? = some (i.toInt : ℚ) ∧ ¬n.IsFirstDouble) ∧
    (n.toInt64? = none ↔
      (¬∃ j : ℤ, n.value? = some (j : ℚ)) ∨ (∃ j : ℤ, n.value? = some (j : ℚ) ∧ ¬FitsInt64 j) ∨
        n.IsFirstDouble) ∧
    ∀ enums ids name,
      (∀ value after, fieldValue enums ids (.object name) (.number n) = .ok (value, after) ↔
        after = ids ∧ ∃ id, n.IsId id ∧ value = reference id) ∧
      ∀ e, fieldValue enums ids (.object name) (.number n) = .error e ↔
        e = .idOutOfRange n ∧ ¬∃ id, n.IsId id :=
  ⟨fun _ => JsonNumber.toInt64?_eq_some_iff, JsonNumber.toInt64?_eq_none_iff,
    fun _ _ _ => ⟨fun _ _ => fieldValue_object_eq_ok_iff, fun _ => fieldValue_object_eq_error_iff⟩⟩

end SubjectDocument
end FieldGuard
