import Mathlib
import FieldGuard.Decimal.Binary64

/-! Doubles as rational numbers. A finite double is its mantissa times a power of two; it is whole
exactly if the power of two below the point divides the mantissa, and then it is its size without
what is behind the point, with its sign. -/
namespace FieldGuard

namespace Dyadic

variable {d : Dyadic} {i : ℤ}

/-- A size with the sign of a value. -/
def signed (d : Dyadic) (n : ℕ) : ℤ := if d.negative then -(n : ℤ) else n

/-- The number that a value is. -/
def toRat (d : Dyadic) : ℚ := d.signed d.mantissa * 2 ^ d.exponent

/-- Nothing is behind the point. -/
def IsWhole (d : Dyadic) : Prop := 2 ^ (-d.exponent).toNat ∣ d.mantissa

instance (d : Dyadic) : Decidable d.IsWhole :=
  inferInstanceAs (Decidable (2 ^ (-d.exponent).toNat ∣ d.mantissa))

@[simp] theorem natAbs_signed (d : Dyadic) (n : ℕ) : (d.signed n).natAbs = n := by
  unfold signed
  split <;> omega

theorem signed_mul (d : Dyadic) (m n : ℕ) : d.signed (m * n) = d.signed m * n := by
  unfold signed
  split <;> push_cast <;> ring

theorem wholeSize_eq (d : Dyadic) :
    d.wholeSize = d.mantissa * 2 ^ d.exponent.toNat / 2 ^ (-d.exponent).toNat := by
  rw [wholeSize, Nat.shiftLeft_eq, Nat.shiftRight_eq_div_pow]

/-- In units of the last place below the point a value is a whole number. -/
theorem toRat_mul_two_pow (d : Dyadic) :
    d.toRat * 2 ^ (-d.exponent).toNat = d.signed (d.mantissa * 2 ^ d.exponent.toNat) := by
  have hsum : d.exponent + (-d.exponent).toNat = d.exponent.toNat := by omega
  have hpow : (2 : ℚ) ^ d.exponent * 2 ^ (-d.exponent).toNat = 2 ^ d.exponent.toNat := by
    rw [← zpow_natCast, ← zpow_add₀ two_ne_zero, hsum, zpow_natCast]
  rw [toRat, mul_assoc, hpow, signed_mul]
  push_cast
  rfl

theorem toRat_of_isWhole (h : d.IsWhole) : d.toRat = d.signed d.wholeSize := by
  have hsize : d.wholeSize * 2 ^ (-d.exponent).toNat = d.mantissa * 2 ^ d.exponent.toNat := by
    rw [wholeSize_eq]
    exact Nat.div_mul_cancel (Dvd.dvd.mul_right h _)
  have hunits := d.toRat_mul_two_pow
  rw [← hsize, signed_mul] at hunits
  push_cast at hunits
  exact mul_right_cancel₀ (pow_ne_zero _ two_ne_zero) hunits

theorem isWhole_of_toRat (h : d.toRat = i) : d.IsWhole := by
  have hunits := d.toRat_mul_two_pow
  rw [h] at hunits
  have hint : i * 2 ^ (-d.exponent).toNat = d.signed (d.mantissa * 2 ^ d.exponent.toNat) := by
    exact_mod_cast hunits
  have hnat : i.natAbs * 2 ^ (-d.exponent).toNat = d.mantissa * 2 ^ d.exponent.toNat := by
    have habs := congrArg Int.natAbs hint
    rwa [natAbs_signed, Int.natAbs_mul, Int.natAbs_pow] at habs
  unfold IsWhole
  -- The exponent is negative, or no place is below the point.
  obtain hq | hq : (-d.exponent).toNat = 0 ∨ d.exponent.toNat = 0 := by omega
  · rw [hq]
    exact one_dvd _
  · rw [hq, pow_zero, mul_one] at hnat
    exact Dvd.intro_left _ hnat

theorem toRat_eq_iff : d.toRat = i ↔ d.IsWhole ∧ i = d.signed d.wholeSize := by
  constructor
  · intro h
    have hwhole := isWhole_of_toRat h
    rw [toRat_of_isWhole hwhole] at h
    exact ⟨hwhole, by exact_mod_cast h.symm⟩
  · rintro ⟨hwhole, rfl⟩
    exact toRat_of_isWhole hwhole

end Dyadic

namespace Binary64

variable {x : Float} {d : Dyadic} {i : ℤ}

/-- The number that a double is, if it is finite. -/
def value? (x : Float) : Option ℚ :=
  match decode x with
  | .finite d => some d.toRat
  | _ => none

theorem exactInt?_of_decode (h : decode x = .finite d) :
    exactInt? x = if d.IsWhole then some (d.signed d.wholeSize) else none := by
  have hsize : exactInt? x = Option.map d.signed
      (if 0 ≤ d.exponent then some (d.mantissa <<< d.exponent.toNat)
      else if d.mantissa % 1 <<< (-d.exponent).toNat = 0 then
        some (d.mantissa >>> (-d.exponent).toNat)
      else none) := by
    unfold exactInt?
    rw [h]
    rfl
  rw [hsize]
  by_cases hq : 0 ≤ d.exponent
  · have hnone : (-d.exponent).toNat = 0 := by omega
    have hwhole : d.IsWhole := by
      rw [Dyadic.IsWhole, hnone, pow_zero]
      exact one_dvd _
    rw [if_pos hq, if_pos hwhole, Dyadic.wholeSize, hnone]
    rfl
  · have hnone : d.exponent.toNat = 0 := by omega
    have hdvd : d.mantissa % 1 <<< (-d.exponent).toNat = 0 ↔ d.IsWhole := by
      rw [Dyadic.IsWhole, Nat.one_shiftLeft, Nat.dvd_iff_mod_eq_zero]
    by_cases hwhole : d.IsWhole
    · rw [if_neg hq, if_pos (hdvd.mpr hwhole), if_pos hwhole, Dyadic.wholeSize, hnone]
      rfl
    · rw [if_neg hq, if_neg (mt hdvd.mp hwhole), if_neg hwhole]
      rfl

theorem exists_decode_of_exactInt? (h : exactInt? x = some i) :
    ∃ d, decode x = .finite d ∧ d.signed d.wholeSize = i := by
  cases hd : decode x with
  | finite d =>
    rw [exactInt?_of_decode hd] at h
    split at h
    · exact ⟨d, rfl, Option.some.inj h⟩
    · cases h
  | nan | infinity => simp [exactInt?, hd] at h

/-- A double equals an integer exactly if it is that number. -/
theorem exactInt?_eq_some_iff : exactInt? x = some i ↔ value? x = some (i : ℚ) := by
  unfold value?
  cases hd : decode x with
  | finite d =>
    rw [exactInt?_of_decode hd, Option.some_inj, Dyadic.toRat_eq_iff]
    split
    · next h => rw [Option.some_inj, and_iff_right h, eq_comm]
    · next h => exact iff_of_false nofun fun hi => h hi.1
  | nan | infinity => simp [exactInt?, hd]

end Binary64
end FieldGuard
