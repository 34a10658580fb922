import FieldGuard.Proofs.Decimal.Distance
import FieldGuard.Proofs.Decimal.Unpacked
import FieldGuard.Proofs.Decimal.Whole

/-! The end of the signed 64-bit integers among the doubles. The last of these integers is no
double; rounded it is `2 ^ 63`, which no double within the range reaches in size. An integer beyond
the range is not rounded back into it. -/
namespace FieldGuard
namespace Binary64

open Float.Model Float.Model.UnpackedFloat

variable {x : Float} {d : Dyadic}

/-- The last of the signed 64-bit integers is rounded to `2 ^ 63`. -/
theorem unpack_limit :
    (ofInt Int64.maxValue.toInt).toModel.unpack = .finite .positive (2 ^ 52) 11 (by decide) := rfl

/-- A finite double has 53 bits in its mantissa, or the least exponent. -/
theorem fields_of_decode (h : decode x = .finite d) :
    d.mantissa < 2 ^ 53 ∧
      (d.exponent = -1074 ∧ x.toBits.toNat >>> 52 % 2048 = 0 ∨
        d.exponent = (x.toBits.toNat >>> 52 % 2048 : ℕ) - 1075 ∧ 2 ^ 52 ≤ d.mantissa) := by
  have hfraction : x.toBits.toNat % hiddenBit < 2 ^ 52 := Nat.mod_lt _ (by decide)
  have hleading : hiddenBit = 2 ^ 52 := rfl
  unfold decode at h
  dsimp only at h
  split at h
  · split at h <;> cases h
  · split at h
    · next hzero =>
      cases h
      exact ⟨Nat.lt_trans hfraction (by decide), .inl ⟨rfl, hzero⟩⟩
    · cases h
      dsimp only
      exact ⟨by omega, .inr ⟨rfl, by omega⟩⟩

theorem mantissa_of_decode (h : decode x = .finite d) :
    d.mantissa < 2 ^ 53 ∧ (d.exponent = -1074 ∨ 2 ^ 52 ≤ d.mantissa) := by
  obtain ⟨hupper, ⟨hleast, -⟩ | ⟨-, hlower⟩⟩ := fields_of_decode h
  · exact ⟨hupper, .inl hleast⟩
  · exact ⟨hupper, .inr hlower⟩

/-- What is stored with a positive sign is read with one. -/
theorem abs_unpack_packComponents_positive (spec : Format) (e : BitVec spec.exponentBits)
    (m : BitVec spec.mantissaBitsWithoutImplicit) :
    (UnpackedFloat.unpack spec (packComponents spec .positive e m)).abs =
      UnpackedFloat.unpack spec (packComponents spec .positive e m) := by
  simp only [UnpackedFloat.unpack, unpackExponent_packComponents, unpackMantissa_packComponents,
    unpackSign_packComponents]
  split
  · split
    · rfl
    · rfl
  · split
    · split
      · rfl
      · rfl
    · rfl

theorem abs_unpack_pack_positive (spec : Format) (u : UnpackedFloat) :
    (UnpackedFloat.unpack spec (UnpackedFloat.pack spec u.abs)).abs =
      UnpackedFloat.unpack spec (UnpackedFloat.pack spec u.abs) := by
  cases u with
  | notANumber | infinity s | zero s => exact abs_unpack_packComponents_positive ..
  | finite s m e hm =>
    have habs : (finite s m e hm).abs = finite .positive m e hm := rfl
    simp only [habs, UnpackedFloat.pack]
    split
    · exact abs_unpack_packComponents_positive ..
    · split
      · exact abs_unpack_packComponents_positive ..
      · exact abs_unpack_packComponents_positive ..

theorem unpack_abs (x : Float) : x.abs.toModel.unpack = x.toModel.unpack.abs := by
  change UnpackedFloat.unpack .binary64 (UnpackedFloat.pack .binary64 x.toModel.unpack.abs) = _
  rw [← abs_unpack_pack_positive, ← abs_unpack_pack_abs]
  exact congrArg (fun b => (UnpackedFloat.unpack .binary64 b).abs)
    (pack_unpack_of_valid x.toModel.valid)

theorem wholeSize_lt_iff (h : decode x = .finite d) : d.wholeSize < 2 ^ 63 ↔ d.exponent < 11 := by
  obtain ⟨hupper, hlower⟩ := mantissa_of_decode h
  rw [d.wholeSize_eq]
  constructor
  · intro hsize
    refine Int.not_le.mp fun hle => ?_
    have hnone : (-d.exponent).toNat = 0 := by omega
    have hmantissa : 2 ^ 52 ≤ d.mantissa := by omega
    have hpow : 2 ^ 11 ≤ 2 ^ d.exponent.toNat := Nat.pow_le_pow_right (by decide) (by omega)
    have hproduct := Nat.mul_le_mul hmantissa hpow
    rw [hnone, pow_zero, Nat.div_one] at hsize
    omega
  · intro hlt
    have hpow : 2 ^ d.exponent.toNat ≤ 2 ^ 10 := Nat.pow_le_pow_right (by decide) (by omega)
    have hproduct := Nat.mul_le_mul (Nat.le_of_lt_succ hupper) hpow
    exact Nat.lt_of_le_of_lt ((Nat.div_le_self _ _).trans hproduct) (by decide)

theorem lt_iff (x y : Float) : x < y ↔ x.toModel.unpack.lt y.toModel.unpack = true :=
  decide_eq_true_iff

/-- A double is below the limit in size exactly if its whole part is. -/
theorem abs_lt_limit_iff (h : decode x = .finite d) :
    x.abs < ofInt Int64.maxValue.toInt ↔ d.wholeSize < 2 ^ 63 := by
  obtain ⟨hupper, hlower⟩ := mantissa_of_decode h
  rw [wholeSize_lt_iff h, lt_iff, unpack_abs, unpack_eq, h, unpack_limit, unpacked]
  split
  · next hzero =>
    have hlt : d.exponent < 11 := by omega
    exact iff_of_true rfl hlt
  · next hne =>
    change (some ((compare d.exponent 11).then (compare d.mantissa (2 ^ 52))) == some .lt) = true ↔ _
    rw [beq_iff_eq, Option.some_inj, Ordering.then_eq_lt, compare_lt_iff_lt, compare_lt_iff_lt]
    have hnormal : d.exponent = 11 → ¬d.mantissa < 2 ^ 52 := by omega
    refine ⟨?_, .inl⟩
    rintro (hlt | ⟨heq, hlt⟩)
    · exact hlt
    · exact absurd hlt (hnormal (compare_eq_iff_eq.mp heq))

section Rounding

variable {negative : Bool} {bits num k : ℕ} {i : ℤ}

/-- The word of a double is the one it was made of. -/
theorem toBits_ofMagnitudeBits (negative : Bool) (h : bits ≤ infinityBits) :
    (ofMagnitudeBits negative bits).toBits.toNat = bits + if negative then 1 <<< 63 else 0 := by
  have hbits : bits ≤ 2047 * 2 ^ 52 := h
  have hsign : (if negative then 1 <<< 63 else 0) = 0 ∨
      (if negative then 1 <<< 63 else 0) = 2 ^ 63 := by
    cases negative
    · exact .inl rfl
    · exact .inr rfl
  unfold ofMagnitudeBits
  generalize (if negative then 1 <<< 63 else 0) = sign at *
  generalize hw : UInt64.ofNat (bits + sign) = w
  have hnat : w.toBitVec.toNat = bits + sign := by
    rw [← hw]
    exact Nat.mod_eq_of_lt (by omega)
  -- Only words with an exponent like infinity, and a mantissa, are exchanged for another.
  have hnumber : ¬@isNaNBits .binary64 w.toBitVec = true := by
    intro hnan
    obtain ⟨he, hm⟩ := of_decide_eq_true hnan
    have hexponent : 2047 = (bits + sign) >>> 52 % 2048 := by
      rw [← hnat, ← toNat_unpackExponent, he]
      rfl
    have hmantissa : (bits + sign) % 2 ^ 52 = 0 := by
      rw [Nat.shiftRight_eq_div_pow] at hexponent
      omega
    refine hm (BitVec.eq_of_toNat_eq ?_)
    rw [toNat_unpackMantissa, hnat]
    exact hmantissa
  have hstored : (Float.ofBits w).toBits.toBitVec = w.toBitVec :=
    (@pack_unpack .binary64 w.toBitVec (by decide)).trans (if_neg hnumber)
  rw [← hnat, ← hstored]
  rfl

theorem exponent_of_ofMagnitudeBits (h : bits ≤ infinityBits) (hlarge : 1086 <<< 52 ≤ bits)
    (hd : decode (ofMagnitudeBits negative bits) = .finite d) : 11 ≤ d.exponent := by
  have hword := toBits_ofMagnitudeBits negative h
  have hupper : bits ≤ 2047 * 2 ^ 52 := h
  have hlower : 1086 * 2 ^ 52 ≤ bits := hlarge
  have hbiased : 1086 ≤ (ofMagnitudeBits negative bits).toBits.toNat >>> 52 % 2048 := by
    rw [hword, Nat.shiftRight_eq_div_pow]
    split
    · omega
    · omega
  obtain ⟨-, ⟨-, hzero⟩ | ⟨hexponent, -⟩⟩ := fields_of_decode hd
  · omega
  · omega

/-- The mantissa of an integer of more than 53 bits is the front of it. -/
theorem exponentFor_one (hne : num ≠ 0) (hlog : num.log2 = k + 52) : exponentFor num 1 = k := by
  have hquotient : (num.log2 : ℤ) - (1 : ℕ).log2 - 52 = k := by
    have hone : Nat.log2 1 = 0 := by decide
    rw [hone]
    omega
  have hfront : ¬num <<< (-(k : ℤ)).toNat < 1 <<< (k : ℤ).toNat * hiddenBit := by
    have hnone : (-(k : ℤ)).toNat = 0 := by omega
    have hle : 2 ^ (k + 52) ≤ num := hlog ▸ Nat.log2_self_le hne
    rw [hnone, Nat.shiftLeft_zero, Int.toNat_natCast, Nat.one_shiftLeft]
    exact Nat.not_lt.mpr ((Nat.pow_add 2 k 52).symm.trans_le hle)
  unfold exponentFor
  dsimp only
  rw [hquotient, if_neg hfront]
  exact max_eq_left (by omega)

theorem div_le_roundDivEven (num den : ℕ) : num / den ≤ roundDivEven num den := by
  unfold roundDivEven
  dsimp only
  split
  · exact Nat.le_succ _
  · exact Nat.le_refl _

theorem hiddenBit_le_scaledQuotient (hne : num ≠ 0) (hlog : num.log2 = k + 52) :
    hiddenBit ≤ scaledQuotient num 1 k := by
  have hnone : (-(k : ℤ)).toNat = 0 := by omega
  have hle : 2 ^ (k + 52) ≤ num := hlog ▸ Nat.log2_self_le hne
  have hfloor : 2 ^ 52 ≤ num / 2 ^ k := by
    rw [Nat.le_div_iff_mul_le (Nat.two_pow_pos k), ← Nat.pow_add, Nat.add_comm]
    exact hle
  unfold scaledQuotient
  rw [hnone, Nat.shiftLeft_zero, Int.toNat_natCast, Nat.one_shiftLeft]
  exact hfloor.trans (div_le_roundDivEven _ _)

/-- An integer from the limit on is rounded to a double from the limit on, or to none. -/
theorem exponent_of_ofInt (h : 2 ^ 63 ≤ i.natAbs) (hd : decode (ofInt i) = .finite d) :
    11 ≤ d.exponent := by
  have hne : i.natAbs ≠ 0 := by omega
  have hlog : 63 ≤ i.natAbs.log2 := (Nat.le_log2 hne).mpr h
  obtain ⟨k, hk⟩ : ∃ k, i.natAbs.log2 = k + 52 := ⟨i.natAbs.log2 - 52, by omega⟩
  have hmantissa := hiddenBit_le_scaledQuotient hne hk
  unfold ofInt ofRatio at hd
  dsimp only at hd
  rw [if_neg hne, exponentFor_one hne hk, if_neg (Nat.not_lt.mpr hmantissa)] at hd
  refine exponent_of_ofMagnitudeBits (Nat.min_le_right _ _) (Nat.le_min.mpr ⟨?_, by decide⟩) hd
  have hexponent : 1085 ≤ ((k : ℤ) + 1074).toNat := by omega
  calc 1086 <<< 52 = 1085 * hiddenBit + hiddenBit := rfl
    _ ≤ _ := Nat.add_le_add (Nat.mul_le_mul_right _ hexponent) hmantissa

end Rounding

end Binary64
end FieldGuard
