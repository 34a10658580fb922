import FieldGuard.Decimal.Binary64

/-! The two readings of a word of 64 bits: what a double is decoded to here is what the built-in
operations on doubles take it apart to. -/
namespace FieldGuard
namespace Binary64

open Float.Model Float.Model.UnpackedFloat

/-- A sign as the built-in operations have it. -/
def signOf (negative : Bool) : Sign := if negative then .negative else .positive

/-- What a double stands for, as the built-in operations have it. Zeros are set apart there. -/
def unpacked : Magnitude → UnpackedFloat
  | .nan => .notANumber
  | .infinity negative => .infinity (signOf negative)
  | .finite d =>
    if h : d.mantissa = 0 then .zero (signOf d.negative)
    else .finite (signOf d.negative) d.mantissa d.exponent (Nat.pos_of_ne_zero h)

section Fields

variable (b : BitVec Format.binary64.numBits)

theorem toNat_unpackExponent : (unpackExponent b).toNat = b.toNat >>> 52 % 2048 :=
  BitVec.extractLsb_toNat 62 52 b

theorem toNat_unpackMantissa : (unpackMantissa b).toNat = b.toNat % hiddenBit :=
  BitVec.extractLsb_toNat 51 0 b

theorem ofBitVec_unpackSign : Sign.ofBitVec (unpackSign b) = signOf (b.toNat >>> 63 == 1) := by
  have hlt : b.toNat < 2 ^ 64 := b.isLt
  have hsign : (unpackSign b).toNat = b.toNat >>> 63 % 2 := BitVec.extractLsb_toNat 63 63 b
  have hzero : unpackSign b = 0#1 ↔ ¬b.toNat >>> 63 = 1 := by
    rw [← BitVec.toNat_inj, hsign, Nat.shiftRight_eq_div_pow]
    change _ % 2 = 0 ↔ _
    omega
  unfold Sign.ofBitVec signOf
  by_cases h : b.toNat >>> 63 = 1
  · rw [if_neg (fun hvec => hzero.mp hvec h), if_pos (beq_iff_eq.mpr h)]
  · rw [if_pos (hzero.mpr h), if_neg (mt beq_iff_eq.mp h)]

end Fields

theorem finite_congr {s : Sign} {m n : Nat} {e : Int} {hm : 0 < m} {hn : 0 < n} (h : m = n) :
    UnpackedFloat.finite s m e hm = .finite s n e hn := by
  subst h
  rfl

theorem decode_eq {x : Float} {b : BitVec Format.binary64.numBits} (h : x.toBits.toBitVec = b) :
    decode x =
      if (unpackExponent b).toNat = 2047 then
        if (unpackMantissa b).toNat = 0 then .infinity (b.toNat >>> 63 == 1) else .nan
      else if (unpackExponent b).toNat = 0 then
        .finite ⟨b.toNat >>> 63 == 1, (unpackMantissa b).toNat, -1074⟩
      else
        .finite ⟨b.toNat >>> 63 == 1, hiddenBit + (unpackMantissa b).toNat,
          ((unpackExponent b).toNat : Int) - 1075⟩ := by
  rw [toNat_unpackExponent, toNat_unpackMantissa, ← h]
  rfl

/-- Both readings see the same in a word. -/
theorem unpack_eq (x : Float) : x.toModel.unpack = unpacked (decode x) := by
  obtain ⟨b, hb⟩ : ∃ b : BitVec Format.binary64.numBits, x.toBits.toBitVec = b := ⟨_, rfl⟩
  have hunpack : x.toModel.unpack = UnpackedFloat.unpack .binary64 b :=
    congrArg (UnpackedFloat.unpack .binary64) hb
  rw [hunpack, decode_eq hb]
  delta UnpackedFloat.unpack
  dsimp only
  rw [ofBitVec_unpackSign]
  have hlast : unpackExponent b = -1#11 ↔ (unpackExponent b).toNat = 2047 :=
    BitVec.toNat_inj.symm
  have hfirst : unpackExponent b = 0#11 ↔ (unpackExponent b).toNat = 0 :=
    BitVec.toNat_inj.symm
  have hzero : unpackMantissa b = 0#52 ↔ (unpackMantissa b).toNat = 0 :=
    BitVec.toNat_inj.symm
  by_cases hspecial : (unpackExponent b).toNat = 2047
  · rw [if_pos (hlast.mpr hspecial), if_pos hspecial]
    by_cases hmantissa : (unpackMantissa b).toNat = 0
    · rw [if_pos (hzero.mpr hmantissa), if_pos hmantissa]
      rfl
    · rw [if_neg (mt hzero.mp hmantissa), if_neg hmantissa]
      rfl
  · rw [if_neg (mt hlast.mp hspecial), if_neg hspecial]
    by_cases hsubnormal : (unpackExponent b).toNat = 0
    · rw [if_pos (hfirst.mpr hsubnormal), if_pos hsubnormal]
      by_cases hmantissa : (unpackMantissa b).toNat = 0
      · rw [dif_pos (hzero.mpr hmantissa), unpacked, dif_pos hmantissa]
      · rw [dif_neg (mt hzero.mp hmantissa), unpacked, dif_neg hmantissa, hsubnormal]
        rfl
    · rw [if_neg (mt hfirst.mp hsubnormal), if_neg hsubnormal]
      have hleading : (1#1 ++ unpackMantissa b).toNat = hiddenBit + (unpackMantissa b).toNat := by
        change 2 ^ 52 ||| (unpackMantissa b).toNat = _
        rw [Nat.or_comm, Nat.or_two_pow_eq_add_of_lt (unpackMantissa b).isLt, Nat.add_comm]
        rfl
      have hpos : hiddenBit + (unpackMantissa b).toNat ≠ 0 :=
        Nat.ne_of_gt (Nat.add_pos_left (by decide) _)
      rw [unpacked, dif_neg hpos]
      exact finite_congr hleading

end Binary64
end FieldGuard
