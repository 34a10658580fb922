import Mathlib
import FieldGuard.Condition.Operation

/-! The distance of two binary64 numbers. Exchanging the sides of a difference changes its sign
only, in the exact result, in rounding and in storing; so nearness has no direction. -/
namespace FieldGuard
namespace Binary64

open Float.Model Float.Model.UnpackedFloat

theorem sign_beq_neg_comm (s t : Sign) : (s == -t) = (t == -s) := by
  cases s <;> cases t <;> rfl

/-- Rounding goes by the mantissa alone. -/
theorem abs_round (spec : Format) (s t : Sign) (m : Nat) (e : Int) :
    (UnpackedFloat.round spec s m e).abs = (UnpackedFloat.round spec t m e).abs := by
  simp only [UnpackedFloat.round, roundWithAccuracy]
  split
  · rfl
  · rfl

/-- A rounded integer and its opposite are of one size. -/
theorem abs_normalize_neg (spec : Format) (m e : Int) (zeroSign : Sign) :
    (UnpackedFloat.normalize spec (-m) e zeroSign).abs =
      (UnpackedFloat.normalize spec m e zeroSign).abs := by
  unfold UnpackedFloat.normalize
  obtain hm | rfl | hm := Int.lt_trichotomy m 0
  · rw [Int.compare_eq_lt.mpr hm, Int.compare_eq_gt.mpr (show 0 < -m by omega)]
    exact abs_round ..
  · rfl
  · rw [Int.compare_eq_gt.mpr hm, Int.compare_eq_lt.mpr (show -m < 0 by omega), Int.neg_neg]
    exact abs_round ..

/-- Before it is stored, a difference is of one size in both directions. -/
theorem abs_unpacked_sub_comm (spec : Format) (x y : UnpackedFloat) :
    (UnpackedFloat.sub spec x y).abs = (UnpackedFloat.sub spec y x).abs := by
  cases x with
  | notANumber => cases y <;> rfl
  | infinity s =>
    cases y with
    | infinity t =>
      simp only [UnpackedFloat.sub, sign_beq_neg_comm t s]
      split
      · rfl
      · rfl
    | notANumber | zero | finite => rfl
  | zero s =>
    cases y with
    | zero t =>
      simp only [UnpackedFloat.sub, sign_beq_neg_comm t s]
      split
      · rfl
      · rfl
    | notANumber | infinity | finite => rfl
  | finite s m e hm =>
    cases y with
    | finite t n f hn =>
      simp only [UnpackedFloat.sub]
      rw [Int.min_comm f e, ← abs_normalize_neg, Int.neg_sub]
    | notANumber | infinity | zero => rfl

/-- A stored sign is no part of the size. -/
theorem abs_unpack_packComponents (spec : Format) (s t : Sign) (e : BitVec spec.exponentBits)
    (m : BitVec spec.mantissaBitsWithoutImplicit) :
    (UnpackedFloat.unpack spec (packComponents spec s e m)).abs =
      (UnpackedFloat.unpack spec (packComponents spec t e m)).abs := by
  simp only [UnpackedFloat.unpack, unpackExponent_packComponents, unpackMantissa_packComponents]
  by_cases hspecial : e = -BitVec.ofNat spec.exponentBits 1
  · simp only [if_pos hspecial]
    split
    · rfl
    · rfl
  · simp only [if_neg hspecial]
    by_cases hsubnormal : e = BitVec.ofNat spec.exponentBits 0
    · simp only [if_pos hsubnormal]
      split
      · rfl
      · rfl
    · simp only [if_neg hsubnormal]
      rfl

/-- What is stored of a number is of the size of what is stored of its size. -/
theorem abs_unpack_pack_abs (spec : Format) (x : UnpackedFloat) :
    (UnpackedFloat.unpack spec (UnpackedFloat.pack spec x)).abs =
      (UnpackedFloat.unpack spec (UnpackedFloat.pack spec x.abs)).abs := by
  cases x with
  | notANumber => rfl
  | infinity s | zero s => exact abs_unpack_packComponents ..
  | finite s m e hm =>
    have habs : (finite s m e hm).abs = finite .positive m e hm := rfl
    simp only [habs, UnpackedFloat.pack]
    split
    · exact abs_unpack_packComponents ..
    · split
      · exact abs_unpack_packComponents ..
      · exact abs_unpack_packComponents ..

theorem abs_sub_comm (a b : Float) : (a - b).abs = (b - a).abs := by
  have hsize := abs_unpacked_sub_comm .binary64 a.toModel.unpack b.toModel.unpack
  have hstored : (a - b).toModel.unpack.abs = (b - a).toModel.unpack.abs := by
    change (UnpackedFloat.unpack _ (UnpackedFloat.pack _ _)).abs =
      (UnpackedFloat.unpack _ (UnpackedFloat.pack _ _)).abs
    rw [abs_unpack_pack_abs, hsize, ← abs_unpack_pack_abs]
  exact congrArg (fun x => Float.ofModel (Float.Model.pack x)) hstored

theorem beq_comm (a b : Float) : (a == b) = (b == a) := by
  have hturn (x y : Float) (h : (x == y) = true) : (y == x) = true := by
    obtain ⟨hx, hy, rfl | ⟨hx', hy'⟩ | ⟨hx', hy'⟩⟩ := Float.beq_iff_ne_nan_and_eq.mp h
    · exact h
    · exact Float.beq_iff_ne_nan_and_eq.mpr ⟨hy, hx, .inr (.inr ⟨hy', hx'⟩)⟩
    · exact Float.beq_iff_ne_nan_and_eq.mpr ⟨hy, hx, .inr (.inl ⟨hy', hx'⟩)⟩
  exact Bool.eq_iff_iff.mpr ⟨hturn a b, hturn b a⟩

end Binary64

/-- Nearness has no direction. -/
theorem nearlyEqual_comm (ε a b : Float) : nearlyEqual ε a b = nearlyEqual ε b a := by
  rw [nearlyEqual, nearlyEqual, Binary64.beq_comm, Binary64.abs_sub_comm]

end FieldGuard
