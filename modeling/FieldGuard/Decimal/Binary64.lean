/-! Doubles as exact values: a finite double is a sign, a mantissa and a power of two, and a ratio
of naturals is rounded to the nearest double. -/
namespace FieldGuard

/-- The value `mantissa * 2 ^ exponent`, with a sign that zero keeps too. -/
structure Dyadic where
  negative : Bool
  mantissa : Nat
  exponent : Int
  deriving DecidableEq, Repr

/-- The size of a value without what is behind its point. -/
def Dyadic.wholeSize (d : Dyadic) : Nat :=
  d.mantissa <<< d.exponent.toNat >>> (-d.exponent).toNat

/-- What a double stands for. -/
inductive Magnitude where
  | nan
  | infinity (negative : Bool)
  | finite (value : Dyadic)
  deriving DecidableEq, Repr

namespace Binary64

/-- The leading bit of a normal mantissa, which the word leaves out. -/
def hiddenBit : Nat := 1 <<< 52

/-- The three fields of the word: sign, biased exponent, fraction. -/
def decode (x : Float) : Magnitude :=
  let word : Nat := x.toBits.toNat
  let negative := word >>> 63 == 1
  let biased : Nat := word >>> 52 % 2048
  let fraction : Nat := word % hiddenBit
  if biased = 2047 then
    if fraction = 0 then .infinity negative else .nan
  else if biased = 0 then .finite ⟨negative, fraction, -1074⟩
  else .finite ⟨negative, hiddenBit + fraction, (biased : Int) - 1075⟩

/-- The integer a double equals exactly, if it equals one. -/
def exactInt? (x : Float) : Option Int :=
  match decode x with
  | .finite ⟨negative, m, q⟩ =>
    let whole : Option Nat :=
      if 0 ≤ q then some (m <<< q.toNat)
      else if m % 1 <<< (-q).toNat = 0 then some (m >>> (-q).toNat)
      else none
    whole.map fun (n : Nat) => if negative then -(n : Int) else n
  | _ => none

/-- The signed 64-bit integer that a double is cut to: what is behind its point is left out, and
beyond the ends of the range it is the end. -/
def cutToInt64 (x : Float) : Int64 :=
  match decode x with
  | .nan => 0
  | .infinity negative => if negative then Int64.minValue else Int64.maxValue
  | .finite d =>
    Int64.ofIntClamp (if d.negative then -(d.wholeSize : Int) else d.wholeSize)

/-- A double with the given sign and the bits of its magnitude. -/
def ofMagnitudeBits (negative : Bool) (bits : Nat) : Float :=
  Float.ofBits (UInt64.ofNat (bits + if negative then 1 <<< 63 else 0))

def infinityBits : Nat := 2047 <<< 52

/-- Nearest natural to a quotient; a half goes to the even neighbour. -/
def roundDivEven (num den : Nat) : Nat :=
  let floor := num / den
  let rest := num % den
  if den < 2 * rest || (2 * rest == den && floor % 2 == 1) then floor + 1 else floor

/-- The quotient `num / (den * 2 ^ q)` rounded to a natural. -/
def scaledQuotient (num den : Nat) (q : Int) : Nat :=
  roundDivEven (num <<< (-q).toNat) (den <<< q.toNat)

/-- The exponent at which `num / den` has a mantissa of 53 bits, or the least one a double has. -/
def exponentFor (num den : Nat) : Int :=
  let q : Int := (num.log2 : Int) - den.log2 - 52
  let q := if num <<< (-q).toNat < den <<< q.toNat * hiddenBit then q - 1 else q
  max q (-1074)

/-- The double nearest to `num / den`, ties to the even mantissa; a mantissa that rounds up to the
next power of two carries into the exponent by itself. -/
def ofRatio (negative : Bool) (num den : Nat) : Float :=
  if num = 0 then ofMagnitudeBits negative 0
  else
    let q := exponentFor num den
    let m := scaledQuotient num den q
    let bits := if m < hiddenBit then m else (q + 1074).toNat * hiddenBit + m
    ofMagnitudeBits negative (min bits infinityBits)

/-- The double nearest to an integer. -/
def ofInt (i : Int) : Float :=
  ofRatio (i < 0) i.natAbs 1

/-- The double nearest to `digits * 10 ^ exponent`; the two early cases lie far outside the range of
doubles and keep the powers of ten small. -/
def ofDecimal (negative : Bool) (digits : Nat) (exponent : Int) : Float :=
  if digits = 0 then ofMagnitudeBits negative 0
  else if 400 < exponent then ofMagnitudeBits negative infinityBits
  else if exponent < -400 - (digits.log2 : Int) then ofMagnitudeBits negative 0
  else ofRatio negative (digits * Nat.pow 10 exponent.toNat) (Nat.pow 10 (-exponent).toNat)

end Binary64

example : Binary64.decode 0.5 = .finite ⟨false, Binary64.hiddenBit, -53⟩ := by decide +kernel
example : (Binary64.ofDecimal false 1 (-1)).toBits = (0.1 : Float).toBits := by decide +kernel
example : Binary64.exactInt? 3.0 = some 3 ∧ Binary64.exactInt? 1.5 = none := by decide +kernel
example : Binary64.cutToInt64 (-1.5) = -1 ∧ Binary64.cutToInt64 1e19 = Int64.maxValue := by
  decide +kernel

end FieldGuard
