import FieldGuard.Decimal.Binary64

/-! The fewest decimal digits that read back to a double, and of those the nearest to it. -/
namespace FieldGuard

/-- The value `digits * 10 ^ exponent`. -/
structure Decimal where
  digits : Nat
  exponent : Int
  deriving DecidableEq, Repr

/-- Which of two equally near decimals is taken. -/
inductive Tie where
  | up
  | even
  deriving DecidableEq, Repr

namespace Decimal

/-- Compares `a * 10 ^ i` with `n * 2 ^ j` exactly. -/
def compareScaled (a : Nat) (i : Int) (n : Nat) (j : Int) : Ordering :=
  compare ((a * Nat.pow 10 i.toNat) <<< (-j).toNat) (n <<< j.toNat * Nat.pow 10 (-i).toNat)

/-- Whether a decimal lies among the reals that round to `m * 2 ^ q`. The neighbour below a power of
two is half as far away, unless both are subnormal. -/
def readsBack (m : Nat) (q : Int) (d : Decimal) : Bool :=
  let low := if m == Binary64.hiddenBit && -1074 < q then 4 * m - 1 else 4 * m - 2
  let high := 4 * m + 2
  let closed := m % 2 == 0
  let atLow := compareScaled d.digits d.exponent low (q - 2)
  let atHigh := compareScaled d.digits d.exponent high (q - 2)
  (atLow == .gt || (closed && atLow == .eq)) && (atHigh == .lt || (closed && atHigh == .eq))

/-- The number of digits before the point of `m * 2 ^ q`, not positive below one tenth: an estimate
from the binary logarithm, put right by exact comparison. -/
def magnitude (m : Nat) (q : Int) : Int :=
  let estimate := ((m.log2 : Int) + q) * 30103 / 100000
  if compareScaled 1 (estimate + 1) m q != .gt then estimate + 2
  else if compareScaled 1 estimate m q != .gt then estimate + 1
  else estimate

/-- The whole number of steps `10 ^ g` in `m * 2 ^ q`. -/
def stepsBelow (m : Nat) (q g : Int) : Nat :=
  m <<< q.toNat * Nat.pow 10 (-g).toNat / Nat.pow 10 g.toNat <<< (-q).toNat

/-- The nearest decimal on the grid `10 ^ g` that reads back, if one does. -/
def onGrid? (tie : Tie) (m : Nat) (q g : Int) : Option Decimal :=
  let steps := stepsBelow m q g
  let below : Decimal := ⟨steps, g⟩
  let above : Decimal := ⟨steps + 1, g⟩
  match readsBack m q below, readsBack m q above with
  | false, false => none
  | true, false => some below
  | false, true => some above
  | true, true =>
    match compareScaled (2 * steps + 1) g m (q + 1) with
    | .gt => some below
    | .lt => some above
    | .eq => some (if tie == .even && steps % 2 == 0 then below else above)

/-- Moves trailing zeros of the digits into the exponent. -/
def strip (fuel : Nat) (d : Decimal) : Decimal :=
  match fuel with
  | 0 => d
  | fuel + 1 =>
    if d.digits != 0 && d.digits % 10 == 0 then strip fuel ⟨d.digits / 10, d.exponent + 1⟩ else d

/-- The exact decimal value of `m * 2 ^ q`. -/
def exact (m : Nat) (q : Int) : Decimal :=
  ⟨m <<< q.toNat * Nat.pow 5 (-q).toNat, min q 0⟩

/-- The shortest decimal of a positive value: the first grid, from one digit on, that has a decimal
reading back. -/
def shortest (tie : Tie) (m : Nat) (q : Int) : Decimal :=
  let k := magnitude m q
  let found := (List.range 17).findSome? fun (n : Nat) => onGrid? tie m q (k - (n + 1))
  strip 400 (found.getD (exact m q))

end Decimal
end FieldGuard
