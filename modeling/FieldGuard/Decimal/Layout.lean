import FieldGuard.Decimal.Shortest

/-! How the digits of a double are written: with a point alone or with an exponent. -/
namespace FieldGuard

/-- The decisions of one written form of doubles. -/
structure Layout where
  /-- Which of two equally near decimals is written. -/
  tie : Tie
  /-- The exponents of the leading digit that are written with a point alone; all of them if absent.
  -/
  positional : Option (Int × Int)
  /-- An integral value keeps `.0`. -/
  pointZero : Bool
  /-- A positive exponent carries a `+`. -/
  plus : Bool

namespace Layout

/-- Numbers in messages and in compiled expressions: never an exponent. -/
def plain : Layout where
  tie := .up
  positional := none
  pointZero := false
  plus := false

/-- Numbers in JSON text: positional from `0.00001` up to sixteen digits before the point. -/
def json : Layout where
  tie := .even
  positional := some (-5, 15)
  pointZero := true
  plus := true

/-- Numbers in diagnostic summaries: positional from `0.0001` up to sixteen digits before the point.
-/
def diagnostic : Layout where
  tie := .up
  positional := some (-4, 15)
  pointZero := true
  plus := false

def zeros (n : Nat) : String :=
  String.ofList (List.replicate n '0')

/-- Digits with a point where the exponent puts it. -/
def writePositional (pointZero : Bool) (digits : String) (exponent : Int) : String :=
  let lead := digits.length + exponent
  if 0 ≤ exponent then digits ++ zeros exponent.toNat ++ (if pointZero then ".0" else "")
  else if 0 < lead then
    let whole := digits.toList.take lead.toNat
    String.ofList whole ++ "." ++ String.ofList (digits.toList.drop lead.toNat)
  else "0." ++ zeros (-lead).toNat ++ digits

/-- One digit, the others behind a point, and the exponent of the first. -/
def writeScientific (plus : Bool) (digits : String) (exponent : Int) : String :=
  let lead := digits.length - 1 + exponent
  let rest := String.ofList (digits.toList.drop 1)
  String.ofList (digits.toList.take 1) ++ (if rest.isEmpty then "" else "." ++ rest) ++ "e" ++
    (if lead < 0 then "-" else if plus then "+" else "") ++ toString lead.natAbs

def writeDecimal (l : Layout) (d : Decimal) : String :=
  let digits := toString d.digits
  let lead := digits.length - 1 + d.exponent
  match l.positional with
  | none => writePositional l.pointZero digits d.exponent
  | some (least, greatest) =>
    if least ≤ lead ∧ lead ≤ greatest then writePositional l.pointZero digits d.exponent
    else writeScientific l.plus digits d.exponent

/-- The text of a double. -/
def write (l : Layout) (x : Float) : String :=
  match Binary64.decode x with
  | .nan => "NaN"
  | .infinity negative => if negative then "-inf" else "inf"
  | .finite ⟨negative, m, q⟩ =>
    (if negative then "-" else "") ++
      (if m = 0 then (if l.pointZero then "0.0" else "0")
       else l.writeDecimal (Decimal.shortest l.tie m q))

end Layout

example : Layout.plain.write 1e21 = "1000000000000000000000" := by decide +kernel
example : Layout.json.write 1e-8 = "1e-8" ∧ Layout.json.write 1e29 = "1e+29" := by decide +kernel
example : Layout.json.write 0.1 = "0.1" ∧ Layout.diagnostic.write 0.0 = "0.0" := by decide +kernel
example : Layout.plain.write 2.98023223876953125e-8 = "0.000000029802322387695313" := by
  decide +kernel

end FieldGuard
