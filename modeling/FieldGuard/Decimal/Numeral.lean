import FieldGuard.Decimal.Binary64

/-! Numerals: how doubles are read from decimal text. -/
namespace FieldGuard

/-- Why a text is no number. -/
inductive NumeralError where
  | empty
  | malformed
  deriving DecidableEq, Repr

def NumeralError.message : NumeralError → String
  | .empty => "cannot parse float from empty string"
  | .malformed => "invalid float literal"

namespace Numeral

/-- The value of a digit string, most significant digit first. -/
def digitsValue (cs : List Char) : Nat :=
  cs.foldl (fun n c => 10 * n + (c.toNat - '0'.toNat)) 0

/-- Splits off a sign; an absent sign is positive. -/
def splitSign : List Char → Bool × List Char
  | '-' :: cs => (true, cs)
  | '+' :: cs => (false, cs)
  | cs => (false, cs)

/-- How many characters the sign takes. -/
def signLength : List Char → Nat
  | '-' :: _ => 1
  | '+' :: _ => 1
  | _ => 0

/-- The exponent part: nothing, or a mark, a sign and digits to the end. -/
def exponentPart : List Char → Option Int
  | [] => some 0
  | c :: cs =>
    if c = 'e' ∨ c = 'E' then
      let (negative, digits) := splitSign cs
      if digits = [] ∨ !digits.all Char.isDigit then none
      else
        let value : Int := digitsValue digits
        some (if negative then -value else value)
    else none

/-- Digits with an optional point among or around them, then an optional exponent. -/
def unsigned (negative : Bool) (cs : List Char) : Option Float :=
  let whole := cs.takeWhile Char.isDigit
  let (fraction, rest) :=
    match cs.dropWhile Char.isDigit with
    | '.' :: r => (r.takeWhile Char.isDigit, r.dropWhile Char.isDigit)
    | r => ([], r)
  if whole = [] ∧ fraction = [] then none
  else
    (exponentPart rest).map fun e =>
      Binary64.ofDecimal negative (digitsValue (whole ++ fraction)) (e - fraction.length)

/-- The words for the values that are no numbers on the line, in any ASCII case. -/
def word (negative : Bool) (cs : List Char) : Option Float :=
  let lower := cs.map Char.toLower
  if lower = "inf".toList ∨ lower = "infinity".toList then
    some (Binary64.ofMagnitudeBits negative Binary64.infinityBits)
  else if lower = "nan".toList then some (0.0 / 0.0)
  else none

/-- The double that a whole text stands for. -/
def parse? (cs : List Char) : Option Float :=
  let (negative, body) := splitSign cs
  unsigned negative body <|> word negative body

/-- Reads a whole text as a double. -/
def read (text : String) : Except NumeralError Float :=
  if text.isEmpty then .error .empty
  else
    match parse? text.toList with
    | some x => .ok x
    | none => .error .malformed

/-- Length of the exponent part at the front, zero when no digit follows the mark. -/
def exponentLength : List Char → Nat
  | c :: cs =>
    if c = 'e' ∨ c = 'E' then
      let (sign, digits) :=
        match cs with
        | d :: r => if d = '-' ∨ d = '+' then (1, r) else (0, cs)
        | [] => (0, [])
      match (digits.takeWhile Char.isDigit).length with
      | 0 => 0
      | n => 1 + sign + n
    else 0
  | [] => 0

/-- Length of the fraction part at the front, zero when no digit follows the point. -/
def fractionLength : List Char → Nat
  | '.' :: cs =>
    match (cs.takeWhile Char.isDigit).length with
    | 0 => 0
    | n => 1 + n
  | _ => 0

/-- Length of the longest numeral without a sign at the front of a text, zero when there is none. -/
def unsignedLength (cs : List Char) : Nat :=
  let whole := (cs.takeWhile Char.isDigit).length
  let fraction := fractionLength (cs.drop whole)
  match whole + fraction with
  | 0 => 0
  | n => n + exponentLength (cs.drop n)

/-- Length of the longest numeral with a sign at the front of a text, zero when there is none. -/
def signedLength : List Char → Nat
  | c :: cs =>
    if c = '-' ∨ c = '+' then
      match unsignedLength cs with
      | 0 => 0
      | n => 1 + n
    else 0
  | [] => 0

/-- Length of the longest numeral at the front of a text, with a sign or without one. -/
def frontLength (signed : Bool) (cs : List Char) : Nat :=
  if signed then signedLength cs else unsignedLength cs

end Numeral

example : Numeral.unsignedLength "1.5e+x".toList = 3 := by decide
example : Numeral.signedLength "-.5e2y".toList = 5 := by decide

end FieldGuard
