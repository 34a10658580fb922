import FieldGuard.Json.Cursor
import FieldGuard.Decimal.Numeral

/-! Numbers and strings in JSON texts. Each is read off the front of a list of characters, with a
count of the characters it takes. -/
namespace FieldGuard

/-- A fault behind some characters and, from there, some bytes. -/
structure ScalarFault where
  fault : JsonFault
  taken : Nat
  bytes : Nat

def ScalarFault.at (f : ScalarFault) (c : Cursor) : JsonError :=
  (c.forward f.taken).faultBehind f.bytes f.fault

/-- The parts of a written number. -/
structure WrittenNumber where
  negative : Bool
  whole : List Char
  fraction : Option (List Char)
  /-- Whether the exponent is negative, and its digits. -/
  exponent : Option (Bool × List Char)

namespace WrittenNumber

/-- The exponent part at the front of a text, behind `taken` characters of the number. -/
def readExponent (taken : Nat) (cs : List Char) :
    Except ScalarFault (Option (Bool × List Char) × Nat) :=
  match cs with
  | mark :: rest =>
    if mark = 'e' ∨ mark = 'E' then
      let (negative, digits) := Numeral.splitSign rest
      let taken := taken + 1 + Numeral.signLength rest
      match digits with
      | [] => .error ⟨.eofInValue, taken, 0⟩
      | d :: _ =>
        if d.isDigit then
          let run := digits.takeWhile Char.isDigit
          .ok (some (negative, run), taken + run.length)
        else .error ⟨.invalidNumber, taken, 1⟩
    else .ok (none, taken)
  | [] => .ok (none, taken)

/-- The fraction part at the front of a text, behind `taken` characters of the number. -/
def readFraction (taken : Nat) (cs : List Char) :
    Except ScalarFault (Option (List Char) × Nat) :=
  match cs with
  | '.' :: rest =>
    let run := rest.takeWhile Char.isDigit
    if run = [] then
      .error ⟨if rest = [] then .eofInValue else .invalidNumber, taken + 1, 1⟩
    else .ok (some run, taken + 1 + run.length)
  | _ => .ok (none, taken)

/-- The digits before the point: a zero alone, or a run that starts with another digit. -/
def readWhole (taken : Nat) (cs : List Char) : Except ScalarFault (List Char × Nat) :=
  match cs with
  | [] => .error ⟨.eofInValue, taken, 0⟩
  | '0' :: d :: _ =>
    if d.isDigit then .error ⟨.invalidNumber, taken + 1, 1⟩ else .ok (['0'], taken + 1)
  | d :: rest =>
    if d.isDigit then
      let run := d :: rest.takeWhile Char.isDigit
      .ok (if d = '0' then ['0'] else run, taken + (if d = '0' then 1 else run.length))
    else .error ⟨.invalidNumber, taken, 1⟩

/-- The number at the front of a text, and how many characters it takes. -/
def read (cs : List Char) : Except ScalarFault (WrittenNumber × Nat) := do
  let negative := cs.head? = some '-'
  let taken := if negative then 1 else 0
  let (whole, taken) ← readWhole taken (cs.drop taken)
  let (fraction, taken) ← readFraction taken (cs.drop taken)
  let (exponent, taken) ← readExponent taken (cs.drop taken)
  return (⟨negative, whole, fraction, exponent⟩, taken)

/-- Takes digits into a natural below `2 ^ 64` up to the first that does not fit; with the count of
digits taken. -/
def absorb (significand : Nat) : List Char → Nat × Nat
  | [] => (significand, 0)
  | d :: rest =>
    let next := 10 * significand + (d.toNat - '0'.toNat)
    if next < UInt64.size then
      let (result, taken) := absorb next rest
      (result, taken + 1)
    else (significand, 0)

/-- A significand times a power of ten in doubles: one multiplication or division by a double power
of ten, after steps of `1e308` where the power is smaller than any double. -/
def scale (significand : Float) (exponent : Int) : Nat → Option Float
  | 0 => some significand
  | fuel + 1 =>
    if exponent < -308 then
      if significand == 0.0 then some significand
      else scale (significand / 1e308) (exponent + 308) fuel
    else if 308 < exponent then
      if significand == 0.0 then some significand else none
    else if exponent < 0 then some (significand / Binary64.ofDecimal false 1 (-exponent))
    else
      let x := significand * Binary64.ofDecimal false 1 exponent
      if x.isInf then none else some x

/-- How many digits follow the first one at which a number no longer fits 31 bits. -/
def digitsBeyond (n : Nat) : List Char → Nat
  | [] => 0
  | d :: rest =>
    let next := 10 * n + (d.toNat - '0'.toNat)
    if 1 <<< 31 ≤ next then rest.length else digitsBeyond next rest

/-- The value of a number. Without fraction and exponent it is an integer as long as 64 bits hold it
(`-0` is a double); otherwise the digits that fit 64 bits are scaled as doubles. A number that is
out of range comes with the count of digits that need not be read to see it. -/
def value (w : WrittenNumber) : Except Nat JsonNumber :=
  let signed (x : Float) : JsonNumber := .double (if w.negative then -x else x)
  let n := Numeral.digitsValue w.whole
  if w.fraction.isNone && w.exponent.isNone && n < UInt64.size then
    if !w.negative then .ok (.integer n)
    else if 0 < n ∧ n ≤ 1 <<< 63 then .ok (.integer (-n))
    else .ok (signed (Binary64.ofInt n))
  else
    let (significand, taken) := absorb 0 w.whole
    let dropped := w.whole.length - taken
    let (significand, places) := absorb significand (w.fraction.getD [])
    let exponent : Int := dropped - places
    let (negative, digits) := w.exponent.getD (false, [])
    let written := Numeral.digitsValue digits
    if 1 <<< 31 ≤ written then
      if significand ≠ 0 ∧ !negative then .error (digitsBeyond 0 digits) else .ok (signed 0.0)
    else
      let power := if negative then exponent - written else exponent + written
      match scale (Binary64.ofInt significand) power 4 with
      | some x => .ok (signed x)
      | none => .error 0

/-- The value of the number at the front of a text, and how many characters it takes. -/
def readValue (cs : List Char) : Except ScalarFault (JsonNumber × Nat) := do
  let (w, taken) ← read cs
  match w.value with
  | .ok n => return (n, taken)
  | .error unread => .error ⟨.numberOutOfRange, taken - unread, 0⟩

end WrittenNumber

namespace JsonString

def hexDigit? (c : Char) : Option Nat :=
  if c.isDigit then some (c.toNat - '0'.toNat)
  else if 'a' ≤ c ∧ c ≤ 'f' then some (c.toNat - 'a'.toNat + 10)
  else if 'A' ≤ c ∧ c ≤ 'F' then some (c.toNat - 'A'.toNat + 10)
  else none

/-- The value of four hexadecimal digits at the front of a text; a text of fewer than four bytes
ends too early. -/
def hexUnit (cs : List Char) : Except JsonFault Nat :=
  match cs.take 4 with
  | [a, b, c, d] =>
    match hexDigit? a, hexDigit? b, hexDigit? c, hexDigit? d with
    | some a, some b, some c, some d => .ok (((a * 16 + b) * 16 + c) * 16 + d)
    | _, _, _, _ => .error .invalidEscape
  | short =>
    if (String.ofList short).utf8ByteSize < 4 then .error .eofInString else .error .invalidEscape

/-- What a simple escape stands for. -/
def simpleEscape? : Char → Option Char
  | '"' => some '"'
  | '\\' => some '\\'
  | '/' => some '/'
  | 'b' => some '\x08'
  | 'f' => some '\x0c'
  | 'n' => some '\n'
  | 'r' => some '\r'
  | 't' => some '\t'
  | _ => none

/-- The character of a leading and a trailing surrogate. -/
def joinSurrogates (high low : Nat) : Char :=
  Char.ofNat ((high - 0xD800) * 0x400 + (low - 0xDC00) + 0x10000)

/-- The character of the `\u` escape whose digits stand at the front of a text, and how many
characters it takes. A leading surrogate needs a trailing one in an escape right behind it. -/
def unicodeEscape (cs : List Char) : Except ScalarFault (Char × Nat) := do
  let high ← (hexUnit cs).mapError fun f => ⟨f, 0, 4⟩
  if 0xDC00 ≤ high ∧ high ≤ 0xDFFF then .error ⟨.loneSurrogate, 4, 0⟩
  else if high < 0xD800 ∨ 0xDFFF < high then .ok (Char.ofNat high, 4)
  else
    match cs.drop 4 with
    | [] => .error ⟨.eofInString, 4, 0⟩
    | '\\' :: [] => .error ⟨.eofInString, 5, 0⟩
    | '\\' :: 'u' :: rest =>
      let low ← (hexUnit rest).mapError fun f => ⟨f, 6, 4⟩
      if 0xDC00 ≤ low ∧ low ≤ 0xDFFF then .ok (joinSurrogates high low, 10)
      else .error ⟨.loneSurrogate, 10, 0⟩
    | '\\' :: _ => .error ⟨.surrogateEnd, 5, 1⟩
    | _ => .error ⟨.surrogateEnd, 4, 1⟩

/-- Reads a string behind its opening quote, from `taken` characters on, in a text that is no longer
than `bound`. -/
def read (taken : Nat) (decoded bound cs : List Char) : Except ScalarFault (String × Nat) :=
  match bound with
  | [] => .error ⟨.eofInString, taken, 0⟩
  | _ :: bound =>
    match cs with
    | [] => .error ⟨.eofInString, taken, 0⟩
    | '"' :: _ => .ok (String.ofList decoded.reverse, taken + 1)
    | '\\' :: rest =>
      match rest with
      | [] => .error ⟨.eofInString, taken + 1, 0⟩
      | 'u' :: digits =>
        match unicodeEscape digits with
        | .ok (c, n) => read (taken + 2 + n) (c :: decoded) bound (digits.drop n)
        | .error f => .error { f with taken := taken + 2 + f.taken }
      | e :: rest =>
        match simpleEscape? e with
        | some c => read (taken + 2) (c :: decoded) bound rest
        | none => .error ⟨.invalidEscape, taken + 1, 1⟩
    | c :: rest =>
      if c.toNat < 0x20 then .error ⟨.controlCharacter, taken + 1, 0⟩
      else read (taken + 1) (c :: decoded) bound rest

/-- The length of a string behind its opening quote whose value does not matter: escapes are
checked, surrogates are not paired. The text is no longer than `bound`. -/
def skip (taken : Nat) (bound cs : List Char) : Except ScalarFault Nat :=
  match bound with
  | [] => .error ⟨.eofInString, taken, 0⟩
  | _ :: bound =>
    match cs with
    | [] => .error ⟨.eofInString, taken, 0⟩
    | '"' :: _ => .ok (taken + 1)
    | '\\' :: rest =>
      match rest with
      | [] => .error ⟨.eofInString, taken + 1, 0⟩
      | 'u' :: digits =>
        match hexUnit digits with
        | .ok _ => skip (taken + 6) bound (digits.drop 4)
        | .error f => .error ⟨f, taken + 2, 4⟩
      | e :: rest =>
        match simpleEscape? e with
        | some _ => skip (taken + 2) bound rest
        | none => .error ⟨.invalidEscape, taken + 1, 1⟩
    | c :: rest =>
      if c.toNat < 0x20 then .error ⟨.controlCharacter, taken, 0⟩
      else skip (taken + 1) bound rest

end JsonString
end FieldGuard
