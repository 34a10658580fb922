import FieldGuard.Json.Scalar
import FieldGuard.Text.Letter

/-! JSON5 texts: JSON with comments, trailing commas, bare keys, single quotes and freer numbers. A
text is read as a whole before it is asked what it holds, so scalars without a value stay in the
tree. -/
namespace FieldGuard

/-- A JSON5 value. A number is absent if it fits no integer or double, a string or key if it has
lone surrogates. -/
inductive Relaxed where
  | null
  | bool (value : Bool)
  | number (value : Option JsonNumber)
  | string (value : Option String)
  | array (items : List Relaxed)
  | object (members : List (Option String × Relaxed))

namespace Relaxed

def isLineEnd (c : Char) : Bool :=
  c == '\n' || c == '\r' || c == '\u2028' || c == '\u2029'

/-- Blanks between tokens: the blanks of ASCII, the byte order mark and the Unicode space
separators. -/
def isSpace (c : Char) : Bool :=
  isLineEnd c || c == '\t' || c == '\x0b' || c == '\x0c' || c == ' ' || c == '\u00a0' ||
    c == '\ufeff' || c == '\u1680' || ('\u2000' ≤ c && c ≤ '\u200a') || c == '\u202f' ||
    c == '\u205f' || c == '\u3000'

/-- What follows a block comment behind its opening, if it is closed. -/
def closeComment? : List Char → Option (List Char)
  | '*' :: '/' :: rest => some rest
  | _ :: rest => closeComment? rest
  | [] => none

/-- Passes over the blanks and comments at the front of a text that is no longer than `bound`. -/
def skip (bound cs : List Char) : List Char :=
  match bound with
  | [] => cs
  | _ :: bound =>
    match cs.dropWhile isSpace with
    | '/' :: '/' :: rest => skip bound (rest.dropWhile fun c => !isLineEnd c)
    | '/' :: '*' :: rest =>
      match closeComment? rest with
      | some rest => skip bound rest
      | none => '/' :: '*' :: rest
    | rest => rest

/-- The text behind the blanks and comments at its front. -/
def skipBlanks (cs : List Char) : List Char := skip cs cs

/-- Moves over a word at the front of a text. -/
def word? (word : List Char) (cs : List Char) : Option (List Char) :=
  if word.isPrefixOf cs then some (cs.drop word.length) else none

/-- A piece of a string: characters, or a 16-bit unit that may be half of a character. -/
inductive Piece where
  | char (c : Char)
  | unit (n : Nat)

/-- The character of a leading and a trailing surrogate: the low ten bits of each, with bit 16 set.
Pairs that differ only in the bit that falls there are joined to one character. -/
def joinSurrogates (high low : Nat) : Char :=
  Char.ofNat (((high % 0x400) * 0x400 + low % 0x400) ||| 0x10000)

/-- Joins the pieces of a string; a surrogate must have its partner next to it. -/
def join? : List Piece → Option (List Char)
  | [] => some []
  | .char c :: rest => (join? rest).map (c :: ·)
  | .unit high :: .unit low :: rest =>
    if high < 0xD800 ∨ 0xDFFF < high then (join? (.unit low :: rest)).map (Char.ofNat high :: ·)
    else if high < 0xDC00 ∧ 0xDC00 ≤ low ∧ low ≤ 0xDFFF then
      (join? rest).map (joinSurrogates high low :: ·)
    else none
  | .unit n :: rest =>
    if n < 0xD800 ∨ 0xDFFF < n then (join? rest).map (Char.ofNat n :: ·) else none

/-- The value of hexadecimal digits. -/
def hexValue? (digits : List Char) : Option Nat :=
  digits.foldlM (fun n c => (JsonString.hexDigit? c).map (16 * n + ·)) 0

/-- A fixed number of hexadecimal digits at the front of a text. -/
def hexDigits? (count : Nat) (cs : List Char) : Option (Nat × List Char) :=
  if (cs.take count).length = count then
    (hexValue? (cs.take count)).map fun n => (n, cs.drop count)
  else none

/-- What stands behind a backslash in a string, with the text behind it. A line end is continued. -/
def escape? : List Char → Option (List Piece × List Char)
  | [] => none
  | '\r' :: '\n' :: rest => some ([], rest)
  | c :: rest =>
    if isLineEnd c then some ([], rest)
    else if c = 'x' then (hexDigits? 2 rest).map fun (n, rest) => ([.char (Char.ofNat n)], rest)
    else if c = 'u' then (hexDigits? 4 rest).map fun (n, rest) => ([.unit n], rest)
    else if c = '0' then some ([.char '\x00'], rest)
    else if c.isDigit then none
    else if c = 'b' then some ([.char '\x08'], rest)
    else if c = 'f' then some ([.char '\x0c'], rest)
    else if c = 'n' then some ([.char '\n'], rest)
    else if c = 'r' then some ([.char '\r'], rest)
    else if c = 't' then some ([.char '\t'], rest)
    else if c = 'v' then some ([.char '\x0b'], rest)
    else some ([.char c], rest)

/-- The pieces of a string behind its opening quote, in a text that is no longer than `bound`. -/
def pieces? (quote : Char) (bound cs : List Char) : Option (List Piece × List Char) :=
  match bound, cs with
  | [], _ | _, [] => none
  | _ :: bound, c :: rest =>
    if c = quote then some ([], rest)
    else if c = '\\' then do
      let (piece, rest) ← escape? rest
      let (pieces, rest) ← pieces? quote bound rest
      return (piece ++ pieces, rest)
    else if isLineEnd c then none
    else do
      let (pieces, rest) ← pieces? quote bound rest
      return (.char c :: pieces, rest)

/-- A string in either kind of quotes. -/
def string? : List Char → Option (Option String × List Char)
  | c :: rest =>
    if c = '"' ∨ c = '\'' then
      (pieces? c rest rest).map fun (pieces, rest) =>
        ((join? pieces).map String.ofList, rest)
    else none
  | [] => none

/-- The pieces of an identifier, from its first character or from a later one on, in a text that is
no longer than `bound`. -/
def identifierPieces (first : Bool) (bound cs : List Char) : List Piece × List Char :=
  match bound with
  | [] => ([], cs)
  | _ :: bound =>
    match cs with
    | '\\' :: 'u' :: digits =>
      match hexDigits? 4 digits with
      | some (n, rest) =>
        let (pieces, rest) := identifierPieces false bound rest
        (.unit n :: pieces, rest)
      | none => ([], cs)
    | c :: rest =>
      if (if first then startsIdentifier c else continuesIdentifier c) then
        let (pieces, rest) := identifierPieces false bound rest
        (.char c :: pieces, rest)
      else ([], cs)
    | [] => ([], [])

/-- The key of a member: an identifier or a string. -/
def key? (cs : List Char) : Option (Option String × List Char) :=
  match identifierPieces true cs cs with
  | ([], _) => string? cs
  | (pieces, rest) => some ((join? pieces).map String.ofList, rest)

/-- The length of the decimal literal at the front of a text, zero if there is none. A leading zero
stands alone, and digits behind the point may be left out if there are digits before it. -/
def decimalLength (cs : List Char) : Nat :=
  let whole :=
    match cs with
    | '0' :: _ => 1
    | _ => (cs.takeWhile Char.isDigit).length
  let fraction :=
    match cs.drop whole with
    | '.' :: rest =>
      let digits := (rest.takeWhile Char.isDigit).length
      if whole = 0 ∧ digits = 0 then 0 else 1 + digits
    | _ => 0
  match whole + fraction with
  | 0 => 0
  | n => n + Numeral.exponentLength (cs.drop n)

/-- The value of a decimal literal: without point and exponent an integer of 64 bits, otherwise a
finite double. -/
def decimalValue? (negative : Bool) (literal : List Char) : Option JsonNumber :=
  if literal.all Char.isDigit then
    let n : Int := Numeral.digitsValue literal
    let i := if negative then -n else n
    if Int64.minValue.toInt ≤ i ∧ i ≤ Int64.maxValue.toInt then some (.integer i) else none
  else
    match Numeral.unsigned negative literal with
    | some x => if x.isFinite then some (.double x) else none
    | none => none

def isHex (c : Char) : Bool := (JsonString.hexDigit? c).isSome

/-- A number with its sign. Hexadecimal digits take no sign and fit 32 bits, and the words for
infinity and for no number take no plus. -/
def number? (cs : List Char) : Option (Option JsonNumber × List Char) :=
  let signed := cs.head? = some '-' ∨ cs.head? = some '+'
  let plus := cs.head? = some '+'
  let negative := cs.head? = some '-'
  let body := if signed then cs.drop 1 else cs
  let hex :=
    match body with
    | '0' :: x :: rest => if x = 'x' ∨ x = 'X' then rest.takeWhile isHex else []
    | _ => []
  if hex ≠ [] then
    let value := (hexValue? hex).bind fun n =>
      if n < UInt32.size ∧ !signed then some (.integer n) else none
    some (value, body.drop (2 + hex.length))
  else
    match decimalLength body with
    | 0 =>
      match word? "Infinity".toList body with
      | some rest =>
        let x : Float := 1.0 / 0.0
        some (if plus then none else some (.double (if negative then -x else x)), rest)
      | none =>
        (word? "NaN".toList body).map fun rest =>
          (if plus then none else some (.double (0.0 / 0.0)), rest)
    | n => some (decimalValue? negative (body.take n), body.drop n)

mutual

/-- A value at the front of a text, with the text behind it. -/
def value? : Nat → List Char → Option (Relaxed × List Char)
  | 0, _ => none
  | fuel + 1, cs =>
    match word? "null".toList cs with
    | some rest => some (.null, rest)
    | none =>
      match word? "true".toList cs with
      | some rest => some (.bool true, rest)
      | none =>
        match word? "false".toList cs with
        | some rest => some (.bool false, rest)
        | none =>
          match string? cs with
          | some (s, rest) => some (.string s, rest)
          | none =>
            match number? cs with
            | some (n, rest) => some (.number n, rest)
            | none =>
              match cs with
              | '[' :: rest =>
                (items? fuel (skipBlanks rest)).map fun (xs, rest) => (.array xs, rest)
              | '\x7b' :: rest =>
                (members? fuel (skipBlanks rest)).map fun (ms, rest) => (.object ms, rest)
              | _ => none

/-- Items up to the closing bracket. -/
def items? : Nat → List Char → Option (List Relaxed × List Char)
  | 0, _ => none
  | fuel + 1, cs =>
    match cs with
    | ']' :: rest => some ([], rest)
    | _ => do
      let (v, rest) ← value? fuel cs
      match skipBlanks rest with
      | ',' :: rest => do
        let (vs, rest) ← items? fuel (skipBlanks rest)
        return (v :: vs, rest)
      | ']' :: rest => return ([v], rest)
      | _ => none

/-- Members up to the closing brace. -/
def members? : Nat → List Char → Option (List (Option String × Relaxed) × List Char)
  | 0, _ => none
  | fuel + 1, cs =>
    match cs with
    | '\x7d' :: rest => some ([], rest)
    | _ => do
      let (k, rest) ← key? cs
      match skipBlanks rest with
      | ':' :: rest => do
        let (v, rest) ← value? fuel (skipBlanks rest)
        match skipBlanks rest with
        | ',' :: rest => do
          let (ms, rest) ← members? fuel (skipBlanks rest)
          return ((k, v) :: ms, rest)
        | '\x7d' :: rest => return ([(k, v)], rest)
        | _ => none
      | _ => none

end

/-- Reads a whole text. -/
def parse? (text : String) : Option Relaxed :=
  let cs := skipBlanks text.toList
  match value? (2 * cs.length + 2) cs with
  | some (v, rest) => if (skipBlanks rest).isEmpty then some v else none
  | none => none

mutual

/-- Whether every number, string and key in a value has a value. -/
def isReadable : Relaxed → Bool
  | .null | .bool _ => true
  | .number n => n.isSome
  | .string s => s.isSome
  | .array items => areReadable items
  | .object members => areReadableMembers members

def areReadable : List Relaxed → Bool
  | [] => true
  | v :: rest => isReadable v && areReadable rest

def areReadableMembers : List (Option String × Relaxed) → Bool
  | [] => true
  | (k, v) :: rest => k.isSome && isReadable v && areReadableMembers rest

end

mutual

/-- The JSON value of a value; JSON has no infinities, so they become null. -/
def toJson? : Relaxed → Option Json
  | .null => some .null
  | .bool b => some (.bool b)
  | .number none => none
  | .number (some (.double x)) => some (if x.isFinite then .number (.double x) else .null)
  | .number (some n) => some (.number n)
  | .string s => s.map .string
  | .array items => (toJsonItems? items).map .array
  | .object members => (toJsonMembers? members .empty).map fun d => .object d.entries

def toJsonItems? : List Relaxed → Option (List Json)
  | [] => some []
  | v :: rest => do return (← toJson? v) :: (← toJsonItems? rest)

def toJsonMembers? : List (Option String × Relaxed) → Dictionary Json → Option (Dictionary Json)
  | [], read => some read
  | (k, v) :: rest, read => do toJsonMembers? rest (read.insert (← k) (← toJson? v))

end

example : joinSurrogates 0xD83D 0xDE00 = '😀' := by decide
example : joinSurrogates 0xD840 0xDC00 = joinSurrogates 0xD800 0xDC00 := by decide

variable {α : Type}

def toString? : Relaxed → Option String
  | .string s => s
  | _ => none

/-- A number that JSON can write. -/
def toNumber? : Relaxed → Option JsonNumber
  | .number (some (.double x)) => if x.isFinite then some (.double x) else none
  | .number n => n
  | _ => none

/-- An object whose members are of one kind; of members with one key the last is kept. -/
def toDictionary? (f : Relaxed → Option α) : Relaxed → Option (Dictionary α)
  | .object members =>
    members.foldlM (fun read (k, v) => do return read.insert (← k) (← f v)) .empty
  | _ => none

def toList? (f : Relaxed → Option α) : Relaxed → Option (List α)
  | .array items => items.mapM f
  | _ => none

end Relaxed
end FieldGuard
