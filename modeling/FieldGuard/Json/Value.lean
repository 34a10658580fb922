import FieldGuard.Dictionary
import FieldGuard.Decimal.Layout

/-! JSON values and their text. -/
namespace FieldGuard

/-- A number is an integer of at most 64 bits, signed or unsigned, or a double. -/
inductive JsonNumber where
  | integer (value : Int)
  | double (value : Float)
  deriving DecidableEq, Repr

namespace JsonNumber

def text : JsonNumber → String
  | .integer i => toString i
  | .double x => Layout.json.write x

def toFloat : JsonNumber → Float
  | .integer i => Binary64.ofInt i
  | .double x => x

/-- A number that is stored as an integer and fits into 64 bits with a sign. -/
def stored? : JsonNumber → Option Int64
  | .integer i =>
    if Int64.minValue.toInt ≤ i ∧ i ≤ Int64.maxValue.toInt then some (Int64.ofInt i) else none
  | .double _ => none

/-- The signed 64-bit integer that a number is. A number that is not stored so is taken as a double,
which must be whole and smaller in size than the last such integer is as a double. -/
def toInt64? (n : JsonNumber) : Option Int64 :=
  match n.stored? with
  | some i => some i
  | none =>
    let x := n.toFloat
    if (Binary64.exactInt? x).isSome ∧ x.abs < Binary64.ofInt Int64.maxValue.toInt then
      some (Binary64.cutToInt64 x)
    else none

end JsonNumber

example : (JsonNumber.integer (1 <<< 63)).toInt64? = none := by decide +kernel

/-- A JSON value; the members of an object are in the order in which they are written. -/
inductive Json where
  | null
  | bool (value : Bool)
  | number (value : JsonNumber)
  | string (value : String)
  | array (items : List Json)
  | object (members : List (String × Json))
  deriving Repr

namespace Json

def hexDigit (n : Nat) : Char :=
  if n < 10 then Char.ofNat ('0'.toNat + n) else Char.ofNat ('a'.toNat + (n - 10))

/-- A character inside a string: quotes, backslashes and control characters are escaped. -/
def escapeChar (c : Char) : List Char :=
  if c = '"' then ['\\', '"']
  else if c = '\\' then ['\\', '\\']
  else if c = '\x08' then ['\\', 'b']
  else if c = '\x0c' then ['\\', 'f']
  else if c = '\n' then ['\\', 'n']
  else if c = '\r' then ['\\', 'r']
  else if c = '\t' then ['\\', 't']
  else if c.toNat < 0x20 then
    ['\\', 'u', '0', '0', hexDigit (c.toNat / 16), hexDigit (c.toNat % 16)]
  else [c]

def quote (s : String) : String :=
  "\"" ++ String.ofList (s.toList.flatMap escapeChar) ++ "\""

mutual

/-- The text of a value on one line without blanks. -/
def compact : Json → String
  | .null => "null"
  | .bool b => if b then "true" else "false"
  | .number n => n.text
  | .string s => quote s
  | .array items => "[" ++ ",".intercalate (compactItems items) ++ "]"
  | .object members => "\x7b" ++ ",".intercalate (compactMembers members) ++ "\x7d"

def compactItems : List Json → List String
  | [] => []
  | v :: rest => compact v :: compactItems rest

def compactMembers : List (String × Json) → List String
  | [] => []
  | (k, v) :: rest => (quote k ++ ":" ++ compact v) :: compactMembers rest

end

/-- A line break and two blanks for each level. -/
def newline (level : Nat) : String :=
  "\n" ++ String.ofList (List.replicate (2 * level) ' ')

mutual

/-- The text of a value with a line for each item and member; empty brackets stay closed. -/
def pretty (level : Nat) : Json → String
  | .array [] => "[]"
  | .object [] => "\x7b\x7d"
  | .array items =>
    "[" ++ ",".intercalate (prettyItems (level + 1) items) ++ newline level ++ "]"
  | .object members =>
    "\x7b" ++ ",".intercalate (prettyMembers (level + 1) members) ++ newline level ++ "\x7d"
  | v => compact v

def prettyItems (level : Nat) : List Json → List String
  | [] => []
  | v :: rest => (newline level ++ pretty level v) :: prettyItems level rest

def prettyMembers (level : Nat) : List (String × Json) → List String
  | [] => []
  | (k, v) :: rest =>
    (newline level ++ quote k ++ ": " ++ pretty level v) :: prettyMembers level rest

end

end Json
end FieldGuard
