import FieldGuard.Json.Value

/-! Places in a JSON text and the problems found there. A text is read once from left to right, so
the first problem in reading order is the one that is reported. -/
namespace FieldGuard

/-- What is wrong with a JSON text, or with the shape of what it holds. -/
inductive JsonFault where
  | eofInArray
  | eofInObject
  | eofInString
  | eofInValue
  | expectedColon
  | expectedArrayEnd
  | expectedObjectEnd
  | expectedWord
  | expectedValue
  | invalidEscape
  | invalidNumber
  | numberOutOfRange
  | controlCharacter
  | keyNotString
  | loneSurrogate
  | surrogateEnd
  | trailingComma
  | trailingCharacters
  | tooDeep
  | wrongType (found : String) (expected : String)
  | wrongLength (length : Nat) (expected : String)
  | missingField (name : String)
  | duplicateField (name : String)
  deriving DecidableEq, Repr

/-- The three kinds of faults: the text ends early, is no JSON, or holds something else than asked
for. -/
inductive JsonCategory where
  | early
  | illFormed
  | data
  deriving DecidableEq, Repr

namespace JsonFault

def category : JsonFault → JsonCategory
  | .eofInArray | .eofInObject | .eofInString | .eofInValue => .early
  | .wrongType .. | .wrongLength .. | .missingField _ | .duplicateField _ => .data
  | _ => .illFormed

def message : JsonFault → String
  | .eofInArray => "EOF while parsing a list"
  | .eofInObject => "EOF while parsing an object"
  | .eofInString => "EOF while parsing a string"
  | .eofInValue => "EOF while parsing a value"
  | .expectedColon => "expected " ++ tick ":"
  | .expectedArrayEnd => "expected " ++ tick "," ++ " or " ++ tick "]"
  | .expectedObjectEnd => "expected " ++ tick "," ++ " or " ++ tick "\x7d"
  | .expectedWord => "expected ident"
  | .expectedValue => "expected value"
  | .invalidEscape => "invalid escape"
  | .invalidNumber => "invalid number"
  | .numberOutOfRange => "number out of range"
  | .controlCharacter => "control character (\\u0000-\\u001F) found while parsing a string"
  | .keyNotString => "key must be a string"
  | .loneSurrogate => "lone leading surrogate in hex escape"
  | .surrogateEnd => "unexpected end of hex escape"
  | .trailingComma => "trailing comma"
  | .trailingCharacters => "trailing characters"
  | .tooDeep => "recursion limit exceeded"
  | .wrongType found expected => "invalid type: " ++ found ++ ", expected " ++ expected
  | .wrongLength length expected =>
    "invalid length " ++ toString length ++ ", expected " ++ expected
  | .missingField name => "missing field " ++ tick name
  | .duplicateField name => "duplicate field " ++ tick name
where
  /-- Text between grave accents. -/
  tick (s : String) : String := "`" ++ s ++ "`"

end JsonFault

/-- A fault with its line, and its column in bytes. -/
structure JsonError where
  fault : JsonFault
  line : Nat
  column : Nat
  deriving DecidableEq, Repr

def JsonError.message (e : JsonError) : String :=
  e.fault.message ++ " at line " ++ toString e.line ++ " column " ++ toString e.column

/-- What is left of a text, the place reached, and how many more containers may be opened. -/
structure Cursor where
  rest : List Char
  line : Nat
  column : Nat
  depth : Nat

namespace Cursor

def start (text : String) : Cursor where
  rest := text.toList
  line := 1
  column := 0
  depth := 128

/-- The cursor behind the next `n` characters. -/
def forward (n : Nat) (c : Cursor) : Cursor :=
  match n, c.rest with
  | 0, _ | _, [] => c
  | n + 1, x :: rest =>
    forward n
      { c with
        rest
        line := if x = '\n' then c.line + 1 else c.line
        column := if x = '\n' then 0 else c.column + x.utf8Size }

/-- Whether a character may stand between the parts of a text. -/
def isSpace (c : Char) : Bool :=
  c == ' ' || c == '\n' || c == '\t' || c == '\r'

/-- The cursor behind the next blanks. -/
def skipSpace (c : Cursor) : Cursor :=
  c.forward (c.rest.takeWhile isSpace).length

/-- A fault at the last character read. -/
def fault (c : Cursor) (f : JsonFault) : JsonError :=
  ⟨f, c.line, c.column⟩

/-- The line and column some bytes further in a text, be it inside a character, and at most at the
end. -/
def placeBehind (bytes line column : Nat) : List Char → Nat × Nat
  | [] => (line, column)
  | x :: rest =>
    if x.utf8Size ≤ bytes then
      if x = '\n' then placeBehind (bytes - x.utf8Size) (line + 1) 0 rest
      else placeBehind (bytes - x.utf8Size) line (column + x.utf8Size) rest
    else (line, column + bytes)

/-- A fault some bytes further. -/
def faultBehind (bytes : Nat) (c : Cursor) (f : JsonFault) : JsonError :=
  let (line, column) := placeBehind bytes c.line c.column c.rest
  ⟨f, line, column⟩

/-- A fault at the next byte. -/
def faultAhead (c : Cursor) (f : JsonFault) : JsonError :=
  c.faultBehind 1 f

end Cursor
end FieldGuard
