import FieldGuard.Condition.Token
import FieldGuard.Text.Classes

/-! Names of properties and enum members: where a bare name ends, how a quoted name is written, and
how `Type::Member` is told from a property. -/
namespace FieldGuard
namespace Name

/-- Characters at which a bare name or a keyword ends. -/
def isBreak (c : Char) : Bool :=
  isBlank c || c ∈ ['|', '=', '&', '>', '<', '!', '+', '-', '*', '/', '(', ')']

def isQuote (c : Char) : Bool :=
  c == '"' || c == '\''

/-- How many characters stand before the closing quote; a backslash takes the character after it. -/
def quotedLength? (quote : Char) (escaped : Bool) : List Char → Option Nat
  | [] => none
  | c :: cs =>
    if escaped then (quotedLength? quote false cs).map (· + 1)
    else if c = quote then some 0
    else (quotedLength? quote (c == '\\') cs).map (· + 1)

/-- The character an escape stands for, if it stands for one. -/
def escaped? : Char → Option Char
  | 'n' => some '\n'
  | 'r' => some '\r'
  | 't' => some '\t'
  | '\\' => some '\\'
  | '"' => some '"'
  | '\'' => some '\''
  | _ => none

/-- Resolves escapes; a backslash before any other character stays. -/
def unescape : List Char → List Char
  | [] => []
  | [c] => [c]
  | c :: d :: rest =>
    if c = '\\' then
      match escaped? d with
      | some e => e :: unescape rest
      | none => c :: d :: unescape rest
    else c :: unescape (d :: rest)

/-- The parts before and after the first double colon. -/
def splitColons? : List Char → Option (List Char × List Char)
  | ':' :: ':' :: rest => some ([], rest)
  | c :: rest => (splitColons? rest).map fun (before, after) => (c :: before, after)
  | [] => none

/-- A name without colons is a property; one double colon between two parts makes an enum member. -/
def toOperand (name : List Char) : Except TokenCause Operand :=
  let text := String.ofList name
  if ':' ∈ name then
    match splitColons? name with
    | none => .error (.singleColon text)
    | some (type, member) =>
      if type = [] then .error (.doubleColonAtStart text)
      else if member = [] then .error (.doubleColonAtEnd text)
      else if (splitColons? member).isSome then .error (.multipleDoubleColons text)
      else if ':' ∈ type ∨ ':' ∈ member then .error (.singleColon text)
      else .ok (.enum (String.ofList type) (String.ofList member))
  else .ok (.property text)

/-- Whether a text starts with a word in any ASCII case. -/
def startsWithWord (word : List Char) (cs : List Char) : Bool :=
  (cs.take word.length).map Char.toLower == word

/-- Whether nothing or a character that ends names follows the first `n` characters. -/
def endsAfter (n : Nat) (cs : List Char) : Bool :=
  (cs.drop n).head?.all isBreak

/-- The literal that a text starts with, and the length of its word. -/
def keyword? (cs : List Char) : Option (Operand × Nat) :=
  if startsWithWord ['t', 'r', 'u', 'e'] cs && endsAfter 4 cs then some (.bool true, 4)
  else if startsWithWord ['f', 'a', 'l', 's', 'e'] cs && endsAfter 5 cs then some (.bool false, 5)
  else if cs.take 7 == ['n', 'u', 'l', 'l', 'p', 't', 'r'] && endsAfter 7 cs then some (.null, 7)
  else none

end Name

example : Name.unescape "a\\\\b\\q\\".toList = "a\\b\\q\\".toList := by decide
example : Name.toOperand "A::B".toList = .ok (.enum "A" "B") := by rfl

end FieldGuard
