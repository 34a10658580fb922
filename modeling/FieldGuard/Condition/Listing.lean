import FieldGuard.Condition.Basic
import FieldGuard.Json.Value

/-! Listings of tokens and of postfix steps: one entry for each, with what it is, its text and its
place. -/
namespace FieldGuard

structure Listing where
  /-- What the entry is, in one word. -/
  label : String
  text : String
  position : Nat
  deriving DecidableEq, Repr

def Operand.label : Operand → String
  | .bool _ => "bool"
  | .number _ => "number"
  | .null => "null"
  | .property _ => "property"
  | .enum _ _ => "enum"

def Token.label : Token → String
  | .symbol _ => "operator"
  | .operand o => o.label

def Step.label : Step → String
  | .operand o => o.label
  | .not => "unary"
  | .binary _ => "binary"

namespace Listing

def ofToken (t : Placed Token) : Listing where
  label := t.item.label
  text := t.item.text
  position := t.position

def ofStep (s : Placed Step) : Listing where
  label := s.item.label
  text := s.item.text
  position := s.position

def toJson (l : Listing) : Json :=
  .object [
    ("type", .string l.label),
    ("text", .string l.text),
    ("position", .number (.integer l.position))]

/-- Puts blanks before a text up to a width. -/
def padLeft (width : Nat) (s : String) : String :=
  String.ofList (List.replicate (width - s.length) ' ') ++ s

/-- Puts blanks behind a text up to a width. -/
def padRight (width : Nat) (s : String) : String :=
  s ++ String.ofList (List.replicate (width - s.length) ' ')

/-- The entry as a line of a table. -/
def line (l : Listing) : String :=
  padLeft 4 (toString l.position) ++ "  " ++ padRight 9 l.label ++ " " ++ l.text

end Listing

example : (Listing.ofToken ⟨.symbol .not, 12⟩).line = "  12  operator  !" := by decide +kernel

end FieldGuard
