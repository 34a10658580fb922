/-! The symbols of conditions: thirteen binary operators in four tiers, the prefix `!` and the two
parentheses. -/
namespace FieldGuard

inductive BinaryOp where
  | equal
  | notEqual
  | less
  | lessEqual
  | greater
  | greaterEqual
  | and
  | or
  | add
  | subtract
  | multiply
  | divide
  | bitAnd
  deriving DecidableEq, Repr

namespace BinaryOp

def text : BinaryOp → String
  | .equal => "=="
  | .notEqual => "!="
  | .less => "<"
  | .lessEqual => "<="
  | .greater => ">"
  | .greaterEqual => ">="
  | .and => "&&"
  | .or => "||"
  | .add => "+"
  | .subtract => "-"
  | .multiply => "*"
  | .divide => "/"
  | .bitAnd => "&"

/-- How tightly an operator binds; tier 1 binds tightest. -/
def tier : BinaryOp → Nat
  | .multiply | .divide => 1
  | .bitAnd | .add | .subtract => 2
  | .equal | .notEqual | .less | .lessEqual | .greater | .greaterEqual => 3
  | .and | .or => 4

theorem tier_pos (op : BinaryOp) : 0 < op.tier := by cases op <;> decide
theorem tier_le_four (op : BinaryOp) : op.tier ≤ 4 := by cases op <;> decide

def all : List BinaryOp :=
  [.equal, .notEqual, .less, .lessEqual, .greater, .greaterEqual, .and, .or, .add, .subtract,
    .multiply, .divide, .bitAnd]

theorem mem_all (op : BinaryOp) : op ∈ all := by cases op <;> decide

end BinaryOp

inductive Symbol where
  | binary (op : BinaryOp)
  | not
  | leftParen
  | rightParen
  deriving DecidableEq, Repr

namespace Symbol

def text : Symbol → String
  | .binary op => op.text
  | .not => "!"
  | .leftParen => "("
  | .rightParen => ")"

/-- The tier of a binary operator; the other symbols have none. -/
def tier? : Symbol → Option Nat
  | .binary op => some op.tier
  | _ => none

def isBinary : Symbol → Bool
  | .binary _ => true
  | _ => false

def all : List Symbol :=
  BinaryOp.all.map .binary ++ [.not, .leftParen, .rightParen]

theorem mem_all (s : Symbol) : s ∈ all := by
  cases s with
  | binary op => exact List.mem_append_left _ (List.mem_map_of_mem op.mem_all)
  | _ => decide

/-- The symbol written exactly so. -/
def ofText? (text : String) : Option Symbol :=
  all.find? (·.text == text)

/-- The longest symbol that starts with a character, and how many characters it takes beyond that
one. -/
def read? : Char → List Char → Option (Symbol × Nat)
  | '=', '=' :: _ => some (.binary .equal, 1)
  | '!', '=' :: _ => some (.binary .notEqual, 1)
  | '!', _ => some (.not, 0)
  | '<', '=' :: _ => some (.binary .lessEqual, 1)
  | '<', _ => some (.binary .less, 0)
  | '>', '=' :: _ => some (.binary .greaterEqual, 1)
  | '>', _ => some (.binary .greater, 0)
  | '&', '&' :: _ => some (.binary .and, 1)
  | '&', _ => some (.binary .bitAnd, 0)
  | '|', '|' :: _ => some (.binary .or, 1)
  | '+', _ => some (.binary .add, 0)
  | '-', _ => some (.binary .subtract, 0)
  | '*', _ => some (.binary .multiply, 0)
  | '/', _ => some (.binary .divide, 0)
  | '(', _ => some (.leftParen, 0)
  | ')', _ => some (.rightParen, 0)
  | _, _ => none

end Symbol

example : Symbol.read? '&' ['&', 'a'] = some (.binary .and, 1) := by decide
example : Symbol.ofText? "<=" = some (.binary .lessEqual) := by decide

end FieldGuard
