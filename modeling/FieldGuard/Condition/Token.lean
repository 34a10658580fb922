import FieldGuard.Condition.Operand
import FieldGuard.Condition.Symbol

/-! Tokens with their places in the source, and what can be wrong with a source. -/
namespace FieldGuard

/-- An item with the byte offset of its first character. -/
structure Placed (α : Type) where
  item : α
  position : Nat
  deriving DecidableEq, Repr

inductive Token where
  | symbol (s : Symbol)
  | operand (o : Operand)
  deriving DecidableEq, Repr

namespace Token

def text : Token → String
  | .symbol s => s.text
  | .operand o => o.text

/-- After every symbol but `)` an operand is expected. -/
def opensOperand : Token → Bool
  | .symbol s => s != .rightParen
  | .operand _ => false

end Token

/-- Bytes of a text in UTF-8. -/
def byteLength (cs : List Char) : Nat :=
  cs.foldr (fun c n => c.utf8Size + n) 0

@[simp] theorem byteLength_nil : byteLength [] = 0 := rfl

@[simp] theorem byteLength_cons (c : Char) (cs : List Char) :
    byteLength (c :: cs) = c.utf8Size + byteLength cs := rfl

@[simp] theorem byteLength_append (as bs : List Char) :
    byteLength (as ++ bs) = byteLength as + byteLength bs := by
  induction as with
  | nil => simp
  | cons a as ih => rw [List.cons_append, byteLength_cons, byteLength_cons, ih, Nat.add_assoc]

theorem byteLength_ofList (cs : List Char) : byteLength cs = (String.ofList cs).utf8ByteSize := by
  induction cs with
  | nil => rfl
  | cons c cs ih =>
    have split : String.ofList (c :: cs) = String.singleton c ++ String.ofList cs := by
      rw [String.singleton_eq_ofList, ← String.ofList_append]
      rfl
    rw [byteLength_cons, ih, split, String.utf8ByteSize_append, String.utf8ByteSize_singleton]

/-- The bytes of a string are those of its characters. -/
theorem byteLength_toList (s : String) : byteLength s.toList = s.utf8ByteSize := by
  rw [byteLength_ofList, String.ofList_toList]

/-- Why no token can be read. -/
inductive TokenCause where
  | unterminatedQuote
  | unexpectedCharacter (c : Char)
  | singleColon (name : String)
  | doubleColonAtStart (name : String)
  | doubleColonAtEnd (name : String)
  | multipleDoubleColons (name : String)
  deriving DecidableEq, Repr

structure TokenError where
  cause : TokenCause
  position : Nat
  deriving DecidableEq, Repr

def TokenError.message (e : TokenError) : String :=
  let place := " at position " ++ toString e.position
  match e.cause with
  | .unterminatedQuote => "unterminated quoted name starting" ++ place
  | .unexpectedCharacter c => "unexpected character '" ++ String.singleton c ++ "'" ++ place
  | .singleColon name =>
    "single colon in property name \"" ++ name ++ "\"" ++ place ++ ", expected double colons"
  | .doubleColonAtStart name =>
    "double colon at start of property name \"" ++ name ++ "\"" ++ place ++ ", expected enum type"
  | .doubleColonAtEnd name =>
    "double colon at end of property name \"" ++ name ++ "\"" ++ place ++ ", expected enum value"
  | .multipleDoubleColons name =>
    "multiple double colons in property name \"" ++ name ++ "\"" ++ place

end FieldGuard
