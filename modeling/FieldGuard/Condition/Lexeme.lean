import FieldGuard.Condition.Name
import FieldGuard.Decimal.Numeral

/-! Reading a source into tokens. A lexeme is one character and a number of further ones, so every
token takes at least one character off the source. -/
namespace FieldGuard
namespace Lexeme

/-- A numeral at the front of a text with its value, and its length. -/
def numeral? (length : Nat) (cs : List Char) : Option (Token × Nat) :=
  match length with
  | 0 => none
  | n + 1 => (Numeral.parse? (cs.take (n + 1))).map fun x => (.operand (.number x), n)

/-- The longest numeral at the front of a text, with a sign or without one. -/
def frontNumeral? (signed : Bool) (cs : List Char) : Option (Token × Nat) :=
  numeral? (Numeral.frontLength signed cs) cs

/-- A name that starts with `c`, quoted or bare. -/
def name (c : Char) (cs : List Char) : Except TokenCause (Token × Nat) :=
  if Name.isQuote c then
    match Name.quotedLength? c false cs with
    | none => .error .unterminatedQuote
    | some n => (Name.toOperand (Name.unescape (cs.take n))).map fun o => (.operand o, n + 1)
  else if Name.isBreak c then .error (.unexpectedCharacter c)
  else
    let rest := cs.takeWhile fun d => !Name.isBreak d
    (Name.toOperand (c :: rest)).map fun o => (.operand o, rest.length)

/-- The token that starts with the character `c`, and how many of the following characters belong to
it. A sign belongs to a numeral only where an operand is expected. -/
def next (expecting : Bool) (c : Char) (cs : List Char) : Except TokenCause (Token × Nat) :=
  let signed := if expecting then frontNumeral? true (c :: cs) else none
  match signed with
  | some t => .ok t
  | none =>
    match Symbol.read? c cs with
    | some (s, n) => .ok (.symbol s, n)
    | none =>
      match frontNumeral? false (c :: cs) with
      | some t => .ok t
      | none =>
        match Name.keyword? (c :: cs) with
        | some (o, n) => .ok (.operand o, n - 1)
        | none => name c cs

/-- Tokens of a text that starts at byte `position`. -/
def run (expecting : Bool) (position : Nat) : List Char → Except TokenError (List (Placed Token))
  | [] => .ok []
  | c :: cs =>
    if isBlank c then run expecting (position + c.utf8Size) cs
    else
      match next expecting c cs with
      | .error cause => .error ⟨cause, position⟩
      | .ok (token, n) =>
        (run token.opensOperand (position + c.utf8Size + byteLength (cs.take n)) (cs.drop n)).map
          fun tokens => ⟨token, position⟩ :: tokens
  termination_by cs => cs.length
  decreasing_by all_goals simp; try omega

end Lexeme

/-- The tokens of a source, with their byte positions. -/
def tokenize (source : String) : Except TokenError (List (Placed Token)) :=
  Lexeme.run true 0 source.toList

end FieldGuard
