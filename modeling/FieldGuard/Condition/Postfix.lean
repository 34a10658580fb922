import FieldGuard.Condition.Token

/-! Postfix sequences. Tokens are put into postfix order in one pass with a stack of waiting
operators; each token releases the operators that bind at least as tightly, so what a pass emits is
the concatenation of what its tokens emit. -/
namespace FieldGuard

/-- One step of a postfix sequence. -/
inductive Step where
  | operand (o : Operand)
  | not
  | binary (op : BinaryOp)
  deriving DecidableEq, Repr

def Step.text : Step → String
  | .operand o => o.text
  | .not => Symbol.not.text
  | .binary op => op.text

/-- What is wrong with the order of tokens. -/
inductive GrammarError where
  | empty
  | missingOperand (symbol : Symbol) (position : Nat)
  | unexpectedOperand (operand : Operand) (position : Nat)
  | unexpectedSymbol (symbol : Symbol) (position : Nat)
  | unmatchedLeft (position : Nat)
  | unmatchedRight (position : Nat)
  deriving DecidableEq, Repr

namespace GrammarError

def position? : GrammarError → Option Nat
  | .empty => none
  | .missingOperand _ p | .unexpectedOperand _ p | .unexpectedSymbol _ p | .unmatchedLeft p
  | .unmatchedRight p => some p

def message : GrammarError → String
  | .empty => "empty expression"
  | .missingOperand s p => "missing operand for '" ++ s.text ++ "' at position " ++ toString p
  | .unexpectedOperand o p =>
    "unexpected operand '" ++ o.text ++ "' at position " ++ toString p ++ ", expected an operator"
  | .unexpectedSymbol s p => "unexpected '" ++ s.text ++ "' at position " ++ toString p
  | .unmatchedLeft p => "unmatched '(' at position " ++ toString p
  | .unmatchedRight p => "unmatched ')' at position " ++ toString p

end GrammarError

namespace Postfix

/-- What can wait on the stack. -/
inductive Waiting where
  | not
  | binary (op : BinaryOp)
  | group
  deriving DecidableEq, Repr

/-- The state between two tokens: the waiting operators, innermost first, whether an operand is
expected, and the last symbol read. -/
structure State where
  waiting : List (Placed Waiting)
  expecting : Bool
  lastSymbol : Option (Placed Symbol)
  deriving DecidableEq, Repr

def start : State where
  waiting := []
  expecting := true
  lastSymbol := none

/-- Releases waiting operators up to the innermost group that bind at least as tightly as `tier`.
The prefix `!` binds tighter than any binary operator. -/
def release (tier : Nat) : List (Placed Waiting) → List (Placed Step) × List (Placed Waiting)
  | ⟨.not, p⟩ :: rest =>
    let (out, left) := release tier rest
    (⟨.not, p⟩ :: out, left)
  | ⟨.binary op, p⟩ :: rest =>
    if op.tier ≤ tier then
      let (out, left) := release tier rest
      (⟨.binary op, p⟩ :: out, left)
    else ([], ⟨.binary op, p⟩ :: rest)
  | waiting => ([], waiting)

/-- Releases the operators of the innermost group and closes it, if a group is open. -/
def closeGroup? : List (Placed Waiting) → Option (List (Placed Step) × List (Placed Waiting))
  | [] => none
  | ⟨.group, _⟩ :: rest => some ([], rest)
  | ⟨.not, p⟩ :: rest => (closeGroup? rest).map fun (out, left) => (⟨.not, p⟩ :: out, left)
  | ⟨.binary op, p⟩ :: rest =>
    (closeGroup? rest).map fun (out, left) => (⟨.binary op, p⟩ :: out, left)

/-- The mistake of a `)` where an operand is expected: an operator before it lacks its operand. -/
def emptyGroup (last : Option (Placed Symbol)) (position : Nat) : GrammarError :=
  match last with
  | some ⟨.binary op, p⟩ => .missingOperand (.binary op) p
  | some ⟨.not, p⟩ => .missingOperand .not p
  | _ => .unexpectedSymbol .rightParen position

/-- Reads one token: the steps it emits and the state after it. -/
def step (s : State) (t : Placed Token) : Except GrammarError (List (Placed Step) × State) :=
  let p := t.position
  match t.item with
  | .operand o =>
    if s.expecting then .ok ([⟨.operand o, p⟩], { s with expecting := false })
    else .error (.unexpectedOperand o p)
  | .symbol .not =>
    if s.expecting then .ok ([], ⟨⟨.not, p⟩ :: s.waiting, true, some ⟨.not, p⟩⟩)
    else .error (.unexpectedSymbol .not p)
  | .symbol .leftParen =>
    if s.expecting then .ok ([], ⟨⟨.group, p⟩ :: s.waiting, true, some ⟨.leftParen, p⟩⟩)
    else .error (.unexpectedSymbol .leftParen p)
  | .symbol .rightParen =>
    if s.expecting then .error (emptyGroup s.lastSymbol p)
    else
      match closeGroup? s.waiting with
      | some (out, waiting) => .ok (out, ⟨waiting, false, some ⟨.rightParen, p⟩⟩)
      | none => .error (.unmatchedRight p)
  | .symbol (.binary op) =>
    if s.expecting then .error (.missingOperand (.binary op) p)
    else
      let (out, waiting) := release op.tier s.waiting
      .ok (out, ⟨⟨.binary op, p⟩ :: waiting, true, some ⟨.binary op, p⟩⟩)

/-- Releases all waiting operators at the end; a group still open is a mistake. -/
def drain : List (Placed Waiting) → Except GrammarError (List (Placed Step))
  | [] => .ok []
  | ⟨.group, p⟩ :: _ => .error (.unmatchedLeft p)
  | ⟨.not, p⟩ :: rest => (drain rest).map (⟨.not, p⟩ :: ·)
  | ⟨.binary op, p⟩ :: rest => (drain rest).map (⟨.binary op, p⟩ :: ·)

def finish (s : State) : Except GrammarError (List (Placed Step)) :=
  if s.expecting then
    match s.lastSymbol with
    | some last => .error (.missingOperand last.item last.position)
    | none => .error .empty
  else drain s.waiting

/-- The steps that the rest of the tokens emit. -/
def run (s : State) : List (Placed Token) → Except GrammarError (List (Placed Step))
  | [] => finish s
  | t :: ts => do
    let (out, next) ← step s t
    let rest ← run next ts
    return out ++ rest

end Postfix

/-- The postfix sequence of a list of tokens. -/
def toPostfix (tokens : List (Placed Token)) : Except GrammarError (List (Placed Step)) :=
  Postfix.run Postfix.start tokens

end FieldGuard
