import FieldGuard.Settings.Basic
import FieldGuard.Text.Alphanumeric
import FieldGuard.Text.Classes

/-! Directives of log filters: `level`, or `target[span{field}]=level` with any of its parts left
out. Blanks around a directive are passed over while its marks are looked for, but the places of the
marks are then counted from the blanks on. -/
namespace FieldGuard
namespace LogLevel

/-- How much is written at a level: it and all less talkative ones. -/
def verbosity : LogLevel → Nat
  | .error => 1
  | .warn => 2
  | .info => 3
  | .debug => 4
  | .trace => 5

/-- The verbosity that a number stands for, written in decimal digits with or without a plus. -/
def numberedVerbosity? (word : List Char) : Option Nat :=
  let digits := if word.head? = some '+' then word.tail else word
  if digits ≠ [] ∧ digits.all Char.isDigit then
    let n := digits.foldl (fun n d => 10 * n + (d.toNat - '0'.toNat)) 0
    if n ≤ 5 then some n else none
  else none

/-- The verbosity of a level by name or number; `off` writes nothing. -/
def verbosity? (word : List Char) : Option Nat :=
  let name := String.ofList (word.map Char.toLower)
  numberedVerbosity? word <|>
    if name = "off" then some 0
    else (all.find? (·.name == name)).map verbosity

end LogLevel

/-- What is written, and of what. -/
structure Directive where
  /-- What the targets start with, if it matters. -/
  target : Option String
  /-- The span that lines must lie in; no line lies in one. -/
  span : Option String
  /-- A field that lines must have, and the value of it that spans around them must have. -/
  field : Option (String × Option String)
  verbosity : Nat
  deriving DecidableEq, Repr

/-- Why a directive cannot be read. -/
inductive DirectiveError where
  | malformed
  | level
  deriving DecidableEq, Repr

def DirectiveError.message : DirectiveError → String
  | .malformed => "invalid filter directive"
  | .level =>
    "error parsing level filter: expected one of \"off\", \"error\", \"warn\", \"info\", " ++
      "\"debug\", \"trace\", or a number 0-5"

namespace Directive

/-- Everything is written. -/
def everything : Directive where
  target := none
  span := none
  field := none
  verbosity := LogLevel.trace.verbosity

/-- The text behind its first bytes. -/
def dropBytes (bytes : Nat) : List Char → List Char
  | [] => []
  | c :: rest => if bytes = 0 then c :: rest else dropBytes (bytes - c.utf8Size) rest

/-- The first bytes of a text. -/
def takeBytes (bytes : Nat) : List Char → List Char
  | [] => []
  | c :: rest => if bytes = 0 then [] else c :: takeBytes (bytes - c.utf8Size) rest

/-- The text between two places, counted in bytes. -/
def cut (text : List Char) (start stop : Nat) : List Char :=
  takeBytes (stop - start) (dropBytes start text)

/-- What a field must be: its name, and its value if there is one. -/
def readField (text : List Char) : String × Option String :=
  let name := text.takeWhile (· ≠ '=')
  match text.dropWhile (· ≠ '=') with
  | [] => (String.ofList name, none)
  | _ :: value => (String.ofList name, some (String.ofList (value.takeWhile (· ≠ '='))))

/-- Characters that a level or a target may start with. -/
def startsWord (c : Char) : Bool :=
  isAlphanumeric c || c == '-' || c == ':' || c == '_'

/-- How far a directive has been read; a part that is open has started at some byte. -/
inductive Stage where
  | start
  | word
  | span (opened : Nat)
  | field (opened : Nat)
  | fieldClosed
  | spanClosed
  | level (opened : Nat)
  deriving DecidableEq, Repr

/-- Reads the character at a place of a text. -/
def step (text : List Char) (place : Nat) (d : Directive) (c : Char) :
    Stage → Except DirectiveError (Stage × Directive)
  | .start =>
    if c = '[' then .ok (.span (place + 1), d)
    else if startsWord c then .ok (.word, d)
    else .error .malformed
  | .word =>
    if c = '=' then
      .ok (.level (place + 1), { d with target := some (String.ofList (cut text 0 place)) })
    else if c = '[' then
      .ok (.span (place + 1), { d with target := some (String.ofList (cut text 0 place)) })
    else .ok (.word, d)
  | .span opened =>
    let name := cut text opened place
    if c = ']' then .ok (.spanClosed, { d with span := some (String.ofList name) })
    else if c = '\x7b' then
      .ok (.field (place + 1),
        { d with span := if name = [] then none else some (String.ofList name) })
    else .ok (.span opened, d)
  | .field opened =>
    let field := cut text opened place
    if c = '\x7d' then
      if field = [] then .error .malformed
      else .ok (.fieldClosed, { d with field := some (readField field) })
    else .ok (.field opened, d)
  | .fieldClosed => if c = ']' then .ok (.spanClosed, d) else .error .malformed
  | .spanClosed => if c = '=' then .ok (.level (place + 1), d) else .error .malformed
  | .level opened => .ok (.level opened, d)

/-- The directive that has been read at the end of a text. A word alone is a level if it names one,
otherwise a target that is written in full. -/
def finish (text : List Char) (d : Directive) : Stage → Except DirectiveError Directive
  | .word =>
    match LogLevel.verbosity? text with
    | some v => .ok { d with verbosity := v }
    | none => .ok { d with target := some (String.ofList text) }
  | .level opened =>
    match dropBytes opened text with
    | [] => .ok d
    | level =>
      match LogLevel.verbosity? level with
      | some v => .ok { d with verbosity := v }
      | none => .error .level
  | .spanClosed => .ok d
  | _ => .error .malformed

/-- Reads the rest of the characters of a text. -/
def run (text : List Char) (place : Nat) (s : Stage) (d : Directive) :
    List Char → Except DirectiveError Directive
  | [] => finish text d s
  | c :: rest => do
    let (s, d) ← step text place d c s
    run text (place + c.utf8Size) s d rest

/-- A text without the blanks around it. -/
def trim (text : List Char) : List Char :=
  ((text.dropWhile isBlank).reverse.dropWhile isBlank).reverse

def read (text : String) : Except DirectiveError Directive :=
  run text.toList 0 .start everything (trim text.toList)

/-- Whether a directive is about lines in no span. -/
def aboutLines (d : Directive) : Bool :=
  d.span.isNone && d.field.all (·.2.isNone)

/-- Whether a directive is about lines of a target; lines have one field, the message. -/
def selects (d : Directive) (target : String) : Bool :=
  d.aboutLines && d.field.all (·.1 == "message") &&
    d.target.all fun t => t.toList.isPrefixOf target.toList

/-- How specific a directive is: by the bytes of its target, then by whether it asks for a field. -/
def rank (d : Directive) : Nat :=
  let target := match d.target with
    | some t => t.utf8ByteSize + 1
    | none => 0
  2 * target + if d.field.isSome then 1 else 0

end Directive

example : (Directive.read "warn").toOption = some ⟨none, none, none, 2⟩ := by decide +kernel
example : (Directive.read "a[\x7bmessage\x7d]=3").toOption =
    some ⟨some "a", none, some ("message", none), 3⟩ := by decide +kernel
example : (Directive.read "a b").toOption = some ⟨some "a b", none, none, 5⟩ := by decide +kernel
example : (Directive.read "a=loud").toOption = none ∧ (Directive.read "a[b").toOption = none := by
  decide +kernel

end FieldGuard
