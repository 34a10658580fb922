import FieldGuard.Console.Directive
import FieldGuard.Reporter
import FieldGuard.Text.Pieces

/-! Log filters: which lines of a log are written. A filter is a list of directives; of those that
select a line's target the most specific one decides, and of equally specific ones the last. -/
namespace FieldGuard

/-- The name by which filters select an area. -/
def Area.target : Area → String
  | .parsing => "editcond::conditions"
  | .evaluation => "editcond::conditions::eval"
  | .selection => "editcond::subject::context"
  | .settings => "editcond::config"

abbrev LogFilter := List Directive

namespace LogFilter

/-- Reads a filter, directives between commas, in which every directive must be readable. -/
def read? (text : String) : Option LogFilter :=
  (pieces ',' text).mapM fun t => (Directive.read t).toOption

/-- Reads the directives that can be read. -/
def readLoose (text : String) : LogFilter :=
  (pieces ',' text).filterMap fun t => (Directive.read t).toOption

/-- Remarks on the directives that cannot be read. -/
def remarks (text : String) : List String :=
  (pieces ',' text).filterMap fun t =>
    match Directive.read t with
    | .ok _ => none
    | .error e => some ("ignoring `" ++ t ++ "`: " ++ e.message)

/-- Everything up to a level. -/
def upTo (level : LogLevel) : LogFilter :=
  [{ Directive.everything with verbosity := level.verbosity }]

/-- The directive that decides about a target. -/
def decider? (f : LogFilter) (target : String) : Option Directive :=
  (f.filter (·.selects target)).foldl
    (fun best d =>
      match best with
      | some b => if b.rank ≤ d.rank then some d else some b
      | none => some d)
    none

/-- Whether lines of a level and target are written. -/
def writes (f : LogFilter) (level : LogLevel) (target : String) : Bool :=
  match f.decider? target with
  | some d => level.verbosity ≤ d.verbosity
  | none => false

/-- A character as it is written in a line. The controls that can steer a terminal are written by
their numbers. -/
def harmless (c : Char) : String :=
  match c with
  | '\x07' => "\\x07"
  | '\x08' => "\\x08"
  | '\x0c' => "\\x0c"
  | '\x1b' => "\\x1b"
  | '\x7f' => "\\x7f"
  | c =>
    if 0x80 ≤ c.toNat ∧ c.toNat ≤ 0x9f then
      "\\u\x7b" ++ String.ofList (Nat.toDigits 16 c.toNat) ++ "\x7d"
    else String.singleton c

/-- A line of a level and target, if it is written. -/
def entry? (f : LogFilter) (level : LogLevel) (target text : String) : Option String :=
  if f.writes level target then
    some (level.name.map Char.toUpper ++ " " ++ String.join (text.toList.map harmless))
  else none

/-- The text of a line, if it is written; what the reporter lets through is a debug line. -/
def line? (f : LogFilter) : Reporter.Line → Option String
  | .trace area text => f.entry? .trace area.target text
  | .debug area text => f.entry? .debug area.target text
  | .emitted text => f.entry? .debug "edit_condition" text

/-- What is written of a log, a line for each. -/
def text (f : LogFilter) (notes : List Note) : String :=
  String.join (((Reporter.empty.absorb notes).2.filterMap f.line?).map (· ++ "\n"))

end LogFilter

example :
    let filter := LogFilter.readLoose "warn,editcond::config=DEBUG"
    filter.writes .debug "editcond::config" = true := by
  decide +kernel
example : (LogFilter.readLoose "loud").writes .trace "editcond" = false := by decide +kernel

end FieldGuard
