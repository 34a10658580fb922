import FieldGuard.Logged

/-! The reporter lets each distinct pair of subject and message through once until it is cleared. -/
namespace FieldGuard

/-- A problem with the subject it concerns. -/
abbrev Problem := Option String × String

/-- The line of a problem. -/
def Problem.line : Problem → String
  | (some context, message) => context ++ ": " ++ message
  | (none, message) => message

structure Reporter where
  /-- The problems let through so far, latest first. -/
  seen : List Problem
  deriving DecidableEq, Repr

namespace Reporter

def empty : Reporter where
  seen := []

def count (r : Reporter) : Nat :=
  r.seen.length

/-- The reporter after a problem, and whether the problem is let through. -/
def report (r : Reporter) (p : Problem) : Reporter × Bool :=
  if p ∈ r.seen then (r, false) else (⟨p :: r.seen⟩, true)

/-- What is left of a log: the problems not let through drop out, the others become lines. -/
inductive Line where
  | trace (area : Area) (text : String)
  | debug (area : Area) (text : String)
  | emitted (text : String)
  deriving DecidableEq, Repr

/-- Puts the problems of a log through the reporter, in order. -/
def absorb (r : Reporter) : List Note → Reporter × List Line
  | [] => (r, [])
  | .trace area text :: rest =>
    let (r, lines) := absorb r rest
    (r, .trace area text :: lines)
  | .debug area text :: rest =>
    let (r, lines) := absorb r rest
    (r, .debug area text :: lines)
  | .report context message :: rest =>
    let (r, fresh) := r.report (context, message)
    let (r, lines) := absorb r rest
    (r, if fresh then .emitted (Problem.line (context, message)) :: lines else lines)

/-- The lines that problems became. -/
def emitted (lines : List Line) : List String :=
  lines.filterMap fun l =>
    match l with
    | .emitted text => some text
    | _ => none

/-- A summary of the reporter. -/
def summary (r : Reporter) : String :=
  "ErrorReporter \x7b reported: " ++ toString r.count ++ " \x7d"

theorem report_fresh (r : Reporter) (p : Problem) : (r.report p).2 = true ↔ p ∉ r.seen := by
  by_cases h : p ∈ r.seen <;> simp [report, h]

end Reporter
end FieldGuard
