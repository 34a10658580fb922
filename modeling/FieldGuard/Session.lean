import FieldGuard.Condition.Evaluation
import FieldGuard.Reporter

/-! Sessions: calls that share one reporter and the sink behind it. -/
namespace FieldGuard

/-- What can be called with a reporter. A source may be parsed for a subject, and what the getters of
a context remark goes to the same reporter. -/
inductive Call where
  | report (problem : Problem)
  | parse (subject : Option Context) (source : String)
  | evaluate (rules : Rules) (context : Context) (condition : Condition)
  | get (context : Context) (getter : Getter) (field : String)
  | memberValue (context : Context) (type member : String)
  | clear

/-- What a call returns. -/
inductive Reply where
  /-- Whether a problem is reported for the first time. -/
  | fresh (fresh : Bool)
  | parsed (result : Except ParseError Condition)
  | truth (result : Except Fault Bool)
  | answer (getter : Getter) (value : Option getter.Answer)
  | memberValue (value : Option Int64)
  | cleared

/-- A reporter with the lines that reached its sink. -/
structure Session where
  reporter : Reporter
  sink : List String
  deriving DecidableEq, Repr

namespace Session

def start : Session where
  reporter := .empty
  sink := []

/-- Puts the problems of a log through the reporter. -/
def absorb (s : Session) (notes : List Note) : Session :=
  let (reporter, lines) := s.reporter.absorb notes
  ⟨reporter, s.sink ++ Reporter.emitted lines⟩

/-- Makes one call. -/
def perform (s : Session) : Call → Session × Reply
  | .report problem =>
    (s.absorb [.report problem.1 problem.2], .fresh (s.reporter.report problem).2)
  | .parse subject source =>
    let parsed := parseReported (subject.map (·.name)) source
    (s.absorb parsed.notes, .parsed parsed.outcome)
  | .evaluate rules context condition =>
    let truth := evaluateReported rules context condition
    (s.absorb truth.notes, .truth truth.outcome)
  | .get context getter field =>
    (s.absorb (context.remarks getter field), .answer getter (context.get getter field))
  | .memberValue context type member => (s, .memberValue (context.memberValue type member))
  | .clear => ({ s with reporter := .empty }, .cleared)

/-- The session after some calls. -/
def run (s : Session) (calls : List Call) : Session :=
  calls.foldl (fun s c => (s.perform c).1) s

end Session
end FieldGuard
