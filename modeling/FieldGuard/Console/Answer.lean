import FieldGuard.Condition.Fault
import FieldGuard.Condition.Listing
import FieldGuard.Console.Arguments
import FieldGuard.Settings.File
import FieldGuard.Subject.File
import FieldGuard.Text.Suggestion

/-! What a command comes to: an answer, or a failure with its exit status and message. -/
namespace FieldGuard

inductive Answer where
  | tokens (source : String) (tokens : List (Placed Token))
  | condition (c : Condition)
  /-- The truth value of a condition, which may have a name, on the instances of a subject. -/
  | verdict (source : String) (name : Option String) (subject : String) (instances : Nat)
    (result : Bool)
  | settings (s : Settings)
  | path (path : String)
  | changed (key : String) (value : String)
  | reset
  | valid (path : String)
  | script (shell : Shell)

inductive Failure where
  | source (cause : ParseError)
  /-- No condition has the name; `known` are the names of those there are. -/
  | noCondition (name : String) (known : List String)
  | settings (cause : SettingsError)
  | change (cause : ChangeError)
  | check (cause : CheckError)
  | defects (path : String) (defects : List Defect)
  | subject (cause : SubjectError)
  | fault (subject : Subject) (cause : Fault)
  /-- Settings that cannot be found or saved, where nothing else was asked for. -/
  | general (cause : SettingsError)

namespace Failure

/-- The exit status, by the kind of failure. -/
def status : Failure → Nat
  | .general _ => 1
  | .noCondition _ _ => 2
  | .settings _ | .change _ | .check _ | .defects _ _ => 3
  | .source _ => 4
  | .fault _ _ => 5
  | .subject _ => 6

theorem status_pos (f : Failure) : 0 < f.status := by cases f <;> simp [status]

def message : Failure → String
  | .source cause => cause.message
  | .noCondition name _ => "no condition named '" ++ name ++ "' in config"
  | .settings cause | .general cause => cause.message
  | .change cause => cause.message
  | .check cause => cause.message
  | .defects _ _ => "configuration validation failed"
  | .subject cause => cause.message
  | .fault s cause => s.name ++ ": " ++ cause.message

/-- Names that may have been meant: of conditions, or of fields for one that is not declared. -/
def suggestions : Failure → List String
  | .noCondition name known => FieldGuard.suggestions name known
  | .fault s cause =>
    match cause.operandName? with
    | some name => if s.fields.contains name then [] else FieldGuard.suggestions name s.fields.names
    | none => []
  | _ => []

end Failure
end FieldGuard
