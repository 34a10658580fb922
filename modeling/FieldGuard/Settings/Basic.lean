import FieldGuard.Condition.Basic
import FieldGuard.Dictionary
import FieldGuard.Json.Value
import FieldGuard.Text.Lowercase

/-! Settings: the tolerance for numbers, how much is logged, and conditions by name. -/
namespace FieldGuard

/-- The least urgent kind of log entry that is written. -/
inductive LogLevel where
  | trace
  | debug
  | info
  | warn
  | error
  deriving DecidableEq, Repr

namespace LogLevel

def name : LogLevel → String
  | .trace => "trace"
  | .debug => "debug"
  | .info => "info"
  | .warn => "warn"
  | .error => "error"

def all : List LogLevel := [.trace, .debug, .info, .warn, .error]

/-- The level of a name in any case. -/
def ofName? (name : String) : Option LogLevel :=
  all.find? (·.name == lowercase name)

end LogLevel

structure Settings where
  epsilon : Float
  logLevel : String
  /-- Sources of conditions by name. -/
  conditions : Dictionary String

namespace Settings

def default : Settings where
  epsilon := 1e-8
  logLevel := "warn"
  conditions := .empty

def condition? (s : Settings) (name : String) : Option String :=
  s.conditions.get? name

/-- The settings as they are written to a file. -/
def toJson (s : Settings) : Json :=
  .object [
    ("settings", .object [
      ("epsilon", if s.epsilon.isFinite then .number (.double s.epsilon) else .null),
      ("log_level", .string s.logLevel)]),
    ("conditions", .object (s.conditions.map .string).entries)]

end Settings
end FieldGuard
