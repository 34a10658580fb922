import FieldGuard.Decimal.Numeral
import FieldGuard.Settings.Basic
import FieldGuard.Text.Classes

/-! Changing one setting by its key, and checking all of them. A value that would not pass the check
is refused, and the settings stay as they were. -/
namespace FieldGuard

/-- What is wrong with one setting. -/
inductive Defect where
  | epsilon (value : Float)
  | logLevel (value : String)
  | condition (name : String) (cause : ParseError)

namespace Defect

def epsilonMessage (value : Float) : String :=
  "invalid epsilon " ++ Layout.plain.write value ++ ": must be a finite number >= 0"

def logLevelMessage (value : String) : String :=
  "invalid log level '" ++ value ++ "': valid levels are " ++
    ", ".intercalate (LogLevel.all.map (·.name))

def message : Defect → String
  | .epsilon value => "settings.epsilon: " ++ epsilonMessage value
  | .logLevel value => "settings.log_level: " ++ logLevelMessage value
  | .condition name cause => "conditions." ++ name ++ ": " ++ cause.message

end Defect

/-- Why a change is refused. -/
inductive ChangeError where
  | notANumber (value : String) (cause : NumeralError)
  | epsilon (value : Float)
  | logLevel (value : String)
  | condition (name : String) (cause : ParseError)
  | unknownKey (key : String)

def ChangeError.message : ChangeError → String
  | .notANumber value cause => "Invalid number: " ++ value ++ ": " ++ cause.message
  | .epsilon value => Defect.epsilonMessage value
  | .logLevel value => Defect.logLevelMessage value
  | .condition name cause =>
    "Invalid condition '" ++ name ++ "': " ++ cause.message ++ ": " ++ cause.cause
  | .unknownKey key =>
    "Unknown config key: " ++ key ++
      ". Valid keys are settings.epsilon, settings.log_level and conditions.<name>"

namespace Settings

def validEpsilon (x : Float) : Bool :=
  x.isFinite && !(x < 0)

def validLogLevel (level : String) : Bool :=
  (LogLevel.ofName? level).isSome

/-- What a key stands for. -/
inductive Target where
  | epsilon
  | logLevel
  | condition (name : String)
  deriving DecidableEq, Repr

/-- The target of a key; only its first point separates, so names of conditions may hold points. -/
def Target.ofKey? (key : String) : Option Target :=
  let section_ := String.ofList (key.toList.takeWhile (· ≠ '.'))
  match key.toList.dropWhile (· ≠ '.') with
  | _ :: rest =>
    let name := String.ofList rest
    if section_ = "settings" ∧ name = "epsilon" then some .epsilon
    else if section_ = "settings" ∧ name = "log_level" then some .logLevel
    else if section_ = "conditions" ∧ name ≠ "" then some (.condition name)
    else none
  | [] => none

/-- The settings after a change; a blank value removes a condition. -/
def set (s : Settings) (key value : String) : Logged ChangeError Settings :=
  match Target.ofKey? key with
  | some .epsilon =>
    match Numeral.read value with
    | .error cause => .fail (.notANumber value cause)
    | .ok x => if validEpsilon x then pure { s with epsilon := x } else .fail (.epsilon x)
  | some .logLevel =>
    if validLogLevel value then pure { s with logLevel := lowercase value }
    else .fail (.logLevel value)
  | some (.condition name) =>
    if value.toList.all isBlank then pure { s with conditions := s.conditions.erase name }
    else
      let parsed := parseNoted value
      match parsed.outcome with
      | .ok _ => ⟨parsed.notes, .ok { s with conditions := s.conditions.insert name value }⟩
      | .error cause => .fail (.condition name cause)
  | none => .fail (.unknownKey key)

/-- One request for a change: the settings after it, and whether it was granted. A refused change
leaves them as they were. -/
def change (s : Settings) (key value : String) : Settings × Except ChangeError Unit :=
  match (s.set key value).outcome with
  | .ok changed => (changed, .ok ())
  | .error e => (s, .error e)

/-- What is wrong with named conditions, in their order. -/
def conditionDefects {ε : Type} : List (String × String) → Logged ε (List Defect)
  | [] => pure []
  | (name, source) :: rest =>
    let parsed := parseNoted source
    let others := conditionDefects rest
    match parsed.outcome with
    | .ok _ => ⟨parsed.notes ++ others.notes, others.outcome⟩
    | .error cause =>
      ⟨parsed.notes ++ others.notes, others.outcome.map (.condition name cause :: ·)⟩

/-- What is wrong with the settings. -/
def defects {ε : Type} (s : Settings) : Logged ε (List Defect) := do
  let conditions ← conditionDefects s.conditions.entries
  return (if validEpsilon s.epsilon then [] else [.epsilon s.epsilon]) ++
    (if validLogLevel s.logLevel then [] else [.logLevel s.logLevel]) ++ conditions

end Settings
end FieldGuard
