import FieldGuard.Condition.Evaluation
import FieldGuard.Console.LogFilter
import FieldGuard.Console.Report
import FieldGuard.Console.Task
import FieldGuard.Subject.Selection

/-! Running a command line: the command's task, the filter for its log, and the report on both. -/
namespace FieldGuard

/-- What a run is given besides its arguments. -/
structure Environment where
  /-- The home folder. -/
  home : Option String
  /-- A path for the settings, if no option gives one. -/
  settingsPath : Option String
  /-- A log filter. -/
  logFilter : Option String
  /-- Whether output goes to a terminal. -/
  terminal : Bool

namespace Environment

/-- The path of the settings. -/
def path? (env : Environment) (o : Options) : Except SettingsError String :=
  match Settings.path? o.config env.settingsPath env.home with
  | some path => .ok path
  | none => .error .noHome

/-- How much is logged according to the settings, if they are there and can be read. -/
def configuredLevel (env : Environment) (o : Options) : FileProgram String := do
  match env.path? o with
  | .error _ => return Settings.default.logLevel
  | .ok path =>
    if ← FileProgram.probed path then
      match ← Settings.loadExisting path with
      | .ok s => return s.logLevel
      | .error _ => return Settings.default.logLevel
    else return Settings.default.logLevel

/-- The log filter with remarks on what cannot be read of it: an option, else the environment if it
can be read as a whole, else the settings. -/
def filter (env : Environment) (o : Options) : FileProgram (LogFilter × List String) := do
  if o.verbose then return (LogFilter.upTo .debug, [])
  else
    match env.logFilter.bind LogFilter.read? with
    | some f => return (f, [])
    | none =>
      let level ← env.configuredLevel o
      return (LogFilter.readLoose level, LogFilter.remarks level)

end Environment

namespace Command

/-- Loads the settings, creating them if need be. -/
def loadSettings (env : Environment) (o : Options) : Task Settings := do
  let path ← Task.except .settings (env.path? o)
  Task.loggedFiles .settings (Settings.load path)

/-- The source of a condition and its name, if it has one. -/
def findSource (s : Settings) : ConditionSource → Task (String × Option String)
  | .written source => pure (source, none)
  | .named name =>
    match s.condition? name with
    | some source => pure (source, some name)
    | none => Task.fail (.noCondition name s.conditions.names)

/-- Evaluates a condition on the subject in a file. -/
def evaluateOn (env : Environment) (o : Options) (condition : ConditionSource) (path : String) :
    Task Answer := do
  let settings ← loadSettings env o
  let (source, name) ← findSource settings condition
  let subject ← Task.files .subject (Subject.load path)
  let c ← Task.logged .source (parseReported (some subject.name) source)
  let context := Selection.context ⟨subject, settings.epsilon, true⟩
  let rules := Rules.standard settings.epsilon
  let result ← Task.logged (.fault subject) (evaluateReported rules context c)
  return .verdict source name subject.name subject.instances.length result

/-- Changes one setting in the file. -/
def change (env : Environment) (o : Options) (key value : String) : Task Answer := do
  let settings ← loadSettings env o
  let path ← Task.except .general (env.path? o)
  let settings ← Task.logged .change (settings.set key value)
  Task.files .general (settings.save path)
  return .changed key value

/-- Checks the settings in the file. -/
def verifySettings (env : Environment) (o : Options) : Task Answer := do
  let path ← Task.except .general (env.path? o)
  let defects ← Task.loggedFiles .check (Settings.check path)
  if defects.isEmpty then return .valid path else Task.fail (.defects path defects)

/-- The task of a command. -/
def task (env : Environment) (o : Options) : Command → Task Answer
  | .check source true => do
    return .tokens source (← Task.except (fun e => .source (.token e)) (tokenize source))
  | .check source false => do return .condition (← Task.logged .source (parseNoted source))
  | .eval condition file => evaluateOn env o condition file
  | .show => do return .settings (← loadSettings env o)
  | .path => do return .path (← Task.except .general (env.path? o))
  | .set key value => change env o key value
  | .reset => do
    let path ← Task.except .general (env.path? o)
    Task.files .general (Settings.default.save path)
    return .reset
  | .verify => verifySettings env o
  | .completions shell => pure (.script shell)

end Command

/-- Runs a command line. Errors come behind the log. -/
def Invocation.run (env : Environment) (i : Invocation) : FileProgram Report := do
  let (filter, remarks) ← env.filter i.options
  let result ← (i.command.task env i.options).toProgram
  let report := Report.of (.ofOptions env.terminal i.options) result.outcome
  return { report with stderr := asLines remarks ++ filter.text result.notes ++ report.stderr }

/-- The text that answers a question for the version. -/
def versionText : String := "editcond 0.1.0\n"

/-- The short text that answers a malformed command line, and a question for help. -/
def usageText : String :=
  "usage: editcond [--config PATH] [-j|--json] [--no-json] [-q|--quiet] [-v|--verbose] COMMAND\n" ++
    "  check EXPR [--tokens]\n" ++
    "  eval (EXPR | -c NAME) -s PATH\n" ++
    "  config (show | path | set KEY VALUE | reset | verify)\n" ++
    "  completions (bash | zsh | fish)\n"

end FieldGuard
