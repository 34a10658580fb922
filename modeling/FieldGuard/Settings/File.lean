import FieldGuard.Files.Path
import FieldGuard.Files.Program
import FieldGuard.Settings.Change
import FieldGuard.Settings.Reading

/-! Settings in their file. Settings that are asked for and not there are created with their
defaults; a check reads the file as it is. -/
namespace FieldGuard

/-- Why settings cannot be loaded or saved. -/
inductive SettingsError where
  | noHome
  | unreadable (path : String) (cause : FileError)
  | malformed (path : String) (cause : JsonError)
  | noFolder (folder : String) (cause : FileError)
  | unwritable (path : String) (cause : FileError)
  deriving DecidableEq, Repr

def SettingsError.message : SettingsError → String
  | .noHome => "Could not find home directory"
  | .unreadable path cause => "Failed to read config file: " ++ path ++ ": " ++ cause.message
  | .malformed path cause => "Failed to parse config file: " ++ path ++ ": " ++ cause.message
  | .noFolder folder cause => "Failed to create directory: " ++ folder ++ ": " ++ cause.message
  | .unwritable path cause => "Failed to write config file: " ++ path ++ ": " ++ cause.message

/-- Why a settings file cannot be checked. -/
inductive CheckError where
  | missing (path : String)
  | unreadable (path : String) (cause : FileError)
  | malformed (cause : JsonError)
  deriving DecidableEq, Repr

def CheckError.message : CheckError → String
  | .missing path => "config file not found: " ++ path
  | .unreadable path cause => "failed to read config file: " ++ path ++ ": " ++ cause.message
  | .malformed cause => "invalid JSON: " ++ cause.message

namespace Settings

/-- Where settings are: at a given path, else where the environment says, else in the home folder.
-/
def path? (given environment home : Option String) : Option String :=
  given <|> environment <|>
    home.map fun folder => Path.inside (Path.inside folder ".editcond") "config.json"

/-- Writes settings to a file, in a folder that is created if need be. -/
def save (path : String) (s : Settings) : FileProgram (Except SettingsError Unit) := do
  let folder := (Path.parent? path).getD ""
  match ← FileProgram.foldersCreated folder with
  | .error cause => return .error (.noFolder folder cause)
  | .ok () =>
    match ← FileProgram.written path (s.toJson.pretty 0) with
    | .error cause => return .error (.unwritable path cause)
    | .ok () => return .ok ()

/-- Reads the settings of a file that is there. -/
def loadExisting (path : String) : FileProgram (Except SettingsError Settings) := do
  match ← FileProgram.readText path with
  | .error cause => return .error (.unreadable path cause)
  | .ok text => return (ofJson text).mapError (.malformed path)

/-- Reads the settings of a file, or creates it. -/
def load (path : String) : FileProgram (Logged SettingsError Settings) := do
  if ← FileProgram.probed path then return ⟨[], ← loadExisting path⟩
  else
    match ← save path default with
    | .error e => return .fail e
    | .ok () => return ⟨[.debug .settings ("created default config at " ++ path)], .ok default⟩

/-- Checks the settings of a file. -/
def check (path : String) : FileProgram (Logged CheckError (List Defect)) := do
  if ← FileProgram.probed path then
    match ← FileProgram.readText path with
    | .error cause => return .fail (.unreadable path cause)
    | .ok text =>
      match ofJson text with
      | .error cause => return .fail (.malformed cause)
      | .ok s => return s.defects
  else return .fail (.missing path)

end Settings
end FieldGuard
