import FieldGuard.Console.Run

/-! The program: requests on files are carried out, and the report is printed. -/
namespace FieldGuard

/-- How an error of the system is told. -/
def FileError.ofSystem : IO.Error → FileError
  | .noFileOrDirectory .. => .missing
  | .inappropriateType _ code _ => if code = 20 then .notFolder else .isFolder
  | .alreadyExists .. => .exists
  | .invalidArgument _ 36 _ => .nameTooLong
  | e => .other (toString e)

/-- The outcome of an action on files. -/
def attempt {α : Type} (action : IO α) : IO (Except FileError α) := do
  match ← action.toBaseIO with
  | .ok a => return .ok a
  | .error e => return .error (.ofSystem e)

/-- Whether a path leads anywhere: only then it can be opened, or something else forbids it. -/
def leadsAnywhere (path : String) : IO Bool := do
  match ← attempt (IO.FS.Handle.mk path .read) with
  | .error .missing | .error .notFolder | .error .nameTooLong => return false
  | _ => return true

/-- The text in a file. -/
def readFileText (path : String) : IO (Except FileError String) := do
  match ← attempt (IO.FS.readBinFile path) with
  | .error e => return .error e
  | .ok bytes =>
    match String.fromUTF8? bytes with
    | some text => return .ok text
    | none => return .error .notText

/-- Carries out a program on the files of the system. -/
def FileProgram.perform {α : Type} : FileProgram α → IO α
  | .done a => pure a
  | .probe path next => do perform (next (← leadsAnywhere path))
  | .read path next => do perform (next (← readFileText path))
  | .createFolders path next => do
    if path = "" then perform (next (.ok ()))
    else perform (next (← attempt (IO.FS.createDirAll path)))
  | .write path content next => do perform (next (← attempt (IO.FS.writeFile path content)))

/-- A variable of the environment that is set to some text. -/
def fromEnvironment? (name : String) : IO (Option String) := do
  return (← IO.getEnv name).filter (· ≠ "")

end FieldGuard

open FieldGuard in
def main (args : List String) : IO UInt32 := do
  match Invocation.ofArguments args with
  | .error .version =>
    IO.print versionText
    return 0
  | .error .malformed =>
    IO.eprint usageText
    return 2
  | .ok invocation =>
    let env : Environment := {
      home := ← fromEnvironment? "HOME"
      settingsPath := ← IO.getEnv "EDITCOND_CONFIG"
      logFilter := ← IO.getEnv "RUST_LOG"
      terminal := ← (← IO.getStdout).isTty }
    let report ← (invocation.run env).perform
    IO.print report.stdout
    IO.eprint report.stderr
    return UInt32.ofNat report.status
