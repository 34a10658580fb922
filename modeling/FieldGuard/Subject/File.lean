import FieldGuard.Files.Path
import FieldGuard.Files.Program
import FieldGuard.Subject.Reading

/-! Subjects in files: JSON5 in a file with that extension, JSON in any other. -/
namespace FieldGuard

/-- Why a file gives no subject. -/
inductive SubjectError where
  | unreadable (path : String) (cause : FileError)
  | malformed (path : String) (cause : JsonError)
  /-- The text is no document in JSON5; where it fails is not told. -/
  | malformedRelaxed (path : String)
  | rejected (path : String) (cause : DocumentError)

def SubjectError.message : SubjectError → String
  | .unreadable path cause => "Failed to read subject file: " ++ path ++ ": " ++ cause.message
  | .malformed path cause => "Failed to parse subject file: " ++ path ++ ": " ++ cause.message
  | .malformedRelaxed path => "Failed to parse subject file: " ++ path ++ ": not a subject in JSON5"
  | .rejected path cause => "Invalid subject file: " ++ path ++ ": " ++ cause.message

namespace Subject

/-- Whether a file is read as JSON5. -/
def isRelaxed (path : String) : Bool :=
  (Path.extension? path).any fun e => e.toList.map Char.toLower == "json5".toList

/-- The subject in the text of a file. -/
def ofText (path text : String) : Except SubjectError Subject := do
  let document ←
    if isRelaxed path then
      match SubjectDocument.ofJson5? text with
      | some d => .ok d
      | none => .error (.malformedRelaxed path)
    else (SubjectDocument.ofJson text).mapError (.malformed path)
  document.toSubject.mapError (.rejected path)

/-- Reads the subject in a file. -/
def load (path : String) : FileProgram (Except SubjectError Subject) := do
  match ← FileProgram.readText path with
  | .error cause => return .error (.unreadable path cause)
  | .ok text => return ofText path text

end Subject
end FieldGuard
