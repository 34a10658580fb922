import FieldGuard.Console.Answer
import FieldGuard.Console.Completion
import FieldGuard.Console.Reply

/-! Reports: what the program prints and how it exits, in each mode of output. -/
namespace FieldGuard

/-- The modes of output: for people, for other programs, and errors only but for the answers that are
printed all the same (`Answer.isLoud`). -/
inductive OutputMode where
  | text
  | json
  | quiet
  deriving DecidableEq, Repr

/-- The mode that options ask for; without any it is text on a terminal and JSON elsewhere. -/
def OutputMode.ofOptions (terminal : Bool) (o : Options) : OutputMode :=
  if o.quiet then .quiet
  else if o.json then .json
  else if o.noJson || terminal then .text
  else .json

structure Report where
  status : Nat
  stdout : String
  stderr : String
  deriving DecidableEq, Repr

/-- A text as a line. -/
def asLine (text : String) : String := text ++ "\n"

/-- Texts as lines. -/
def asLines (texts : List String) : String := String.join (texts.map asLine)

namespace Answer

def resetText : String := "Configuration reset to defaults"

/-- The result in a reply; a reset and a script are printed as they are. -/
def result? : Answer → Option Json
  | .tokens source ts =>
    some (.object [
      ("source", .string source),
      ("tokens", .array (ts.map fun t => (Listing.ofToken t).toJson))])
  | .condition c =>
    some (.object [
      ("source", .string c.source),
      ("postfix", .array (c.steps.map fun s => (Listing.ofStep s).toJson)),
      ("properties", .array (c.properties.map .string))])
  | .verdict source name subject instances result =>
    some (.object ([("source", .string source)] ++
      (match name with
        | some name => [("condition", .string name)]
        | none => []) ++
      [("subject", .string subject), ("instances", .number (.integer instances)),
        ("result", .bool result)]))
  | .settings s => some s.toJson
  | .path p => some (.object [("path", .string p)])
  | .changed key value => some (.object [("key", .string key), ("value", .string value)])
  | .valid p => some (.object [("path", .string p), ("valid", .bool true)])
  | .reset | .script _ => none

/-- The answer for people. -/
def text : Answer → String
  | .tokens _ ts => asLines (ts.map fun t => (Listing.ofToken t).line)
  | .condition c =>
    asLines (c.text ::
      if c.properties = [] then [] else ["properties: " ++ ", ".intercalate c.properties])
  | .verdict _ _ _ _ result => asLine (Operand.bool result).text
  | .settings s => asLine (s.toJson.pretty 0)
  | .path p => asLine p
  | .changed key value => asLine ("Set " ++ key ++ " = " ++ value)
  | .reset => asLine resetText
  | .valid p => asLine ("✓ Configuration is valid: " ++ p)
  | .script shell => shell.completionScript

/-- Whether an answer is printed in quiet mode too. -/
def isLoud : Answer → Bool
  | .settings _ | .path _ | .valid _ | .script _ => true
  | _ => false

/-- What is printed of an answer. -/
def stdout (mode : OutputMode) (a : Answer) : String :=
  match mode with
  | .text => a.text
  | .json =>
    match a.result? with
    | some result => asLine (resultReply result).compact
    | none => a.text
  | .quiet => if a.isLoud then a.text else ""

end Answer

namespace Failure

/-- The defects as one text. -/
def details? : Failure → Option String
  | .defects _ ds => some ("\n".intercalate (ds.map (·.message)))
  | _ => none

def reply (f : Failure) : ErrorReply where
  status := f.status
  message := f.message
  suggestions := f.suggestions
  details := f.details?

/-- Whether a failure becomes a reply in JSON mode. -/
def isReplied : Failure → Bool
  | .general _ => false
  | _ => true

/-- The list of defects, which is printed like an answer. -/
def listing : Failure → String
  | .defects path ds =>
    asLines (["✗ Configuration has " ++ toString ds.length ++ " error(s): " ++ path, ""] ++
      ds.map fun d => "  - " ++ d.message)
  | _ => ""

/-- The message as an error, with the names that may have been meant. -/
def errorText (f : Failure) : String :=
  asLines (("Error: " ++ f.message) ::
    if f.suggestions = [] then [] else ["Did you mean: " ++ ", ".intercalate f.suggestions ++ "?"])

def report (mode : OutputMode) (f : Failure) : Report :=
  if mode = .json ∧ f.isReplied then ⟨f.status, asLine f.reply.toJson.compact, ""⟩
  else ⟨f.status, f.listing, f.errorText⟩

end Failure

/-- The report on what a command came to. -/
def Report.of (mode : OutputMode) : Except Failure Answer → Report
  | .ok a => ⟨0, a.stdout mode, ""⟩
  | .error f => f.report mode

end FieldGuard
