import FieldGuard.Json.Value

/-! Replies to other programs: one JSON-RPC 2.0 object with a result or an error. -/
namespace FieldGuard

/-- What a reply with an error says. -/
structure ErrorReply where
  /-- The exit status that goes with the error. -/
  status : Int
  message : String
  suggestions : List String
  details : Option String
  deriving DecidableEq, Repr

namespace ErrorReply

/-- Error codes count down from the start of the range that is free for applications. -/
def code (r : ErrorReply) : Int := -32000 - r.status

/-- Suggestions and details, where there are some. -/
def data (r : ErrorReply) : List (String × Json) :=
  (if r.suggestions = [] then [] else [("suggestions", .array (r.suggestions.map .string))]) ++
    match r.details with
    | some details => [("details", .string details)]
    | none => []

def toJson (r : ErrorReply) : Json :=
  .object [
    ("jsonrpc", .string "2.0"),
    ("error", .object ([("code", .number (.integer r.code)), ("message", .string r.message)] ++
      if r.data.isEmpty then [] else [("data", .object r.data)])),
    ("id", .null)]

end ErrorReply

/-- The reply with a result. -/
def resultReply (result : Json) : Json :=
  .object [("jsonrpc", .string "2.0"), ("result", result), ("id", .null)]

end FieldGuard
