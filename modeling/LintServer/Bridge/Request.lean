import LintServer.Engine.Error
import LintServer.Json.Printer
import LintServer.Text.Utf8

/-!
# Requests to the bridge

A request is one JSON text with the document's text and the linter's options. Options have to be
an object; null stands for the empty one.
-/

namespace LintServer.Bridge

/-- The options a request carries, or the complaint about them. -/
def options : Json → Except EngineError Json
  | .null => .ok .empty
  | .object members => .ok (.object members)
  | other => .error (.invalidOptions other.kind)

/-- The request as a value. -/
def requestValue (text : String) (options : Json) : Json :=
  .ofMembers [("text", .string text), ("options", options)]

/-- **The bytes of a request.** -/
def request (text : String) (options : Json) : List UInt8 :=
  Utf8.encode (requestValue text options).chars

end LintServer.Bridge
