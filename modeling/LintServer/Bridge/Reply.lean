import LintServer.Child
import LintServer.Engine.Error
import LintServer.Json.Record
import LintServer.Text.Blank

/-!
# Replies of the bridge

After a text was linted the bridge writes one JSON object with one member: a report of any shape,
or a failure, which the linter either reported or threw. Nothing written at all means that the
child died, and then only its complaints are left. How the child ended does not matter.
-/

namespace LintServer.Bridge
open Json Json.Reader

/-- What the bridge says about a text. -/
inductive Reply
  | report (value : Json)
  | error (message : Option String)
  | raised (message : Option String)

/-- The kinds of replies. -/
inductive ReplyKind
  | report
  | error
  | raised
deriving DecidableEq, Repr

/-- The key of a kind. -/
def ReplyKind.key : ReplyKind → String
  | .report => "report"
  | .error => "error"
  | .raised => "raised"

/-- The kind of a key. -/
def ReplyKind.ofKey? (key : String) : Option ReplyKind :=
  [ReplyKind.report, .error, .raised].find? fun k => k.key == key

/-- The keys of all kinds. -/
def ReplyKind.keys : List String := [ReplyKind.report, .error, .raised].map ReplyKind.key

/-- A failure, of which only the message counts, if it is a text. -/
def failure : Record (Option String) where
  name := "BridgeFailure"
  field := "message"
  read := textIfAny
  absent := some none

/-- Reads what follows the key of a kind. -/
def Reply.readBody (room : Nat) (s : List UInt8) : ReplyKind → Except Fault (Reply × List UInt8)
  | .report => do
    let (v, s) ← value room s
    return (.report v, s)
  | .error => do
    let (m, s) ← failure.readFrom room s
    return (.error m, s)
  | .raised => do
    let (m, s) ← failure.readFrom room s
    return (.raised m, s)

/-- Reads the brace after the only member. -/
def Reply.close (s : List UInt8) : Except Fault (List UInt8) :=
  match skipBlank s with
  | [] => here .endOfObject []
  | b :: r => if b = 125 then .ok r else here .expectedValue (b :: r)

/-- Looks for the key of the only member: the input after its opening quote. -/
def Reply.openKey (s : List UInt8) : Except Fault (List UInt8) :=
  match skipBlank s with
  | [] => next .endOfObject []
  | b :: r =>
    if b = 34 then .ok r
    else if b = 125 then next .expectedValue (b :: r)
    else next .keyMustBeString (b :: r)

/-- Reads the only member of a reply and the closing brace. -/
def Reply.readMember (room : Nat) (s : List UInt8) : Except Fault (Reply × List UInt8) := do
  let s ← Reply.openKey s
  let (key, s) ← Reader.text s
  match ReplyKind.ofKey? key with
  | none => here (.unknownVariant key ReplyKind.keys) s
  | some kind =>
    let s ← colon s
    let (reply, s) ← Reply.readBody room s kind
    let s ← Reply.close s
    return (reply, s)

/-- Complains about a text in place of an object. -/
def Reply.refuseText (s : List UInt8) : Except Fault (Reply × List UInt8) := do
  let (key, s) ← Reader.text s
  match ReplyKind.ofKey? key with
  | none => here (.unknownVariant key ReplyKind.keys) s
  | some _ => .error ⟨.unitVariant, none⟩

/-- Reads a reply. The object of the reply takes one of the places for open objects. -/
def Reply.read (s : List UInt8) : Except Fault (Reply × List UInt8) :=
  match skipBlank s with
  | [] => next .endOfValue []
  | b :: r =>
    if b = 123 then Reply.readMember (depthLimit - 1) r
    else if b = 34 then Reply.refuseText r
    else next .expectedValue (b :: r)

/-- Reads a whole text as one reply. -/
def Reply.parse (input : List UInt8) : Except Fault Reply := do
  let (reply, rest) ← Reply.read input
  finish rest
  return reply

/-- What a child complained about, if anything. -/
def complaint (output : ChildOutput) : Option String :=
  let words := Text.trim (Utf8.lossy output.stderr)
  if words = "" then none else some words

/-- **What comes of a lint call**, once the child has ended. -/
def outcome (output : ChildOutput) : Except EngineError Json :=
  if output.stdout = [] then .error (.lint (complaint output))
  else
    match Reply.parse output.stdout with
    | .ok (.report v) => .ok v
    | .ok (.error m) => .error (.lint m)
    | .ok (.raised m) => .error (.raised m)
    | .error fault => .error (.protocol (fault.text output.stdout))

end LintServer.Bridge
