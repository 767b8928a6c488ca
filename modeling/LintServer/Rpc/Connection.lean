import LintServer.Json.Reader
import LintServer.Rpc.Frame
import LintServer.Rpc.Service

/-!
# Connections

A service at the end of a byte stream. What is no frame, no JSON or no message is complained about
once, and then the connection is over.
-/

namespace LintServer.Rpc

/-- A service and the bytes it has not understood yet. -/
structure Connection where
  service : Service
  unread : List UInt8
  isOpen : Bool

namespace Connection

/-- A connection on which nothing was said. -/
def initial (config : Config) : Connection := ⟨.initial config, [], true⟩

/-- Complains about something that is no message, and closes. -/
def fail (connection : Connection) (e : Error) : Connection :=
  let service := connection.service
  let call := service.calls
  { connection with
    service := { service with calls := call + 1 }.refuse call (some .null) e
    isOpen := false }

/-- The body of a frame. That a value is no message is noticed before anything that follows it. -/
def receive (script : Script) (connection : Connection) (body : List UInt8) : Connection :=
  if (Utf8.decode? body).isNone then connection.fail .parseError
  else
    let room := Json.Reader.depthLimit
    match Json.Reader.written room body, Json.Reader.value room body with
    | .ok (written, rest), .ok (v, _) =>
      let isEnd := (Json.Reader.finish rest).toOption.isSome
      match response? written, isMessage written, Message.ofJson? v with
      | some (id, result), _, _ =>
        if isEnd then { connection with service := connection.service.hear script id result }
        else connection.fail .parseError
      | none, true, some m =>
        if isEnd then { connection with service := connection.service.send script m }
        else connection.fail .parseError
      | _, _, _ => connection.fail .invalidRequest
    | _, _ => connection.fail .parseError

/-- Reads frames while there are any; each takes at least one byte, so the number of bytes is
`fuel` enough. A frame without body says nothing, and what follows it is looked at only when more
bytes arrive. -/
def readFrames (surroundings : Service → Script) : (fuel : Nat) → Connection → Connection
  | 0, connection => connection
  | fuel + 1, connection =>
    if !connection.isOpen then connection
    else
      match Frame.next connection.unread with
      | .incomplete => connection
      | .broken => connection.fail .parseError
      | .body [] rest => { connection with unread := rest }
      | .body body rest =>
        readFrames surroundings fuel
          ({ connection with unread := rest }.receive (surroundings connection.service) body)

/-- **Bytes arrive**; `surroundings` are those a service finds. -/
def feed (surroundings : Service → Script) (connection : Connection) (bytes : List UInt8) :
    Connection :=
  let unread := connection.unread ++ bytes
  readFrames surroundings unread.length { connection with unread }

end Connection

/-- What the editor is sent, as a value. -/
def Output.toJson? : Output → Option Json
  | .reply _ response => response.map Response.toJson
  | .gone _ => none
  | .publish url diagnostics => some (publishMessage url diagnostics)
  | .message value => some value

end LintServer.Rpc
