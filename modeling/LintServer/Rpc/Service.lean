import LintServer.Rpc.Message
import LintServer.Rpc.Intent
import LintServer.Scenario

/-!
# The service around the server

The editor talks to the server in messages. The service reads them, lets through what the server
may see at that point of its life (`Gate`), and turns what the server does into messages to the
editor. A request that is still being served can be taken back.
-/

namespace LintServer.Rpc

/-- Which messages are let through. A handshake that ends sets the gate anew, whatever has happened
in between. -/
inductive Gate
  | uninitialized
  | initialized
  | shutDown
  | exited
deriving DecidableEq, Repr

/-- Something the editor gets. -/
inductive Output
  /-- A message of the editor has been dealt with: the answer, if there is one. -/
  | reply (call : Nat) (response : Option Response)
  /-- A message came after the end. -/
  | gone (call : Nat)
  | publish (url : Url) (diagnostics : List Diagnostic)
  | message (value : Json)

/-- A message that is being dealt with by a task of the server. -/
structure OpenCall where
  call : Nat
  task : Nat
  id : Option Id
  isHandshake : Bool
deriving DecidableEq, Repr

/-- A service. -/
structure Service where
  scenario : Scenario
  gate : Gate
  /-- Whether the editor still gets messages of the server's own. -/
  isHeard : Bool
  /-- How many messages have come. -/
  calls : Nat
  /-- The messages that are being dealt with. -/
  pending : List OpenCall
  /-- How many requests were sent to the editor. -/
  requests : Nat
  /-- What the editor got, the latest first. -/
  sent : List Output

namespace Service

/-- A service to which nothing was said. -/
def initial (config : Config) : Service := ⟨.initial config, .uninitialized, true, 0, [], 0, []⟩

/-- Sends something to the editor. -/
def emit (service : Service) (output : Output) : Service :=
  { service with sent := output :: service.sent }

/-- Sends a message of the server's own, while the editor listens. -/
def tell (service : Service) (output : Output) : Service :=
  if service.isHeard then service.emit output else service

/-- Whether the gate lets the server's diagnostics and requests out. -/
def letsOut (service : Service) : Bool :=
  service.gate = .initialized || service.gate = .shutDown

/-- The answer to a message whose task has ended. -/
def answer (id : Option Id) (outcome : Outcome) : Option Response :=
  id.map fun id =>
    match outcome with
    | .handshake (.ok _) => .result id handshakeResult
    | .handshake (.error e) => .error id (handshakeError e)
    | _ => .result id .null

/-- The gate after a task has ended: a handshake opens it or closes it. -/
def gateAfter (gate : Gate) : Outcome → Gate
  | .handshake (.ok _) => .initialized
  | .handshake (.error _) => .uninitialized
  | _ => gate

/-- A task has ended. If a message was waiting for it, the message is answered. -/
def conclude (service : Service) (task : Nat) (outcome : Outcome) : Service :=
  match service.pending.find? fun p => p.task = task with
  | none => service
  | some p =>
    { service with
      gate := gateAfter service.gate outcome
      pending := service.pending.filter fun q => q.task != task }.emit
      (.reply p.call (answer p.id outcome))

/-- Something has happened in the server. -/
def observe (service : Service) : Event → Service
  | .published _ url diagnostics =>
    if service.letsOut then service.tell (.publish url diagnostics) else service
  | .shown _ text => service.tell (.message (showMessage text))
  | .noted level text => service.tell (.message (noteMessage level text))
  | .asked _ globs =>
    let message := Output.message (watchRequest service.requests globs)
    { if service.letsOut then service.tell message else service with
      requests := service.requests + 1 }
  | .ended task outcome => service.conclude task outcome
  | _ => service

/-- The service after the server has moved on. -/
def follow (service : Service) (scenario : Scenario) : Service :=
  let seen := service.scenario.server.journal.length
  let journal := scenario.server.journal
  ((journal.take (journal.length - seen)).reverse).foldl observe { service with scenario }

/-- The surroundings as the server finds them: an editor that does not hear agrees to nothing. -/
def surroundings (service : Service) (script : Script) : Script :=
  if service.isHeard && service.letsOut then script else { script with agrees := some false }

/-- Hands a request to the server. -/
def start (script : Script) (service : Service) (call : Nat) (id : Option Id) (isHandshake : Bool)
    (request : Request) : Service :=
  let entry : OpenCall := ⟨call, service.scenario.server.fresh, id, isHandshake⟩
  { service with pending := service.pending ++ [entry] }.follow
    (service.scenario.request (service.surroundings script) request)

/-- Answers a message at once. -/
def reply (service : Service) (call : Nat) (response : Option Response) : Service :=
  service.emit (.reply call response)

/-- Answers a message with an error, if it is a request. -/
def refuse (service : Service) (call : Nat) (id : Option Id) (e : Error) : Service :=
  service.reply call (id.map fun id => .error id e)

/-- Gives up the tasks of some messages and answers that they were taken back. -/
def cancel (service : Service) (given : List OpenCall) : Service :=
  given.foldl
    (fun service p =>
      { service with
        scenario := service.scenario.abandon p.task
        gate := if p.isHandshake then .uninitialized else service.gate
        pending := service.pending.filter fun q => q.task != p.task }.refuse p.call p.id .canceled)
    service

/-- Whether a request with this identifier is being served. -/
def isTaken (service : Service) (id : Id) : Bool := service.pending.any fun p => p.id = some id

/-- The request a message takes back. -/
def canceledId? (params : Option Json) : Option Id :=
  match params.bind fun v => (v.slots ["id"]).bind List.head? with
  | some (some (.string s)) => some (.text s)
  | some (some v) => (v.int32?).map fun n => .number (Int64.ofInt n.toInt)
  | _ => none

/-- The handshake. There is none after one that succeeded. -/
def handshake (script : Script) (service : Service) (call : Nat) (m : Message) : Service :=
  if service.gate ≠ .uninitialized then service.refuse call m.id .invalidRequest
  else
    match m.id with
    | none => service.reply call none
    | some id =>
      if service.isTaken id then service.refuse call m.id .invalidRequest
      else
        match readParams .initializeParams m.params with
        | .error text => service.refuse call m.id (.invalidParams text)
        | .ok v => start script service call (some id) true (.handshake (handshakeParams v))

/-- The error for a request that comes too early or too late, if it does. -/
def closed? : Gate → Option Error
  | .initialized => none
  | .shutDown | .exited => some .invalidRequest
  | .uninitialized => some .notInitialized

/-- The end of service: from now on nothing but the end is let through. -/
def shutDown (script : Script) (service : Service) (call : Nat) (m : Message) : Service :=
  match closed? service.gate with
  | some e => service.refuse call m.id e
  | none =>
    let service := { service with gate := .shutDown }
    match m.id, m.params with
    | none, _ => service.reply call none
    | some id, params =>
      if service.isTaken id then service.refuse call m.id .invalidRequest
      else
        match params with
        | some v => service.refuse call m.id (.invalidParams ("Unexpected params: " ++ v.render))
        | none => start script service call (some id) false .stop

/-- The end: all open requests are taken back, and the editor hears no more from the server. -/
def exit (service : Service) (call : Nat) : Service :=
  let service := { service with gate := .exited, isHeard := false }
  (service.cancel (service.pending.filter fun p => p.id.isSome)).reply call none

/-- A method the server serves or at least knows. -/
def known (script : Script) (service : Service) (call : Nat) (m : Message) : Option Service :=
  match served.lookup m.method, Shape.unserved.lookup m.method with
  | some (shape, request?), _ =>
    some (match closed? service.gate, m.id with
    | some e, _ => service.refuse call m.id e
    | none, some _ => service.refuse call m.id .invalidRequest
    | none, none =>
      match (readParams shape m.params).toOption.bind request? with
      | none => service.reply call none
      | some request => start script service call none false request)
  | none, some shape =>
    some (match closed? service.gate, readParams shape m.params with
    | some e, _ => service.refuse call m.id e
    | none, params =>
      if m.id.any service.isTaken then service.refuse call m.id .invalidRequest
      else
        match params with
        | .error text => service.refuse call m.id (.invalidParams text)
        | .ok _ => service.refuse call m.id (.methodNotFound none))
  | none, none =>
    if ignored.contains m.method then
      some (match closed? service.gate with
      | some e => service.refuse call m.id e
      | none => service.refuse call m.id .invalidRequest)
    else none

/-- A message about a request that is being served: it may be taken back. -/
def takeBack (service : Service) (call : Nat) (m : Message) : Service :=
  if m.id.isSome then service.refuse call m.id .invalidRequest
  else
    let service := service.reply call none
    match canceledId? m.params with
    | none => service
    | some id => service.cancel (service.pending.filter fun p => p.id = some id)

/-- **A message of the editor.** -/
def send (script : Script) (service : Service) (m : Message) : Service :=
  let call := service.calls
  let service := { service with calls := call + 1 }
  if service.gate = .exited then service.emit (.gone call)
  else if m.method = "initialize" then handshake script service call m
  else if m.method = "shutdown" then shutDown script service call m
  else if m.method = "exit" then service.exit call
  else if m.method = "$/cancelRequest" then service.takeBack call m
  else
    match service.known script call m with
    | some service => service
    | none =>
      if m.method.startsWith "$/" then service.reply call none
      else service.refuse call m.id (.methodNotFound (some m.method))

/-- The tasks that asked the editor to watch files, in the order of their requests. -/
def askers (service : Service) : List Nat :=
  service.scenario.server.journal.reverse.filterMap fun e =>
    match e with
    | .asked task _ => some task
    | _ => none

/-- **An answer of the editor** to a request of the server. Requests are numbered from zero, and
the editor agrees by an empty result. -/
def hear (script : Script) (service : Service) (id : Id) (result : Option Json) : Service :=
  let task? :=
    match id with
    | .number n => if 0 ≤ n then service.askers[n.toInt.toNat]? else none
    | _ => none
  task?.elim service fun task =>
    service.follow
      (service.scenario.agree (service.surroundings script) task (result.any Json.isNull))

/-- A key is released. -/
def release (script : Script) (service : Service) (key : String) : Service :=
  service.follow (service.scenario.release (service.surroundings script) key)

end Service

end LintServer.Rpc
