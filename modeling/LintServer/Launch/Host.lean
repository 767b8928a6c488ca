import LintServer.Engine.Node
import LintServer.Rpc.Connection

/-!
# Launching the server

From the launch arguments to a server on a byte stream whose engine runs in child processes. The
machine it runs on is a value: a file tree, what started children leave behind, and whether the
editor agrees to watch files.
-/

namespace LintServer.Launch

/-- The machine a server runs on. -/
structure Host where
  tree : FileTree
  /-- What a started child leaves behind. -/
  child : NodeEngine → BridgeMode → ChildOutput
  agrees : Option Bool

/-- A running server, with the engines it has loaded, by the task that loaded them. -/
structure Running where
  connection : Rpc.Connection
  loader : NodeLoader
  engines : List (Nat × NodeEngine)

/-- How a launch ends before anything is served. -/
inductive Ending
  | arguments (error : ArgumentError)
  | config (message : String)
deriving DecidableEq, Repr

/-- The exit status of the program. -/
def Ending.exitCode : Ending → UInt32
  | .arguments .displayHelp | .arguments .displayVersion => 0
  | .arguments _ => 2
  | .config _ => 1

/-- **Launches a server.** -/
def launch (arguments : List String) (environment : Environment) : Except Ending Running :=
  match Arguments.parse arguments with
  | .error e => .error (.arguments e)
  | .ok arguments =>
    match Config.ofArguments arguments environment with
    | .error message => .error (.config message)
    | .ok config => .ok ⟨.initial config, .ofConfig config, []⟩

namespace Host

/-- Runs a probe. -/
def probe (host : Host) (engine : NodeEngine) : Except StartError ChildOutput :=
  ((engine.command .probe).start host.tree).map fun _ => host.child engine .probe

/-- What a text meets with: a child is started for it, and its outcome is known when it ends. -/
def lint (host : Host) (engine : NodeEngine) (text : String) (options : Json) : Reaction :=
  match engine.accept (fun c => c.start host.tree) text options with
  | .error e => .refuse e
  | .ok _ => .take (NodeEngine.finish (.finished (host.child engine .lint))) none

end Host

namespace Running

/-- The journal of the server. -/
def journal (running : Running) : List Event :=
  running.connection.service.scenario.server.journal

/-- The engines that a service has loaded, those it loaded since `running` first. -/
def enginesOf (running : Running) (host : Host) (service : Rpc.Service) : List (Nat × NodeEngine) :=
  let journal := service.scenario.server.journal
  let fresh := journal.take (journal.length - running.journal.length)
  let loaded := fresh.filterMap fun e =>
    match e with
    | .loading task root => (running.loader.engine? host.tree root).map fun engine => (task, engine)
    | _ => none
  loaded ++ running.engines

/-- What a service finds around it. -/
def script (running : Running) (host : Host) (service : Rpc.Service) : Script where
  lint engine text options :=
    ((running.enginesOf host service).lookup engine.load).elim (.refuse (.lint none)) fun e =>
      host.lint e text options
  load _ root := ((running.loader.load host.tree root host.probe).map NodeEngine.name, none)
  agrees := host.agrees
  watch root := FileWatch.start host.tree root

/-- Bytes arrive. -/
def feed (running : Running) (host : Host) (bytes : List UInt8) : Running :=
  let connection := running.connection.feed (running.script host) bytes
  { running with connection, engines := running.enginesOf host connection.service }

/-- Files change. -/
def filesChange (running : Running) (host : Host) (changed : List Location) : Running :=
  let service := running.connection.service
  let scenario := service.scenario.filesChange (running.script host service) changed
  { running with connection := { running.connection with service := service.follow scenario } }

/-- What the editor got, in order. -/
def outputs (running : Running) : List Rpc.Output := running.connection.service.sent.reverse

end Running

end LintServer.Launch
