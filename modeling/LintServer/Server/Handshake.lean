import LintServer.Server.Event

/-!
# Handshakes

The editor opens with a handshake, which loads the engine for the workspace. A server that is
ready stays as it is; otherwise the handshake records the workspace its parameters tell of, loads
the engine, and leaves the server ready or failed.
-/

namespace LintServer

/-- What the editor says when it opens. -/
structure Handshake.Params where
  rootUrl : Option Url
  /-- The URLs of the workspace's folders, if it names any. -/
  folders : List Url
  rootPath : Option Path
  /-- Whether it can be asked to watch files, if it says so. -/
  dynamicRegistration : Option Bool
deriving DecidableEq, Repr

/-- The workspace a handshake tells of. The root is the file its URL names, or that of the first
folder where it has no URL of its own; failing that, it is the path given beside it. -/
def Workspace.ofHandshake (params : Handshake.Params) : Workspace where
  root := ((params.rootUrl.or params.folders.head?).bind Url.filePath?).or params.rootPath
  dynamicWatch := params.dynamicRegistration.getD false

/-- How far a handshake has come. -/
inductive Handshake
  | checking (params : Handshake.Params)
  | recording (params : Handshake.Params)
  | calling (workspace : Workspace)
  | loading (workspace : Workspace)
  | concluding (result : Except LoadError Engine)

/-- The phase a finished load leaves the server in. -/
def Phase.ofLoad : Except LoadError Engine → Phase
  | .ok engine => .ready engine
  | .error e => .failed e.retry

/-- What follows a step of a handshake. -/
inductive Handshake.Next
  | goOn (handshake : Handshake)
  | answer (result : Except LoadError Unit)

/-- **One step of a handshake.** -/
def Handshake.step (shared : Shared) (task : Nat) (answer : Answer) :
    Handshake → Option (Shared × Handshake.Next × List Event)
  | .checking params =>
    match answer with
    | .proceed =>
      if shared.phase.isReady then some (shared, .answer (.ok ()), [])
      else some ({ shared with phase := .initializing }, .goOn (.recording params), [])
    | _ => none
  | .recording params =>
    match answer with
    | .proceed =>
      let workspace := .ofHandshake params
      some ({ shared with workspace }, .goOn (.calling workspace), [])
    | _ => none
  | .calling workspace =>
    match answer with
    | .proceed => some (shared, .goOn (.loading workspace), [.loading task workspace.root])
    | _ => none
  | .loading _ =>
    match answer with
    | .loaded result =>
      some (shared, .goOn (.concluding (result.map fun name => ⟨name, task⟩)), [])
    | _ => none
  | .concluding result =>
    match answer with
    | .proceed =>
      some ({ shared with phase := .ofLoad result }, .answer (result.map fun _ => ()), [])
    | _ => none

end LintServer
