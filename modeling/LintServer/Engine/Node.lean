import LintServer.Bridge.Reply
import LintServer.Bridge.Request
import LintServer.Bridge.Script
import LintServer.Child
import LintServer.Launch.Config
import LintServer.Package

/-!
# The engine in a child process

Every lint call starts a child process of its own, hands it the request and reads what it leaves
behind. Before a package is used it is probed: a child loads it and says whether it can lint
texts.
-/

namespace LintServer

/-- A package and the program that runs it. -/
structure NodeEngine where
  node : String
  package : Package
deriving DecidableEq, Repr

/-- What a child is started for. -/
inductive BridgeMode
  | probe
  | lint
deriving DecidableEq, Repr

/-- The name of a mode in the child's environment. -/
def BridgeMode.name : BridgeMode → String
  | .probe => "probe"
  | .lint => "lint"

namespace NodeEngine

/-- The name of the engine is that of its package. -/
def name (engine : NodeEngine) : String := engine.package.name

/-- The command for a mode. It runs where the package is installed. -/
def command (engine : NodeEngine) (mode : BridgeMode) : Command where
  program := engine.node
  arguments := ["-e", Bridge.script]
  environment := [("STANDARD_LS_MODULE", engine.package.path),
    ("STANDARD_LS_MODE", Path.ofString mode.name)]
  directory := engine.package.path.parent?

/-- Takes a text: the bytes the child is sent, and where it runs. The options are looked at
before anything is started. -/
def accept (engine : NodeEngine) (start : Command → Except StartError Location) (text : String)
    (options : Json) : Except EngineError (List UInt8 × Location) :=
  (Bridge.options options).bind fun options =>
    match start (engine.command .lint) with
    | .error e => .error (.spawn engine.node e.text)
    | .ok place => .ok (Bridge.request text options, place)

/-- What comes of a text that was taken. -/
def finish : Conversation → Except EngineError Json
  | .broken e => .error (.io e.text)
  | .finished output => Bridge.outcome output

/-! ### Loading -/

/-- The answer to a probe: whether the package can lint texts. -/
def probeReply : Json.Record Bool where
  name := "ProbeReply"
  field := "lintText"
  read := fun _ s => Json.truth s
  absent := none

/-- What a probe's outcome says about the package. -/
def judge (engine : NodeEngine) (outcome : Except StartError ChildOutput) : Except LoadError Unit :=
  let unloadable := fun reason => LoadError.unloadable engine.name engine.node reason
  match outcome with
  | .error e => .error (unloadable e.text)
  | .ok output =>
    if !output.status.success then
      .error (unloadable ((Bridge.complaint output).getD ("node exited with " ++ output.status.text)))
    else
      match probeReply.parse output.stdout with
      | .error fault =>
        .error (unloadable ("unexpected probe reply: " ++ fault.text output.stdout))
      | .ok true => .ok ()
      | .ok false => .error (.missingLintText engine.name)

end NodeEngine

/-- Finds and probes the configured package. -/
structure NodeLoader where
  node : String
  name : String
  dirs : List Path
deriving DecidableEq, Repr

namespace NodeLoader

/-- The loader of a configuration. -/
def ofConfig (config : Config) : NodeLoader := ⟨config.node, config.engine, config.moduleDirs⟩

/-- The engine to probe, for a workspace. -/
def engine? (loader : NodeLoader) (files : Files) (root : Option Path) : Option NodeEngine :=
  (Package.find? files loader.name root loader.dirs).map fun package => ⟨loader.node, package⟩

/-- **Loads the engine** for a workspace; `probe` runs a child. -/
def load (loader : NodeLoader) (files : Files) (root : Option Path)
    (probe : NodeEngine → Except StartError ChildOutput) : Except LoadError NodeEngine :=
  match loader.engine? files root with
  | none => .error (.notFound loader.name)
  | some engine => (engine.judge (probe engine)).map fun _ => engine

/-- What is noted down while loading. -/
def loadLog (loader : NodeLoader) (files : Files) (root : Option Path)
    (probe : NodeEngine → Except StartError ChildOutput) : List LogLine :=
  match loader.engine? files root with
  | none => []
  | some engine =>
    engine.package.foundLine ::
      (match engine.judge (probe engine) with
      | .ok _ => [engine.package.loadedLine]
      | .error _ => [])

end NodeLoader

end LintServer
