import LintServer.Launch.Arguments
import LintServer.Text.Blank
import LintServer.Text.Cut

/-!
# Configuration

What the server knows from its launch: the arguments, and the directories in which packages are
looked for after the workspace.
-/

namespace LintServer

/-- What the server is told at its launch. -/
structure Config where
  engine : String
  node : String
  moduleDirs : List Path
  watch : List String
  logLevel : String
deriving DecidableEq, Repr

/-- A value in the environment: bytes, which need not be UTF-8. -/
structure EnvironmentValue where
  bytes : List UInt8
deriving DecidableEq, Repr

/-- A text as a value. -/
def EnvironmentValue.ofString (s : String) : EnvironmentValue := ⟨Utf8.ofString s⟩

instance : Coe String EnvironmentValue := ⟨EnvironmentValue.ofString⟩

instance : Coe (Option String) (Option EnvironmentValue) := ⟨Option.map EnvironmentValue.ofString⟩

/-- What counts of the environment: a variable with a list of directories, one with the home, and
the home of the account, which counts when the variable is not set or empty. -/
structure Environment where
  nodePath : Option EnvironmentValue
  home : Option EnvironmentValue
  accountHome : Option EnvironmentValue
deriving DecidableEq, Repr

/-- The home. -/
def Environment.home? (environment : Environment) : Option Path :=
  ((environment.home.filter (·.bytes ≠ [])).or environment.accountHome).map fun v => ⟨v.bytes⟩

namespace Config

/-- The configuration without any arguments or environment. -/
def default : Config := ⟨"standard", "node", [], ["package.json"], "info"⟩

/-- What is said when no package is named. -/
def blankEngine : String := "--engine must name a package"

/-- The colon. -/
def colon : UInt8 := 58

/-- The entries of a list of directories between colons; empty ones do not count. -/
def entries (list : EnvironmentValue) : List Path :=
  ((Text.cut (· == colon) list.bytes).filter (· ≠ [])).map Path.mk

/-- The directories packages are looked for in: those given, those of the environment, and two in
the home. -/
def searchDirs (given : List Path) (environment : Environment) : List Path :=
  given ++ environment.nodePath.elim [] entries
    ++ environment.home?.toList.flatMap fun h => [h.child ".node_modules", h.child ".node_libraries"]

/-- The configuration for some arguments. A blank name is no package. -/
def ofArguments (arguments : Launch.Arguments) (environment : Environment) :
    Except String Config :=
  if Text.isBlankText arguments.engine then .error blankEngine
  else
    .ok ⟨arguments.engine, arguments.node, searchDirs arguments.moduleDirs environment,
      arguments.watch, arguments.logLevel⟩

/-- The patterns an editor is asked to watch. -/
def watchGlobs (config : Config) : List String := config.watch.map ("**/" ++ ·)

end Config

end LintServer
