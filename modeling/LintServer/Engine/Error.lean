import LintServer.Json.Basic

/-!
# What can go wrong with the linter

A linter is called an engine where it is loaded and asked. Linting one text can fail
(`EngineError`), and so can loading the engine (`LoadError`).
-/

namespace LintServer

/-- Why a text was not linted. -/
inductive EngineError
  /-- The options are neither an object nor null; `kind` says what they are. -/
  | invalidOptions (kind : String)
  /-- The program could not be started. -/
  | spawn (program reason : String)
  /-- The program could not be talked to. -/
  | io (reason : String)
  /-- What the program wrote is no reply. -/
  | protocol (detail : String)
  /-- The engine took the text and reported a failure. -/
  | lint (message : Option String)
  /-- The engine threw instead of taking the text. -/
  | raised (message : Option String)
deriving DecidableEq, Repr

namespace EngineError

/-- The failure in words. -/
def text : EngineError → String
  | .invalidOptions kind => "Invalid options: expected an object but got " ++ kind
  | .spawn program reason => "Failed to start " ++ program ++ ": " ++ reason
  | .io reason => "I/O error while talking to the engine: " ++ reason
  | .protocol detail => "Malformed engine reply: " ++ detail
  | .lint message => message.getD "engine failure"
  | .raised message => message.getD "engine raised"

/-- What the user is told. A failure the engine itself reported may come without words. -/
def message? : EngineError → Option String
  | .lint message | .raised message => message
  | other => some other.text

/-- Whether the engine never took the text. Then nothing is published, and what was shown
before stays. -/
def isRaised : EngineError → Bool
  | .invalidOptions _ | .spawn _ _ | .raised _ => true
  | .io _ | .protocol _ | .lint _ => false

end EngineError

/-- Why the engine could not be loaded. -/
inductive LoadError
  /-- No package of that name is there. -/
  | notFound (name : String)
  /-- The package does not load. -/
  | unloadable (name program reason : String)
  /-- The package loads but has no function to lint texts. -/
  | missingLintText (name : String)
deriving DecidableEq, Repr

namespace LoadError

/-- The failure in words. -/
def text : LoadError → String
  | .notFound name =>
    "Failed to load the " ++ name ++ " library. Please install " ++ name
      ++ " in your workspace folder using 'npm install " ++ name ++ "' and then press Retry."
  | .unloadable name program reason =>
    "Failed to load the " ++ name ++ " library. Loading it with '" ++ program ++ "' failed: "
      ++ reason ++ ". Please check your installation and then press Retry."
  | .missingLintText name =>
    "The " ++ name ++ " library doesn't export a lintText property."

/-- Whether trying again can help. -/
def retry : LoadError → Bool
  | .missingLintText _ => false
  | _ => true

end LoadError

end LintServer
