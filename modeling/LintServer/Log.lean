/-!
# Log lines

What the library notes down about its own work, apart from what it tells the editor.
-/

namespace LintServer

/-- How important a log line is. -/
inductive LogLevel
  | debug
  | info
deriving DecidableEq, Repr

/-- The name of a level. -/
def LogLevel.name : LogLevel → String
  | .debug => "DEBUG"
  | .info => "INFO"

/-- One line of the log. -/
structure LogLine where
  level : LogLevel
  text : String
deriving DecidableEq, Repr

end LintServer
