/-!
# Errors of the operating system

What the system says when it refuses something, and the number it says it with.
-/

namespace LintServer

/-- An error of the operating system. -/
structure SystemError where
  description : String
  code : Nat
deriving DecidableEq, Repr

namespace SystemError

/-- The error in words. -/
def text (e : SystemError) : String :=
  e.description ++ " (os error " ++ toString e.code ++ ")"

/-- A file or directory is missing. -/
def noEntry : SystemError := ⟨"No such file or directory", 2⟩

/-- A file may not be executed. -/
def noPermission : SystemError := ⟨"Permission denied", 13⟩

/-- A file stands where a directory should. -/
def noDirectory : SystemError := ⟨"Not a directory", 20⟩

/-- A name is longer than names may be. -/
def nameTooLong : SystemError := ⟨"File name too long", 36⟩

/-- Nobody reads what is written. -/
def brokenPipe : SystemError := ⟨"Broken pipe", 32⟩

end SystemError

end LintServer
