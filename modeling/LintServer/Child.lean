import LintServer.FileTree

/-!
# Child processes

What is asked of the system when a program is started, and what can come of it: it does not
start, or it is gone before it has read its input, or it ends with a status and some output.
-/

namespace LintServer

/-- Why a program did not start. -/
inductive StartError
  /-- A text handed to the system has a zero byte in it. -/
  | zeroByte
  | system (error : SystemError)
deriving DecidableEq, Repr

/-- The failure in words. -/
def StartError.text : StartError → String
  | .zeroByte => "nul byte found in provided data"
  | .system e => e.text

/-- A signal a process can end by. -/
def signals : List (Nat × String) :=
  [(1, "HUP"), (2, "INT"), (3, "QUIT"), (4, "ILL"), (5, "TRAP"), (6, "ABRT"), (7, "BUS"),
    (8, "FPE"), (9, "KILL"), (10, "USR1"), (11, "SEGV"), (12, "USR2"), (13, "PIPE"), (14, "ALRM"),
    (15, "TERM"), (16, "STKFLT"), (17, "CHLD"), (18, "CONT"), (19, "STOP"), (20, "TSTP"),
    (21, "TTIN"), (22, "TTOU"), (23, "URG"), (24, "XCPU"), (25, "XFSZ"), (26, "VTALRM"),
    (27, "PROF"), (28, "WINCH"), (29, "IO"), (30, "PWR"), (31, "SYS")]

/-- A signal in words. -/
def signalText (number : Nat) : String :=
  "signal: " ++ toString number ++ ((signals.lookup number).elim "" fun name => " (SIG" ++ name ++ ")")

/-- How a process ended. -/
inductive ExitStatus
  | code (value : Nat)
  | signal (number : Nat)
  /-- A signal, after which the memory of the process was saved. -/
  | dumped (number : Nat)
deriving DecidableEq, Repr

/-- The status in words. -/
def ExitStatus.text : ExitStatus → String
  | .code n => "exit status: " ++ toString n
  | .signal n => signalText n
  | .dumped n => signalText n ++ " (core dumped)"

/-- Whether a process ended well. -/
def ExitStatus.success (status : ExitStatus) : Bool := status == .code 0

/-- What a process left behind. -/
structure ChildOutput where
  status : ExitStatus
  stdout : List UInt8
  stderr : List UInt8
deriving DecidableEq, Repr

/-- How talking to a started process ended. -/
inductive Conversation
  /-- The input could not be written. -/
  | broken (error : SystemError)
  | finished (output : ChildOutput)
deriving DecidableEq, Repr

/-- A program to start. Without a directory it runs in the current one. -/
structure Command where
  program : String
  arguments : List String
  environment : List (String × Path)
  directory : Option Path
deriving DecidableEq, Repr

namespace Command

/-- Whether something handed to the system has a zero byte in it. -/
def hasZeroByte (c : Command) : Bool :=
  c.program.toList.contains '\x00' || c.environment.any (fun e => e.2.bytes.contains 0)
    || c.directory.any (fun d => d.bytes.contains 0)

/-- The directory a command runs in. -/
def workingDirectory (c : Command) (tree : FileTree) : Except StartError Location :=
  match c.directory with
  | none => .ok tree.current
  | some dir =>
    match tree.locate dir with
    | .error e => .error (.system e.system)
    | .ok place => if tree.isDirectoryAt place then .ok place else .error (.system .noDirectory)

/-- The error for a name that is looked for among the installed programs, of which there are
none. The names of a directory itself and of the one above it stand for directories everywhere. -/
def notInstalled (name : String) : SystemError :=
  if name = "." ∨ name = ".." then .noPermission
  else if FileTree.nameLimit < name.utf8ByteSize then .nameTooLong
  else .noEntry

/-- Looks for the program of a command, seen from the directory it runs in. A name without slash
is one of an installed program. -/
def findProgram (c : Command) (tree : FileTree) (place : Location) : Except StartError Unit :=
  if !c.program.toList.contains '/' then .error (.system (notInstalled c.program))
  else
    match tree.locateFrom place (Path.ofString c.program) with
    | .error e => .error (.system e.system)
    | .ok found =>
      if tree.node? found = some .program then .ok () else .error (.system .noPermission)

/-- Starts a command: the directory it runs in, or why it does not start. -/
def start (c : Command) (tree : FileTree) : Except StartError Location :=
  if c.hasZeroByte then .error .zeroByte
  else (c.workingDirectory tree).bind fun place => (c.findProgram tree place).map fun _ => place

end Command

end LintServer
