import LintServer.Launch.Host

/-!
# The command line

Serves an editor on standard input and output. No program is started and no file is looked at from
here, so a handshake says that the linter is not installed.
-/

open LintServer LintServer.Launch

/-- A machine without files, on which nothing can be started. -/
def bareHost : Host := ⟨⟨[], []⟩, fun _ _ => ⟨.code 1, [], []⟩, none⟩

/-- The bytes for the editor that came after the first `seen` outputs. -/
def unsent (running : Running) (seen : Nat) : ByteArray :=
  let bodies := (running.outputs.drop seen).filterMap Rpc.Output.toJson?
  ByteArray.mk (bodies.flatMap fun v => Rpc.Frame.encode (Utf8.ofString v.render)).toArray

/-- Reads and answers until the input ends or the connection is over. -/
partial def serveLoop (input output : IO.FS.Stream) (running : Running) : IO Unit := do
  let chunk ← input.read 65536
  if chunk.isEmpty then return
  let next := running.feed bareHost chunk.toList
  output.write (unsent next running.outputs.length)
  output.flush
  if next.connection.isOpen && next.connection.service.gate != .exited then
    serveLoop input output next

/-- Launches the server with the arguments of the command line. -/
def main (arguments : List String) : IO UInt32 := do
  match launch arguments ⟨← IO.getEnv "NODE_PATH", ← IO.getEnv "HOME", none⟩ with
  | .error ending =>
    match ending with
    | .config message => (← IO.getStderr).putStrLn ("Error: " ++ message)
    | .arguments _ => pure ()
    return ending.exitCode
  | .ok running =>
    serveLoop (← IO.getStdin) (← IO.getStdout) running
    return 0
