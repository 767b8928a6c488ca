import LintServer.Server.Batch

/-!
# Watching files

When the editor does not watch files, the server does. The paths its watch reports arrive in a
queue. A loop takes one, throws away what has arrived by then, and validates all documents: one
batch covers a burst of changes.
-/

namespace LintServer

/-- Where the loop stands. -/
inductive LoopStage
  | waiting
  | draining
  | validating (batch : Batch)

/-- A loop, the changes that wait for it, and how many batches it has finished. -/
structure WatchLoop where
  queue : List Path
  stage : LoopStage
  round : Nat

namespace WatchLoop

/-- A loop that nothing has reached yet. -/
def start : WatchLoop := ⟨[], .waiting, 0⟩

/-- A change arrives. -/
def push (loop : WatchLoop) (path : Path) : WatchLoop := { loop with queue := loop.queue ++ [path] }

/-- **One step of a loop.** A loop that waits with nothing in its queue cannot move, unless the
watch is over (`alive` is false): then it ends. -/
def step (shared : Shared) (task place : Nat) (answer : Answer) (alive : Bool)
    (loop : WatchLoop) : Option (Option WatchLoop × List Event) :=
  match loop.stage, loop.queue with
  | .waiting, [] =>
    match answer with
    | .proceed => if alive then none else some (none, [])
    | _ => none
  | .waiting, _ :: queue =>
    match answer with
    | .proceed => some (some { loop with queue, stage := .draining }, [])
    | _ => none
  | .draining, _ :: queue =>
    match answer with
    | .proceed => some (some { loop with queue, stage := .draining }, [])
    | _ => none
  | .draining, [] =>
    match answer with
    | .proceed => some (some { loop with stage := .validating .listing }, [])
    | _ => none
  | .validating batch, _ =>
    (batch.step shared task loop.round place answer).map fun (next, events) =>
      match next with
      | some batch => (some { loop with stage := .validating batch }, events)
      | none => (some { loop with stage := .waiting, round := loop.round + 1 }, events)

end WatchLoop

end LintServer
