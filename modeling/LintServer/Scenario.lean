import LintServer.Server.Machine

/-!
# Scenarios

A scenario plays one run of a server in scripted surroundings. Tasks move in the order in which
they were woken, each as far as it can. What the surroundings answer is written in a `Script`; a
call they are to answer later is held until its key is released.
-/

namespace LintServer

/-- How the engine reacts to a text: it refuses it, or takes it and ends with a result, perhaps
only when a key is released. -/
inductive Reaction
  | refuse (error : EngineError)
  | take (result : Except EngineError Json) (hold : Option String)

/-- The surroundings of a server. -/
structure Script where
  /-- What a text and its options meet with. -/
  lint : Engine → String → Json → Reaction
  /-- How the loads end, by their number, and the keys they wait for. -/
  load : Nat → Option Path → Except LoadError String × Option String
  /-- Whether the editor agrees to watch files, if it says anything. -/
  agrees : Option Bool
  /-- What comes of watching a directory. -/
  watch : Path → Except FileWatch.Refusal FileWatch

/-- A call the surroundings have taken: where it came from, the key it waits for, and how it will
be answered. -/
structure Call where
  origin : Origin
  hold : Option String
  answer : Answer

/-- A run of a server so far. -/
structure Scenario where
  server : Server
  /-- The tasks that may be able to move, in the order in which they were woken. -/
  queue : List Nat
  /-- The calls taken so far, in their order. -/
  calls : List Call
  /-- How many loads there were. -/
  loads : Nat

namespace Scenario

/-- A run that has not begun. -/
def initial (config : Config) : Scenario := ⟨.initial config, [], [], 0⟩

/-- The answer to a call, when it is no longer held. -/
def reply? (sc : Scenario) (origin : Origin) : Option Answer :=
  ((sc.calls.find? fun c => c.origin = origin).filter fun c => c.hold.isNone).map Call.answer

/-- What a task can do next: the place that moves, the answer it gets, and the call it makes. -/
structure Choice where
  place : Nat
  answer : Answer
  call : Option Call

/-- Going on without an answer. -/
def Choice.proceed : Choice := ⟨0, .proceed, none⟩

/-- What a validation can do next. -/
def stageChoice? (script : Script) (sc : Scenario) (v : Validation) : Option Choice :=
  match v.stage with
  | .callEngine snapshot =>
    match script.lint snapshot.engine snapshot.text snapshot.settings.options with
    | .refuse e => some ⟨v.origin.place, .refused e, none⟩
    | .take result hold =>
      some ⟨v.origin.place, .taken, some ⟨v.origin, hold, .linted result⟩⟩
  | .awaitReport _ => (sc.reply? v.origin).map fun answer => ⟨v.origin.place, answer, none⟩
  | .ended _ => none
  | _ => some ⟨v.origin.place, .proceed, none⟩

/-- What a batch can do next: it goes through the documents in the order of their URLs, and the
first validation that can moves. -/
def batchChoice? (script : Script) (sc : Scenario) : Batch → Option Choice
  | .listing => some ⟨0, .listed sc.server.shared.documents.urls, none⟩
  | .validating flights =>
    flights.zipIdx.findSome? fun (v, place) =>
      if Batch.mayMove flights place v then
        (stageChoice? script sc v).map fun choice => { choice with place }
      else none
  | .showing _ => some .proceed

/-- What a task can do next. -/
def taskChoice? (script : Script) (sc : Scenario) (number : Nat) : Task → Option Choice
  | .validate v | .single v => stageChoice? script sc v
  | .batch b => batchChoice? script sc b
  | .follow ⟨_, .validating b, _⟩ => batchChoice? script sc b
  | .handshake (.calling workspace) =>
    let (result, hold) := script.load sc.loads workspace.root
    some ⟨0, .proceed, some ⟨⟨number, 0, 0⟩, hold, .loaded result⟩⟩
  | .handshake (.loading _) => (sc.reply? ⟨number, 0, 0⟩).map fun answer => ⟨0, answer, none⟩
  | .announce .awaitAgreement => script.agrees.map fun agreed => ⟨0, .registered agreed, none⟩
  | .announce (.startWatch root) => some ⟨0, .watching (script.watch root), none⟩
  | _ => some .proceed

/-- How many loads a call of a task adds. -/
def loadsIn : Option Call → Nat
  | some ⟨_, _, .loaded _⟩ => 1
  | _ => 0

/-- Takes a move and wakes the tasks it started. -/
def play (sc : Scenario) (move : Move) : Option Scenario :=
  (sc.server.step move).map fun server =>
    { sc with
      server
      queue := sc.queue ++ (List.range (server.fresh - sc.server.fresh)).map (sc.server.fresh + ·) }

/-- One move of a task, if it can make one. -/
def advance? (script : Script) (sc : Scenario) (number : Nat) : Option Scenario :=
  (sc.server.task? number).bind fun task =>
    (taskChoice? script sc number task).bind fun choice =>
      (sc.play (.advance number choice.place choice.answer)).map fun next =>
        { next with
          calls := next.calls ++ choice.call.toList
          loads := next.loads + loadsIn choice.call }

/-- Lets the woken tasks move, the first as far as it can before the next, for at most `fuel`
moves. -/
def settleWithin (script : Script) : (fuel : Nat) → Scenario → Scenario
  | 0, sc => sc
  | fuel + 1, sc =>
    match sc.queue with
    | [] => sc
    | number :: rest =>
      match sc.advance? script number with
      | some next => settleWithin script fuel next
      | none => settleWithin script fuel { sc with queue := rest }

/-- How many validations and waiting changes a task holds. -/
def load : Task → Nat
  | .batch (.validating flights) => flights.length
  | .batch (.showing messages) => messages.length
  | .follow ⟨queue, .validating (.validating flights), _⟩ => queue.length + flights.length
  | .follow ⟨queue, .validating (.showing messages), _⟩ => queue.length + messages.length
  | .follow loop => loop.queue.length
  | _ => 0

/-- More moves than can be made: each task starts at most one other, and each of these validates
at most all open documents, in a bounded number of moves each. -/
def fuel (sc : Scenario) : Nat :=
  let held := sc.server.tasks.foldl (fun n e => n + load e.2 + 1) 0
  let size := held + sc.server.shared.documents.entries.length + sc.queue.length + 1
  64 * size * size

/-- Lets everything that can move do so. -/
def settle (script : Script) (sc : Scenario) : Scenario := settleWithin script sc.fuel sc

/-- A request arrives and everything that can move does. The new task has the first free
number. -/
def request (script : Script) (sc : Scenario) (request : Request) : Scenario :=
  ((sc.play (.arrive request)).getD sc).settle script

/-- The editor answers a task that asked it to watch files. Nothing happens if the task does not
wait for that. -/
def agree (script : Script) (sc : Scenario) (number : Nat) (agreed : Bool) : Scenario :=
  (sc.play (.advance number 0 (.registered agreed))).elim sc fun next =>
    { next with queue := next.queue ++ [number] }.settle script

/-- How many calls wait for a key. -/
def waiting (sc : Scenario) (key : String) : Nat :=
  (sc.calls.filter fun c => c.hold = some key).length

/-- Releases a key: the calls that wait for it are answered, in their order. -/
def release (script : Script) (sc : Scenario) (key : String) : Scenario :=
  let woken := (sc.calls.filter fun c => c.hold = some key).map (·.origin.task)
  let calls := sc.calls.map fun c => if c.hold = some key then { c with hold := none } else c
  { sc with calls, queue := sc.queue ++ woken }.settle script

/-- Files change. The loop that follows the server's watch is woken. -/
def filesChange (script : Script) (sc : Scenario) (changed : List Location) : Scenario :=
  let server := changed.foldl Server.deliver sc.server
  let woken := (server.shared.kept.map KeptWatch.follower).toList
  { sc with server, queue := sc.queue ++ woken }.settle script

/-- A task is given up. Its calls go on for the surroundings. -/
def abandon (sc : Scenario) (number : Nat) : Scenario := (sc.play (.abandon number)).getD sc

end Scenario

end LintServer
