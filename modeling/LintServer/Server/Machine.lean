import LintServer.Server.Task

/-!
# The server as a machine

A server is the shared state, the tasks that run, and a journal of what has happened. Nothing is
said about the order in which tasks move: any task may take the next step (`Move.advance`),
requests come when they come (`Move.arrive`), and so do changes of watched files
(`Move.fileChanged`). A run is any sequence of such moves.
-/

namespace LintServer

/-- A server. -/
structure Server where
  config : Config
  shared : Shared
  /-- The running tasks, by number, in the order in which they started. -/
  tasks : List (Nat × Task)
  /-- The number of the next task. -/
  fresh : Nat
  /-- What has happened, the latest first. -/
  journal : List Event

/-- One move of a server. -/
inductive Move
  | arrive (request : Request)
  | advance (task place : Nat) (answer : Answer)
  | fileChanged (place : Location)
  /-- A task is given up where it stands. -/
  | abandon (task : Nat)

namespace Server

/-- A server before anything happened. -/
def initial (config : Config) : Server := ⟨config, .initial, [], 0, []⟩

/-- The running task of a number. -/
def task? (server : Server) (number : Nat) : Option Task := server.tasks.lookup number

/-- Puts a task in the place of the one of its number. -/
def replace (server : Server) (number : Nat) (task : Task) : Server :=
  { server with tasks := server.tasks.map fun e => if e.1 = number then (number, task) else e }

/-- Takes a task away. -/
def remove (server : Server) (number : Nat) : Server :=
  { server with tasks := server.tasks.filter fun e => e.1 != number }

/-- Writes events into the journal. -/
def record (server : Server) (events : List Event) : Server :=
  { server with journal := events.reverse ++ server.journal }

/-- Starts a task. -/
def add (server : Server) (task : Nat → Task) : Server :=
  { server with
    tasks := server.tasks ++ [(server.fresh, task server.fresh)]
    fresh := server.fresh + 1 }

/-- A loop that follows a new file watch makes it the one the server keeps. -/
def start (server : Server) : Task.Spawn → Server
  | .follow watch =>
    { server.add (fun n => .ofSpawn n (.follow watch)) with
      shared := { server.shared with kept := some ⟨watch, server.fresh⟩ } }
  | spawn => server.add fun n => .ofSpawn n spawn

/-- The server after a step of one of its tasks. -/
def after (server : Server) (number : Nat) (turn : Task.Turn) : Server :=
  let moved := { server with shared := turn.shared }.record turn.events
  let moved :=
    match turn.next with
    | .inl task => moved.replace number task
    | .inr outcome => (moved.remove number).record [.ended number outcome]
  turn.spawned.elim moved moved.start

/-- A reported path reaches the loop that follows the watch. -/
def push (path : Path) : Task → Task
  | .follow loop => .follow (loop.push path)
  | task => task

/-- A change reaches the loop that follows the watch the server keeps, if it counts. -/
def deliver (server : Server) (changed : Location) : Server :=
  match server.shared.kept with
  | none => server
  | some kept =>
    match kept.watch.report? server.config.watch changed with
    | none => server
    | some path =>
      { server with
        tasks := server.tasks.map fun e => if e.1 = kept.follower then (e.1, push path e.2) else e }

/-- **One move of the server**, if it can be made. -/
def step (server : Server) : Move → Option Server
  | .arrive request => some (server.add fun n => .ofRequest n request)
  | .advance number place answer =>
    (server.task? number).bind fun task =>
      (task.step server.config server.shared number place answer).map (server.after number)
  | .fileChanged place => some (server.deliver place)
  | .abandon number => (server.task? number).map fun _ => server.remove number

/-- The server after some moves, if all of them can be made. -/
def run (server : Server) (moves : List Move) : Option Server := moves.foldlM step server

end Server

end LintServer
