import LintServer.Diagnostic
import LintServer.Engine.Error
import LintServer.Server.Shared

/-!
# What happens in a server

A server acts step by step. In some steps it needs an answer from its surroundings (`Answer`): in
which order documents are gone through, whether the engine takes a text or refuses it, how a lint
call or a load ends, whether the editor agrees to watch files. Whatever a step does that others
can see, and what a validation took from the shared state, is written into the server's journal as
an `Event`.
-/

namespace LintServer

/-- One validation: the task it belongs to, which of that task's batches, and its place there. -/
structure Origin where
  task : Nat
  round : Nat
  place : Nat
deriving DecidableEq, Repr

/-- What a validation took from the shared state before it called the engine. -/
structure Snapshot where
  engine : Engine
  text : String
  settings : Settings

/-- What a validation found out. -/
inductive Finding
  /-- Validation is switched off. -/
  | disabled
  | report (value : Json)
  | failure (error : EngineError)

/-- What the surroundings say when a task moves on. -/
inductive Answer
  /-- Nothing has to be said. -/
  | proceed
  /-- The open documents, in the order in which a batch goes through them. -/
  | listed (urls : List Url)
  /-- The engine takes the text. -/
  | taken
  /-- The engine does not take the text. -/
  | refused (error : EngineError)
  /-- A lint call ends. -/
  | linted (result : Except EngineError Json)
  /-- A load ends; an engine has a name. -/
  | loaded (result : Except LoadError String)
  /-- The editor agrees to watch files, or does not. -/
  | registered (agreed : Bool)
  /-- A file watch starts, or does not, for some reason. -/
  | watching (result : Except FileWatch.Refusal FileWatch)

/-- How important a note to the editor is. -/
inductive NoteLevel
  | warning
  | info
deriving DecidableEq, Repr

/-- The number of a level in the editor's protocol. -/
def NoteLevel.number : NoteLevel → Nat
  | .warning => 2
  | .info => 3

/-- How a task ended. -/
inductive Outcome
  | done
  | handshake (result : Except LoadError Unit)
  | validation (failure : Option EngineError)

/-- An entry of the journal. -/
inductive Event
  /-- A validation has read everything it needs. -/
  | took (origin : Origin) (url : Url) (snapshot : Snapshot)
  /-- The engine is asked to lint a text. -/
  | called (origin : Origin) (engine : Engine) (text : String) (options : Json)
  /-- The engine did not take the text. -/
  | refused (origin : Origin) (error : EngineError)
  /-- A lint call has ended. -/
  | answered (origin : Origin) (finding : Finding)
  /-- The editor is told what to show for a document: by a validation, or, without origin,
  because the document was closed. -/
  | published (origin : Option Origin) (url : Url) (diagnostics : List Diagnostic)
  /-- The user is told of a failure. -/
  | shown (task : Nat) (message : String)
  /-- The editor is given a note for its log. -/
  | noted (level : NoteLevel) (text : String)
  /-- The editor is asked to watch files. -/
  | asked (task : Nat) (globs : List String)
  /-- The engine is being loaded for a workspace. -/
  | loading (task : Nat) (root : Option Path)
  /-- A task has ended. -/
  | ended (task : Nat) (outcome : Outcome)

end LintServer
