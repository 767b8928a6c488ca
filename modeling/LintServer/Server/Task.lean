import LintServer.Server.Announcement
import LintServer.Server.Handshake
import LintServer.Server.Watching

/-!
# Tasks

Everything the server does is done by tasks: each call of the editor is one, and calls start
further tasks in the background. A task moves in steps, and in each step it looks at one part of
the shared state, or changes one, or sends one message, or takes one answer.
-/

namespace LintServer

/-- What the editor, or whoever uses the server, asks for. -/
inductive Request
  | handshake (params : Handshake.Params)
  | announce
  | stop
  /-- A document is opened, or its text replaced, and validated. -/
  | openDocument (url : Url) (document : Document)
  /-- The texts of a document after some changes, of which the last counts. -/
  | changeDocument (url : Url) (texts : List String) (version : Int32)
  | closeDocument (url : Url)
  /-- New settings, under which all documents are validated. -/
  | configure (push : Json)
  /-- Watched files have changed. -/
  | filesChanged
  /-- A document is opened without being validated. -/
  | storeDocument (url : Url) (document : Document)
  /-- New settings, without a validation. -/
  | applySettings (push : Json)
  | validate (url : Url)
  | validateSingle (url : Url)
  | validateAll

/-- A task and how far it has come. -/
inductive Task
  | store (url : Url) (document : Document) (validated : Bool)
  | forget (url : Url)
  | clear (url : Url)
  | apply (push : Json) (validated : Bool)
  | spawnBatch
  | nothing
  | handshake (handshake : Handshake)
  | announce (announcement : Announcement)
  | stop
  /-- A validation whose failure is the task's outcome. -/
  | validate (validation : Validation)
  /-- A validation whose failure is shown. -/
  | single (validation : Validation)
  | showFailure (message : String)
  | batch (batch : Batch)
  | follow (loop : WatchLoop)

namespace Task

/-- The task a request starts, as the task of a given number. -/
def ofRequest (number : Nat) : Request → Task
  | .handshake params => .handshake (.checking params)
  | .announce => .announce .readDynamic
  | .stop => .stop
  | .openDocument url document => .store url document true
  | .changeDocument url texts version =>
    texts.getLast?.elim .nothing fun text => .store url ⟨text, version⟩ true
  | .closeDocument url => .forget url
  | .configure push => .apply push true
  | .filesChanged => .spawnBatch
  | .storeDocument url document => .store url document false
  | .applySettings push => .apply push false
  | .validate url => .validate (.start ⟨number, 0, 0⟩ url)
  | .validateSingle url => .single (.start ⟨number, 0, 0⟩ url)
  | .validateAll => .batch .listing

/-- A task to start: it is given its number when it starts. -/
inductive Spawn
  | single (url : Url)
  | batch
  | follow (watch : FileWatch)

/-- The task that is started. -/
def ofSpawn (number : Nat) : Spawn → Task
  | .single url => .single (.start ⟨number, 0, 0⟩ url)
  | .batch => .batch .listing
  | .follow _ => .follow .start

/-- What a step of a task leads to. -/
structure Turn where
  shared : Shared
  /-- The task after the step, or how it ended. -/
  next : Task ⊕ Outcome
  spawned : Option Spawn
  events : List Event

/-- A step that only leads on. -/
def Turn.goOn (shared : Shared) (next : Task) (events : List Event) : Turn :=
  ⟨shared, .inl next, none, events⟩

/-- A step that ends the task. -/
def Turn.finish (shared : Shared) (events : List Event) : Turn := ⟨shared, .inr .done, none, events⟩

/-- What follows a step of a single validation. -/
def afterSingle (v : Validation) : Task ⊕ Outcome :=
  match v.stage with
  | .ended none => .inr .done
  | .ended (some e) => .inl (.showFailure (e.notice v.url))
  | _ => .inl (.single v)

/-- What follows a step of a validation whose failure is asked for. -/
def afterValidate (v : Validation) : Task ⊕ Outcome :=
  match v.stage with
  | .ended failure => .inr (.validation failure)
  | _ => .inl (.validate v)

/-- **One step of a task.** `number` is the task's own, `place` says which of several validations
moves, and `answer` has to be what the task waits for. -/
def step (config : Config) (shared : Shared) (number place : Nat) (answer : Answer) :
    Task → Option Turn
  | .store url document validated =>
    match answer with
    | .proceed =>
      some ⟨{ shared with documents := shared.documents.put url document }, .inr .done,
        if validated then some (.single url) else none, []⟩
    | _ => none
  | .forget url =>
    match answer with
    | .proceed =>
      some (.goOn { shared with documents := shared.documents.erase url } (.clear url) [])
    | _ => none
  | .clear url =>
    match answer with
    | .proceed => some (.finish shared [.published none url []])
    | _ => none
  | .apply push validated =>
    match answer with
    | .proceed =>
      some ⟨{ shared with settings := shared.settings.apply push }, .inr .done,
        if validated then some .batch else none, []⟩
    | _ => none
  | .spawnBatch =>
    match answer with
    | .proceed => some ⟨shared, .inr .done, some .batch, []⟩
    | _ => none
  | .nothing =>
    match answer with
    | .proceed => some (.finish shared [])
    | _ => none
  | .handshake h =>
    (h.step shared number answer).map fun (shared, next, events) =>
      match next with
      | .goOn h => .goOn shared (.handshake h) events
      | .answer result => ⟨shared, .inr (.handshake result), none, events⟩
  | .announce a =>
    (a.step config shared number answer).map fun (next, events) =>
      match next with
      | .goOn a => .goOn shared (.announce a) events
      | .follow a watch => ⟨shared, .inl (.announce a), some (.follow watch), events⟩
      | .finish => .finish shared events
  | .stop =>
    match answer with
    | .proceed => some (.finish { shared with kept := none } [])
    | _ => none
  | .validate v =>
    (v.step shared answer).map fun (v, events) => ⟨shared, afterValidate v, none, events⟩
  | .single v =>
    (v.step shared answer).map fun (v, events) => ⟨shared, afterSingle v, none, events⟩
  | .showFailure message =>
    match answer with
    | .proceed => some (.finish shared [.shown number message])
    | _ => none
  | .batch b =>
    (b.step shared number 0 place answer).map fun (next, events) =>
      ⟨shared, next.elim (.inr .done) (.inl ∘ .batch), none, events⟩
  | .follow loop =>
    let alive := shared.kept.any (·.follower == number)
    (loop.step shared number place answer alive).map fun (next, events) =>
      ⟨shared, next.elim (.inr .done) (.inl ∘ .follow), none, events⟩

end Task

end LintServer
