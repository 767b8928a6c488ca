import LintServer.Server.Validation

/-!
# Batches

A batch validates every open document. It lists the documents, in any order, then takes each in
turn up to the call of the engine, and only when all calls have been made lets the validations go
on, each at its own pace. At the end it shows the distinct failures.
-/

namespace LintServer

/-- How far a batch has come. -/
inductive Batch
  | listing
  /-- The validations, in the order in which they call the engine. -/
  | validating (flights : List Validation)
  | showing (messages : List String)

namespace Batch

/-- The distinct failures of some validations, in ascending order. -/
def messages (flights : List Validation) : List String :=
  ((flights.filterMap Validation.notice?).foldl Notices.add .empty).lines

/-- What is shown at the end of a batch is what its validations failed with. -/
theorem mem_messages {message : String} {flights : List Validation} :
    message ∈ messages flights ↔ ∃ v ∈ flights, v.notice? = some message := by
  simp [messages, Notices.mem_foldl_add, Notices.empty]

/-- The batch while some messages are still to be shown, if any. -/
def toShow (messages : List String) : Option Batch :=
  if messages.isEmpty then none else some (.showing messages)

/-- The batch after one of its validations has moved. -/
def ofFlights (flights : List Validation) : Option Batch :=
  if flights.all (·.stage.isEnded) then toShow (messages flights) else some (.validating flights)

/-- The validations of a batch that starts with some documents. -/
def flightsFor (task round : Nat) (urls : List Url) : List Validation :=
  urls.mapIdx fun place url => .start ⟨task, round, place⟩ url

/-- Whether a validation may move: the engine is called for one document after the other, and
what follows waits until all calls have been made. -/
def mayMove (flights : List Validation) (place : Nat) (v : Validation) : Bool :=
  if v.stage.isDispatched then flights.all (·.stage.isDispatched)
  else (flights.take place).all (·.stage.isDispatched)

/-- **One step of a batch**, which is the task's batch of number `round`. `place` says which
validation moves. The batch is over when there is no next one. -/
def step (shared : Shared) (task round place : Nat) (answer : Answer) :
    Batch → Option (Option Batch × List Event)
  | .listing =>
    match answer with
    | .listed urls =>
      if urls.Perm shared.documents.urls then
        some (ofFlights (flightsFor task round urls), [])
      else none
    | _ => none
  | .validating flights =>
    match flights[place]? with
    | none => none
    | some v =>
      if mayMove flights place v then
        (v.step shared answer).map fun (v, events) => (ofFlights (flights.set place v), events)
      else none
  | .showing [] => none
  | .showing (message :: more) =>
    match answer with
    | .proceed => some (toShow more, [.shown task message])
    | _ => none

end Batch

end LintServer
