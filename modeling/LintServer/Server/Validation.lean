import LintServer.Notice
import LintServer.Server.Event

/-!
# Validations

A validation takes the engine, the document's text and the settings from the shared state, one
after the other, has the engine lint the text, and publishes the outcome. It publishes nothing if
there is nothing to validate, if the engine never took the text, or if the settings have changed
since it took them. It never writes the shared state.
-/

namespace LintServer

/-- How far a validation has come. -/
inductive Stage
  | findEngine
  | readText (engine : Engine)
  | readSettings (engine : Engine) (text : String)
  | callEngine (snapshot : Snapshot)
  | awaitReport (snapshot : Snapshot)
  | compareSettings (snapshot : Snapshot) (finding : Finding)
  | publish (snapshot : Snapshot) (finding : Finding)
  | ended (failure : Option EngineError)

/-- A validation of one document. -/
structure Validation where
  origin : Origin
  url : Url
  stage : Stage

/-- The failure in a finding. -/
def Finding.failure? : Finding → Option EngineError
  | .failure e => some e
  | _ => none

/-- The report in a finding. -/
def Finding.report? : Finding → Option Json
  | .report v => some v
  | _ => none

/-- What is known when a lint call has ended. -/
def Finding.ofResult : Except EngineError Json → Finding
  | .ok v => .report v
  | .error e => .failure e

namespace Stage

/-- Whether the engine has been called, or never will be. -/
def isDispatched : Stage → Bool
  | .findEngine | .readText _ | .readSettings _ _ | .callEngine _ => false
  | .awaitReport _ | .compareSettings _ _ | .publish _ _ | .ended _ => true

/-- Whether nothing is left to do. -/
def isEnded : Stage → Bool
  | .ended _ => true
  | _ => false

/-- The failure a validation ended with. -/
def failure? : Stage → Option EngineError
  | .ended failure => failure
  | _ => none

/-- The stage after all has been read: without validation there is nothing to wait for. -/
def afterReading (snapshot : Snapshot) : Stage :=
  if snapshot.settings.enabled then .callEngine snapshot else .compareSettings snapshot .disabled

/-- The stage after a lint call: when the engine turns out not to have taken the text, nothing is
published. -/
def afterAnswer (snapshot : Snapshot) : Finding → Stage
  | .failure e => if e.isRaised then .ended (some e) else .compareSettings snapshot (.failure e)
  | finding => .compareSettings snapshot finding

end Stage

namespace Validation

/-- A validation that has not started. -/
def start (origin : Origin) (url : Url) : Validation := ⟨origin, url, .findEngine⟩

/-- **One step of a validation**, from what it finds in the shared state and what it is answered.
The answer has to fit the stage. -/
def step (shared : Shared) (answer : Answer) (v : Validation) :
    Option (Validation × List Event) :=
  let goto := fun stage => { v with stage }
  match v.stage, answer with
  | .findEngine, .proceed =>
    match shared.phase.engine? with
    | none => some (goto (.ended none), [])
    | some engine => some (goto (.readText engine), [])
  | .readText engine, .proceed =>
    match shared.documents.get? v.url with
    | none => some (goto (.ended none), [])
    | some document => some (goto (.readSettings engine document.text), [])
  | .readSettings engine text, .proceed =>
    let snapshot : Snapshot := ⟨engine, text, shared.settings⟩
    some (goto (.afterReading snapshot), [.took v.origin v.url snapshot])
  | .callEngine snapshot, .taken =>
    some (goto (.awaitReport snapshot),
      [.called v.origin snapshot.engine snapshot.text snapshot.settings.options])
  | .callEngine snapshot, .refused e =>
    some (goto (.ended (some e)),
      [.called v.origin snapshot.engine snapshot.text snapshot.settings.options,
        .refused v.origin e])
  | .awaitReport snapshot, .linted result =>
    let finding := Finding.ofResult result
    some (goto (.afterAnswer snapshot finding), [.answered v.origin finding])
  | .compareSettings snapshot finding, .proceed =>
    if shared.settings.generation = snapshot.settings.generation then
      some (goto (.publish snapshot finding), [])
    else some (goto (.ended none), [])
  | .publish snapshot finding, .proceed =>
    some (goto (.ended finding.failure?),
      [.published (some v.origin) v.url (translate finding.report? snapshot.engine.name)])
  | _, _ => none

/-- What the user is told of an ended validation. -/
def notice? (v : Validation) : Option String := v.stage.failure?.map fun e => e.notice v.url

end Validation

end LintServer
