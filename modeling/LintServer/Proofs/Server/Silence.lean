import LintServer.Proofs.Server.Failures
import LintServer.Proofs.Server.Handshakes
import LintServer.Proofs.Server.Provenance

/-! # A server that is not ready is silent

Every validation starts by asking for the engine, and whatever the server lets the
outside hear of it comes later.  So a call of the engine, a shown failure and a set of
diagnostics each lead back to a tick at which the server was ready (`Run.called_engine`,
`Run.shown_engine`, `Run.published_engine`), however long ago the task was started and
whatever has happened to the phase in between.

Before the first such tick there is nothing to lead back to.  After it, handshakes that
do not overlap leave the server its engine, so all of them lead back to the same one
(`Run.silent_until_ready`).
-/
namespace LintServer

/-- Every diagnostic names the linter it comes from. -/
theorem source_of_mem_translate {answer : Option Json} {source : String} {d : Diagnostic}
    (h : d ∈ translate answer source) : d.source = source := by
  unfold translate at h
  split at h
  · cases h
  · obtain ⟨problem, _, rfl⟩ := List.mem_map.mp h
    rfl

/-- The engine a validation has found. -/
def Stage.engine? : Stage → Option Engine
  | .findEngine | .ended _ => none
  | .readText engine | .readSettings engine _ => some engine
  | .callEngine snapshot | .awaitReport snapshot | .compareSettings snapshot _
  | .publish snapshot _ => some snapshot.engine

/-- The step that calls the engine calls the one the validation has found. -/
theorem Stage.Goes.engine?_of_called {shared : Shared} {origin o : Origin} {url : Url}
    {stage stage' : Stage} {events : List Event} {engine : Engine} {text : String} {options : Json}
    (h : Stage.Goes shared origin url stage stage' events)
    (hcalled : .called o engine text options ∈ events) : stage.engine? = some engine := by
  cases h with
  | taken snapshot =>
    cases List.mem_singleton.mp hcalled
    rfl
  | refused snapshot error =>
    rcases List.mem_cons.mp hcalled with heq | hrest
    · cases heq
      rfl
    · cases List.mem_singleton.mp hrest
  | _ => simp at hcalled

/-- A validation that fails has found an engine. -/
theorem Stage.Goes.engine?_of_failure {shared : Shared} {origin : Origin} {url : Url}
    {stage : Stage} {error : EngineError} {events : List Event}
    (h : Stage.Goes shared origin url stage (.ended (some error)) events) :
    ∃ engine, stage.engine? = some engine := by
  generalize hend : Stage.ended (some error) = stage' at h
  cases h with
  | noEngine | engine => cases hend
  | _ => exact ⟨_, rfl⟩

namespace Server.Run

section Origins
variable {config : Config} {e : Run (.initial config)}

/-- The engine a validation has found was in force at some tick. -/
theorem ReadBy.engine {t : Nat} {url : Url} {stage : Stage} {engine : Engine}
    (h : e.ReadBy t url stage) (hengine : stage.engine? = some engine) :
    ∃ u ≤ t, (e.state u).shared.phase = .ready engine := by
  have hready {u : Nat} (hu : (e.state u).shared.phase.engine? = some engine) :
      (e.state u).shared.phase = .ready engine := by
    cases hphase : (e.state u).shared.phase with
    | ready _ => rw [hphase] at hu; cases hu; rfl
    | _ => rw [hphase] at hu; cases hu
  have hsourced {snapshot : Snapshot} (h : e.Sourced t url snapshot)
      (hsame : snapshot.engine = engine) : ∃ u ≤ t, (e.state u).shared.phase = .ready engine := by
    obtain ⟨u, i, j, hui, hij, hjt, hphase, _⟩ := h
    exact ⟨u, by omega, hready (hsame ▸ hphase)⟩
  cases stage with
  | findEngine | ended => cases hengine
  | readText found =>
    obtain ⟨u, hu, hphase⟩ := h
    cases hengine
    exact ⟨u, hu, hready hphase⟩
  | readSettings found text =>
    obtain ⟨u, i, hui, hit, hphase, _⟩ := h
    cases hengine
    exact ⟨u, by omega, hready hphase⟩
  | callEngine | awaitReport | compareSettings | publish =>
    exact hsourced h (Option.some.inj hengine)

theorem Moves.engine {t : Nat} {v : Validation} {stage : Stage} {events : List Event}
    {engine : Engine} (h : e.Moves t v stage events) (hengine : v.stage.engine? = some engine) :
    ∃ u ≤ t, (e.state u).shared.phase = .ready engine :=
  (readBy_live (fun _ _ => live_initial config) h.live).engine hengine

/-- An engine that is called is one the server was ready with. -/
theorem called_engine {t : Nat} {origin : Origin} {engine : Engine} {text : String} {options : Json}
    (h : .called origin engine text options ∈ e.written t) :
    ∃ u ≤ t, (e.state u).shared.phase = .ready engine := by
  obtain ⟨v, stage, events, hmoves, _, hevent⟩ := moves_of_written h rfl
  exact hmoves.engine (hmoves.goes.engine?_of_called hevent)

/-- When a failure is shown, the server has been ready before. -/
theorem shown_engine {t n : Nat} {message : String} (h : .shown n message ∈ e.written t) :
    ∃ u ≤ t, ∃ engine, (e.state u).shared.phase = .ready engine := by
  obtain ⟨w, hw, origin, url, error, _, ⟨stage, events, hmoves⟩, _⟩ := shown_source h
  obtain ⟨engine, hengine⟩ := hmoves.goes.engine?_of_failure
  obtain ⟨u, hu, hready⟩ := hmoves.engine hengine
  exact ⟨u, by omega, engine, hready⟩

/-- In tick `t` a task of the server clears `url`, and a request to close the document has
started it. -/
def Clearing (e : Run (.initial config)) (t : Nat) (url : Url) : Prop :=
  ∃ n r, (e.state t).task? n = some (.clear url) ∧ r < t ∧
    e.move r = some (.arrive (.closeDocument url)) ∧ (e.state r).fresh = n

/-- A set of diagnostics is the empty one for a document that was closed, or names an
engine the server was ready with. -/
theorem published_engine {t : Nat} {sender : Option Origin} {url : Url} {ds : List Diagnostic}
    (h : .published sender url ds ∈ e.written t) :
    (sender = none ∧ ds = [] ∧ e.Clearing t url) ∨
      ∃ u ≤ t, ∃ engine, (e.state u).shared.phase = .ready engine ∧
        ∀ d ∈ ds, d.source = engine.name := by
  obtain ⟨n, turn, _, _,
    ⟨hclear, rfl, rfl⟩ | ⟨origin, snapshot, finding, hlive, _, rfl⟩⟩ := e.published_cases h
  · obtain ⟨r, hr, hmove, hfresh⟩ := closing_requested rfl (mem_of_task? hclear) (Or.inr rfl)
    exact Or.inl ⟨rfl, rfl, n, r, hclear, hr, hmove, hfresh⟩
  · have hread := readBy_live (fun _ _ => live_initial config) hlive
    obtain ⟨u, hu, hready⟩ := hread.engine rfl
    exact Or.inr ⟨u, hu, snapshot.engine, hready, fun d => source_of_mem_translate⟩

/-- When handshakes do not overlap, a server is ready with one engine only. -/
theorem Serial.engine_unique (hserial : e.Serial) {t u : Nat} {engine engine' : Engine}
    (ht : (e.state t).shared.phase = .ready engine)
    (hu : (e.state u).shared.phase = .ready engine') : engine = engine' := by
  rcases Nat.le_total t u with htu | hut
  · have hlater := ((hserial.ready ht).2 u htu).1
    exact Phase.ready.inj (hlater.symm.trans hu)
  · have hlater := ((hserial.ready hu).2 t hut).1
    exact Phase.ready.inj (ht.symm.trans hlater)

end Origins

/-- **A server that is not ready is silent.**  When each handshake is answered before the
next one is opened, whatever else is asked for and however many handshakes fail:

* as long as the server has never been ready, no engine is called, no failure is shown,
  and what is published is the empty set for a document that is being closed;
* once the server is ready with an engine, which is the one its handshake has loaded,
  every call goes to that engine and every diagnostic names it. -/
theorem silent_until_ready {config : Config} (e : Run (.initial config)) (hserial : e.Serial) :
    (∀ t, (∀ u ≤ t, (e.state u).shared.phase.isReady = false) →
      (∀ origin engine text options, .called origin engine text options ∉ e.written t) ∧
      (∀ n message, .shown n message ∉ e.written t) ∧
      ∀ sender url ds, .published sender url ds ∈ e.written t →
        sender = none ∧ ds = [] ∧ e.Clearing t url) ∧
    ∀ u engine, (e.state u).shared.phase = .ready engine →
      e.LoadedFor u engine (e.state u).shared.workspace ∧ ∀ t ≥ u,
        (∀ origin called text options, .called origin called text options ∈ e.written t →
          called = engine) ∧
        ∀ sender url ds, .published sender url ds ∈ e.written t →
          ∀ d ∈ ds, d.source = engine.name := by
  refine ⟨?_, ?_⟩
  · intro t hnever
    have hno {u : Nat} {engine : Engine} (hu : u ≤ t)
        (hready : (e.state u).shared.phase = .ready engine) : False := by
      have hfalse := hnever u hu
      rw [hready] at hfalse
      cases hfalse
    refine ⟨?_, ?_, ?_⟩
    · intro origin engine text options hcalled
      obtain ⟨u, hu, hready⟩ := called_engine hcalled
      exact hno hu hready
    · intro n message hshown
      obtain ⟨u, hu, engine, hready⟩ := shown_engine hshown
      exact hno hu hready
    · intro sender url ds hpublished
      rcases published_engine hpublished with hclosed | ⟨u, hu, engine, hready, _⟩
      · exact hclosed
      · exact (hno hu hready).elim
  · intro u engine hready
    refine ⟨(hserial.ready hready).1, ?_⟩
    intro t _
    refine ⟨?_, ?_⟩
    · intro origin called text options hcalled
      obtain ⟨w, _, hready'⟩ := called_engine hcalled
      exact hserial.engine_unique hready' hready
    · intro sender url ds hpublished d hd
      rcases published_engine hpublished with ⟨_, rfl, _⟩ | ⟨w, _, engine', hready', hsource⟩
      · cases hd
      · rw [hsource d hd, hserial.engine_unique hready' hready]

end Server.Run

/-! ### A document is opened too early

The document is opened before the first handshake fails, validated again with all others,
and closed in tick 15.  The second handshake succeeds, and the document is opened anew:
its text is linted in tick 27, and the outcome is published in tick 30. -/

namespace Server.Sample

/-- The run. -/
def early : Run (.initial .default) :=
  .ofMoves (.initial .default) [.arrive (.handshake bare),
    .arrive (.openDocument page ⟨"a;", 1⟩), .advance 1 0 .proceed, .advance 2 0 .proceed,
    .advance 0 0 .proceed, .advance 0 0 .proceed, .advance 0 0 .proceed,
    .advance 0 0 (.loaded (.error (.notFound "standard"))), .advance 0 0 .proceed,
    .arrive .filesChanged, .advance 3 0 .proceed, .advance 4 0 (.listed [page]),
    .advance 4 0 .proceed, .arrive (.closeDocument page), .advance 5 0 .proceed,
    .advance 5 0 .proceed, .arrive (.handshake bare), .advance 6 0 .proceed,
    .advance 6 0 .proceed, .advance 6 0 .proceed, .advance 6 0 (.loaded (.ok "standard")),
    .advance 6 0 .proceed, .arrive (.openDocument page ⟨"a;", 1⟩), .advance 7 0 .proceed,
    .advance 8 0 .proceed, .advance 8 0 .proceed, .advance 8 0 .proceed, .advance 8 0 .taken,
    .advance 8 0 (.linted (.ok problem)), .advance 8 0 .proceed, .advance 8 0 .proceed] rfl

theorem early_serial : early.Serial := Run.serial_ofMoves rfl

theorem early_not_ready : ∀ u ≤ 15, (early.state u).shared.phase.isReady = false := by
  decide +kernel

end Server.Sample

namespace Server.Run

/-- Nothing is shown for the document that was opened too early, and the set published in
tick 15 is the one its closing asked for; the problem found later names the engine. -/
theorem silent_until_ready_early : Sample.early.Serial ∧
    (∀ u ≤ 15, (Sample.early.state u).shared.phase.isReady = false) ∧
    (∀ n message, .shown n message ∉ Sample.early.written 15) ∧
    Sample.early.Clearing 15 Sample.page ∧
    (Sample.early.state 22).shared.phase = .ready ⟨"standard", 6⟩ ∧
    (∃ d ∈ translate (some Sample.problem) "standard", d.source = "standard") := by
  obtain ⟨hsilent, hready⟩ := Sample.early.silent_until_ready Sample.early_serial
  obtain ⟨_, hshown, hpublished⟩ := hsilent 15 Sample.early_not_ready
  have hcleared : .published none Sample.page [] ∈ Sample.early.written 15 :=
    List.mem_cons_of_mem _ List.mem_cons_self
  have hfound : .published (some ⟨8, 0, 0⟩) Sample.page (translate (some Sample.problem) "standard")
      ∈ Sample.early.written 30 := List.mem_cons_of_mem _ List.mem_cons_self
  have hsource := ((hready 22 ⟨"standard", 6⟩ rfl).2 30 (by decide)).2 _ _ _ hfound
  obtain ⟨_, _, hclosing⟩ := hpublished _ _ _ hcleared
  exact ⟨Sample.early_serial, Sample.early_not_ready, hshown, hclosing, rfl,
    ⟨_, List.mem_cons_self, hsource _ List.mem_cons_self⟩⟩

end Server.Run

end LintServer
