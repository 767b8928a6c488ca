import LintServer.Proofs.Loading
import LintServer.Proofs.Server.Amid
import LintServer.Proofs.Server.Readiness
import LintServer.Rpc.Service
import Mathlib.Tactic.IntervalCases

/-! # Handshakes that load

A handshake that finds the server not ready (`Run.Initializes`) calls the loader once, is
answered with what the load comes to, and only then is over (`Initializes.completes`), however
others move meanwhile.  `loads_working_package` puts this together with what a load comes to: the
editor is told not to try again just if the package that was found can lint no texts.
-/
namespace LintServer

/-! ## From the look at the phase to the answer -/

namespace Handshake

/-- A handshake that concludes does so with `load`. -/
def Heeds (load : Except LoadError Engine) (task : Task) (_ : Shared) : Prop :=
  ∀ other, task = .handshake (.concluding other) → other = load

/-- A handshake that found the server not ready can be seen through. -/
theorem led (n : Nat) (params : Params) (load : Except LoadError Engine) :
    Task.Led n (fun _ _ => True) (Heeds load)
      (fun written outcome => written = [.loading n (Workspace.ofHandshake params).root] ∧
        outcome = .handshake (load.map fun _ => ()))
      fun left task written => ∃ h, task = .handshake h ∧ h.HasBegun ∧
        Advances n params left h written where
  unreached := by
    rintro left task written ⟨h, rfl, -⟩ path
    rfl
  can := by
    rintro left task written ⟨h, rfl, -⟩ config shared -
    obtain ⟨answer, turn, hturn⟩ := Task.handshake_can h config shared n
    exact ⟨0, answer, turn, fun _ _ => trivial, hturn⟩
  step := by
    rintro left task written ⟨h, rfl, hbegun, hadvances⟩ config shared place answer turn hheeds -
      hturn
    obtain ⟨next, hgoes, hnext, -⟩ := Task.handshake_goes hturn
    rw [hnext]
    rcases hadvances.step hgoes with ⟨h', left', rfl, hbegun', hless, hadvances'⟩ |
      ⟨-, hchecks, -⟩ | ⟨other, rfl, rfl, hwritten⟩
    · exact ⟨left', hless, h', rfl, hbegun', hadvances'⟩
    · exact absurd hbegun hchecks
    · cases hheeds other rfl
      exact ⟨hwritten, rfl⟩

end Handshake

namespace Server.Run

/-- What the task can rely on may be put differently. -/
theorem Amid.relying {config : Config} {e : Run (.initial config)} {t n : Nat}
    {accepts : Validation → Answer → Prop} {rely rely' : Task → Shared → Prop}
    (h : e.Amid t n accepts rely)
    (hrely : ∀ {u : Nat} {task : Task}, t ≤ u → (e.state u).task? n = some task →
      rely' task (e.state u).shared) : e.Amid t n accepts rely' where
  relies := hrely
  answers := h.answers
  kept := h.kept
  fair := h.fair

variable {config : Config}

/-- **A handshake meets a server that is not ready**: task `n` looks at the phase in tick `t`.
Its load comes to `result`, and it is neither given up nor passed over for ever. -/
structure Initializes (e : Run (.initial config)) (t n : Nat) (params : Handshake.Params)
    (result : Except LoadError String) : Prop where
  looks : (e.state t).task? n = some (.handshake (.checking params))
  moves : ∃ place answer, e.move t = some (.advance n place answer)
  notReady : (e.state t).shared.phase.isReady = false
  loads : ∀ {u place : Nat} {loaded : Except LoadError String}, t < u →
    e.move u = some (.advance n place (.loaded loaded)) → loaded = result
  amid : e.Amid (t + 1) n (fun _ _ => True) fun _ _ => True

namespace Initializes
variable {e : Run (.initial config)} {t n : Nat} {params : Handshake.Params}
  {result : Except LoadError String}

theorem recording (h : e.Initializes t n params result) :
    (e.state (t + 1)).task? n = some (.handshake (.recording params)) := by
  obtain ⟨place, answer, hmove⟩ := h.moves
  obtain ⟨next, events, htick⟩ := handshake_tick hmove h.looks
  have hgoes := htick.goes
  generalize (e.state (t + 1)).shared = shared' at hgoes
  have hnext : next = .goOn (.recording params) := by
    cases hgoes with
    | kept _ hready => cases hready.symm.trans h.notReady
    | begun => rfl
  refine (e.numbered (t + 1)).task?_eq ((htick.tasks n _).mpr (.inr ⟨rfl, ?_⟩))
  rw [hnext]
  rfl

/-- It concludes with what its load came to. -/
theorem concludes (h : e.Initializes t n params result) {u : Nat} (hu : t + 1 ≤ u)
    {load : Except LoadError Engine} (hshakes : (e.state u).Shakes n (.concluding load)) :
    load = result.map fun name => ⟨name, n⟩ := by
  induction hu with
  | refl =>
    have hrunning := (e.numbered (t + 1)).task?_eq hshakes
    cases h.recording.symm.trans hrunning
  | @step u hu ih =>
    obtain hbefore | ⟨-, _, heq, -⟩ | ⟨answer, old, events, htick⟩ := shakes_succ hshakes
    · exact ih hbefore
    · cases heq
    · obtain ⟨place, hmove⟩ := htick.moved
      have hgoes := htick.goes
      generalize (e.state (u + 1)).shared = shared' at hgoes
      cases hgoes with
      | loaded _ loaded hanswer =>
        rw [hanswer] at hmove
        rw [h.loads hu hmove]

/-- **A handshake that finds the server not ready is answered**, with what its load came to,
after it has called the loader once. -/
theorem completes (h : e.Initializes t n params result) :
    e.Completes (t + 1) n fun written outcome =>
      written = [.loading n (Workspace.ofHandshake params).root] ∧
        outcome = .handshake (result.map fun _ => ()) := by
  have hamid : e.Amid (t + 1) n (fun _ _ => True)
      (Handshake.Heeds (result.map fun name => ⟨name, n⟩)) := by
    refine h.amid.relying fun hu htask other heq => ?_
    rw [heq] at htask
    exact h.concludes hu (mem_of_task? htask)
  refine (hamid.completes (Handshake.led n params _) h.recording
    ⟨_, rfl, trivial, .recording⟩).mono ?_
  rintro written outcome ⟨hwritten, houtcome⟩
  refine ⟨hwritten, houtcome.trans ?_⟩
  cases result <;> rfl

end Initializes

end Server.Run

/-! ## What the editor is told -/

/-- The editor is told that a handshake failed, and whether to try again. -/
def Rpc.TellsRetry (id : Rpc.Id) (outcome : Outcome) (retry : Bool) : Prop :=
  ∃ error, Rpc.Service.answer (some id) outcome = some (.error id error) ∧ error.code = 99 ∧
    error.data.bind (Json.member? "retry") = some (.bool retry)

theorem Rpc.tellsRetry_iff {α : Type} {id : Rpc.Id} {load : Except LoadError α} {retry : Bool} :
    Rpc.TellsRetry id (.handshake (load.map fun _ => ())) retry ↔
      ∃ error, load = .error error ∧ error.retry = retry := by
  cases load with
  | ok value =>
    refine iff_of_false ?_ (by simp)
    rintro ⟨error, heq, -⟩
    cases heq
  | error error =>
    constructor
    · rintro ⟨_, heq, -, hdata⟩
      cases heq
      cases hdata
      exact ⟨error, rfl, rfl⟩
    · rintro ⟨_, heq, rfl⟩
      cases heq
      exact ⟨Rpc.handshakeError error, rfl, rfl, rfl⟩

theorem LoadError.retry_eq_false_iff {error : LoadError} :
    error.retry = false ↔ ∃ name, error = .missingLintText name := by
  cases error <;> simp [LoadError.retry]

/-- **An engine is loaded just from a package that works**, for every file system, loader,
root and probe.

There is an engine if a package is found and its probe, which ended well, answered that it can
lint texts.  The three errors tell apart that no package is found, that the probe answered
that it cannot, and everything else; the last one comes with a reason, which is never blank.

A handshake that finds the server not ready ends with what the load came to, and the editor
is told not to try again just if the probe answered that the package cannot lint texts. -/
theorem loads_working_package (loader : NodeLoader) (files : Files) (root : Option Path)
    (probe : NodeEngine → Except StartError ChildOutput) :
    (∀ engine, loader.load files root probe = .ok engine ↔
      loader.Picks files root engine ∧ NodeEngine.Replies (probe engine) true) ∧
    (∀ name, loader.load files root probe = .error (.notFound name) ↔
      name = loader.name ∧ Package.find? files loader.name root loader.dirs = none) ∧
    (∀ name, loader.load files root probe = .error (.missingLintText name) ↔
      name = loader.name ∧ ∃ engine, loader.Picks files root engine ∧
        NodeEngine.Replies (probe engine) false) ∧
    ((∃ name program reason,
      loader.load files root probe = .error (.unloadable name program reason)) ↔
        ∃ engine, loader.Picks files root engine ∧ ∀ b, ¬ NodeEngine.Replies (probe engine) b) ∧
    (∀ name program reason,
      loader.load files root probe = .error (.unloadable name program reason) →
        name = loader.name ∧ program = loader.node ∧ Text.trim reason ≠ "" ∧
          ∃ engine, loader.Picks files root engine ∧ NodeEngine.Reason (probe engine) reason) ∧
    ∀ {config : Config} (e : Server.Run (.initial config)) (t n : Nat) (params : Handshake.Params),
      (Workspace.ofHandshake params).root = root →
      e.Initializes t n params ((loader.load files root probe).map NodeEngine.name) →
      e.Completes (t + 1) n fun written outcome => written = [.loading n root] ∧
        outcome = .handshake ((loader.load files root probe).map fun _ => ()) ∧
        ∀ id, Rpc.TellsRetry id outcome false ↔
          ∃ engine, loader.Picks files root engine ∧ NodeEngine.Replies (probe engine) false := by
  refine ⟨fun engine => NodeLoader.load_eq_ok_iff, fun name => NodeLoader.load_eq_notFound_iff,
    fun name => NodeLoader.load_eq_missingLintText_iff, NodeLoader.load_eq_unloadable_iff, ?_, ?_⟩
  · intro name program reason hload
    obtain ⟨hname, hprogram, engine, hpicks, hreason⟩ := NodeLoader.reason_of_load hload
    exact ⟨hname, hprogram, hreason.trim_ne_empty, engine, hpicks, hreason⟩
  · intro config e t n params hroot hinitializes
    refine hinitializes.completes.mono ?_
    rw [hroot]
    rintro written outcome ⟨hwritten, rfl⟩
    have hsame : ((loader.load files root probe).map NodeEngine.name).map (fun _ => ()) =
        (loader.load files root probe).map fun _ => () := by
      cases loader.load files root probe <;> rfl
    refine ⟨hwritten, by rw [hsame], fun id => ?_⟩
    rw [hsame, Rpc.tellsRetry_iff]
    constructor
    · rintro ⟨error, hload, hretry⟩
      obtain ⟨name, rfl⟩ := LoadError.retry_eq_false_iff.mp hretry
      exact (NodeLoader.load_eq_missingLintText_iff.mp hload).2
    · intro hfalse
      exact ⟨_, NodeLoader.load_eq_missingLintText_iff.mpr ⟨rfl, hfalse⟩, rfl⟩

/-! ### A package that can lint no texts

Two handshakes overlap.  The one of task 0 looks at the phase in tick 1, and its load ends in
tick 6. -/

namespace Sample

/-- The loader looks in one directory. -/
def loader : NodeLoader := ⟨"node", "standard", [.ofString "/m"]⟩

/-- There is one manifest, which cannot be read. -/
def oneManifest : Files := ⟨fun p => p == .ofString "/m/standard/package.json", fun _ => none⟩

/-- The answer of every probe, with a blank behind it. -/
def unable : NodeEngine → Except StartError ChildOutput := fun _ =>
  .ok ⟨.code 0, [123, 34, 108, 105, 110, 116, 84, 101, 120, 116, 34, 58, 102, 97, 108, 115, 101,
    125, 10], []⟩

/-- The run. -/
def unableRun : Server.Run (.initial .default) :=
  .ofMoves (.initial .default) [.arrive (.handshake Server.Sample.bare), .advance 0 0 .proceed,
    .arrive (.handshake Server.Sample.bare), .advance 0 0 .proceed, .advance 1 0 .proceed,
    .advance 0 0 .proceed, .advance 0 0 (.loaded (.error (.missingLintText "standard"))),
    .advance 0 0 .proceed] rfl

theorem unableRun_initializes :
    unableRun.Initializes 1 0 Server.Sample.bare (.error (.missingLintText "standard")) where
  looks := rfl
  moves := ⟨0, .proceed, rfl⟩
  notReady := rfl
  loads := by
    intro u place loaded hlow hmove
    match u with
    | 6 => cases hmove; rfl
    | 2 | 3 | 4 | 5 | 7 | _ + 8 => cases hmove
  amid := by
    have hgone : (unableRun.state 8).task? 0 = none := rfl
    refine .of_ended (by decide) hgone fun u task hlow hhigh _ => ⟨trivial, ?_, ?_⟩
    · interval_cases u <;> nofun
    · intro place answer _ v _
      trivial

end Sample

/-- The editor is told not to try again. -/
theorem loads_working_package_unable :
    Sample.loader.load Sample.oneManifest none Sample.unable =
      .error (.missingLintText "standard") ∧
    Sample.unableRun.Completes 2 0 fun written outcome => written = [.loading 0 none] ∧
      ∀ id, Rpc.TellsRetry id outcome false := by
  have hpicks : Sample.loader.Picks Sample.oneManifest none
      ⟨"node", ⟨"standard", .ofString "/m/standard", none⟩⟩ := ⟨by decide +kernel, rfl⟩
  have hreplies : NodeEngine.Replies
      (Sample.unable ⟨"node", ⟨"standard", .ofString "/m/standard", none⟩⟩) false :=
    ⟨_, rfl, rfl, NodeEngine.parse_probeReply_eq_ok_iff.mp (by decide +kernel)⟩
  obtain ⟨-, -, hmissing, -, -, hanswered⟩ :=
    loads_working_package Sample.loader Sample.oneManifest none Sample.unable
  have hload := (hmissing "standard").mpr ⟨rfl, _, hpicks, hreplies⟩
  refine ⟨hload, (hanswered Sample.unableRun 1 0 Server.Sample.bare rfl ?_).mono ?_⟩
  · rw [hload]
    exact Sample.unableRun_initializes
  · rintro written outcome ⟨hwritten, -, htells⟩
    exact ⟨hwritten, fun id => (htells id).mpr ⟨_, hpicks, hreplies⟩⟩

end LintServer
