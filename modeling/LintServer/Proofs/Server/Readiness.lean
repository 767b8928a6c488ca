import LintServer.Proofs.Server.Flight

/-! # Readiness, and handshakes that overlap

A handshake looks at the server's phase in one step and sets it in another, and the
engine is loaded in between.  `Handshake.Goes` lists what each of its steps does,
and `Run.tick_cases` says what a tick does to the phase, the workspace and the
handshakes that run.

A second handshake that has passed its look before the first one concludes knows
nothing of the first one's engine, and sets the phase when it concludes.  So a
server that is ready can fail, or be ready with another engine (`ready_lost`).
`ready_kept_iff` says that this is the only way: the phase stays as it is just as
long as no handshake that was under way when the server was ready concludes.
-/
namespace LintServer

/-! ## Steps of a handshake -/

/-- **What one step does to a handshake** of number `number`: the stage before it,
the shared state after it, what follows, and the events it writes. -/
inductive Handshake.Goes (shared : Shared) (number : Nat) (answer : Answer) :
    Handshake → Shared → Handshake.Next → List Event → Prop
  /-- The server is ready, and is left as it is. -/
  | kept (params : Handshake.Params) (h : shared.phase.isReady = true) :
    Goes shared number answer (.checking params) shared (.answer (.ok ())) []
  | begun (params : Handshake.Params) (h : shared.phase.isReady = false) :
    Goes shared number answer (.checking params) { shared with phase := .initializing }
      (.goOn (.recording params)) []
  | recorded (params : Handshake.Params) :
    Goes shared number answer (.recording params)
      { shared with workspace := .ofHandshake params }
      (.goOn (.calling (.ofHandshake params))) []
  | called (workspace : Workspace) :
    Goes shared number answer (.calling workspace) shared (.goOn (.loading workspace))
      [.loading number workspace.root]
  | loaded (workspace : Workspace) (result : Except LoadError String)
    (h : answer = .loaded result) :
    Goes shared number answer (.loading workspace) shared
      (.goOn (.concluding (result.map fun name => ⟨name, number⟩))) []
  | concluded (result : Except LoadError Engine) :
    Goes shared number answer (.concluding result) { shared with phase := .ofLoad result }
      (.answer (result.map fun _ => ())) []

namespace Handshake

theorem goes {shared shared' : Shared} {number : Nat} {answer : Answer} {h : Handshake}
    {next : Next} {events : List Event}
    (hstep : h.step shared number answer = some (shared', next, events)) :
    Goes shared number answer h shared' next events := by
  cases h with
  | checking params =>
    cases answer <;> simp only [step] at hstep <;> try cases hstep
    split at hstep
    · cases hstep; exact .kept params ‹_›
    · cases hstep; exact .begun params (by simp_all)
  | recording params => cases answer <;> cases hstep; exact .recorded params
  | calling workspace => cases answer <;> cases hstep; exact .called workspace
  | loading workspace => cases answer <;> cases hstep; exact .loaded workspace _ rfl
  | concluding result => cases answer <;> cases hstep; exact .concluded result

/-- A handshake that has found the server not ready. -/
def HasBegun : Handshake → Prop
  | .checking _ => False
  | .recording _ | .calling _ | .loading _ | .concluding _ => True

/-- **How far a handshake has come that was opened with `params`**, how many steps it has to
make after its next one if the server is not ready, and what it has written. -/
inductive Advances (n : Nat) (params : Params) : Nat → Handshake → List Event → Prop
  | checking : Advances n params 4 (.checking params) []
  | recording : Advances n params 3 (.recording params) []
  | calling : Advances n params 2 (.calling (.ofHandshake params)) []
  | loading : Advances n params 1 (.loading (.ofHandshake params))
    [.loading n (Workspace.ofHandshake params).root]
  | concluding (load : Except LoadError Engine) :
    Advances n params 0 (.concluding load) [.loading n (Workspace.ofHandshake params).root]

/-- **A step takes a handshake closer to its answer, or is the answer.**  It is answered
without a call of the loader only where it finds the server ready. -/
theorem Advances.step {n left : Nat} {params : Params} {h : Handshake} {written events : List Event}
    {shared shared' : Shared} {answer : Answer} {next : Next}
    (hadvances : Advances n params left h written)
    (hgoes : h.Goes shared n answer shared' next events) :
    (∃ h' left', next = .goOn h' ∧ h'.HasBegun ∧ left' < left ∧
      Advances n params left' h' (written ++ events)) ∨
    (next = .answer (.ok ()) ∧ ¬ h.HasBegun ∧ written ++ events = []) ∨
    ∃ load, h = .concluding load ∧ next = .answer (load.map fun _ => ()) ∧
      written ++ events = [.loading n (Workspace.ofHandshake params).root] := by
  cases hadvances with
  | checking =>
    cases hgoes with
    | kept => exact .inr (.inl ⟨rfl, id, rfl⟩)
    | begun => exact .inl ⟨_, 3, rfl, trivial, by decide, .recording⟩
  | recording => cases hgoes; exact .inl ⟨_, 2, rfl, trivial, by decide, .calling⟩
  | calling => cases hgoes; exact .inl ⟨_, 1, rfl, trivial, by decide, .loading⟩
  | loading => cases hgoes; exact .inl ⟨_, 0, rfl, trivial, by decide, .concluding _⟩
  | concluding load => cases hgoes; exact .inr (.inr ⟨load, rfl, rfl, rfl⟩)

/-- What becomes of the task after a step of its handshake. -/
def Next.onward : Next → Task ⊕ Outcome
  | .goOn h => .inl (.handshake h)
  | .answer result => .inr (.handshake result)

end Handshake

/-- An event of a handshake: the loader is called, or the handshake is answered. -/
def Event.OfHandshake : Event → Prop
  | .loading _ _ | .ended _ (.handshake _) => True
  | _ => False

theorem Stage.Goes.not_ofHandshake {shared : Shared} {origin : Origin} {url : Url}
    {stage stage' : Stage} {events : List Event}
    (h : Stage.Goes shared origin url stage stage' events) :
    ∀ event ∈ events, ¬ event.OfHandshake := by
  intro event hmem hof
  have horigin := h.origin?_eq event hmem
  cases event with
  | loading | ended => cases horigin
  | _ => exact hof

namespace Task

theorem handshake_goes {config : Config} {shared : Shared} {number place : Nat} {answer : Answer}
    {h : Handshake} {turn : Turn}
    (hstep : (Task.handshake h).step config shared number place answer = some turn) :
    ∃ next, h.Goes shared number answer turn.shared next turn.events ∧
      turn.next = next.onward ∧ turn.spawned = none := by
  obtain ⟨⟨shared', next, events⟩, hh, rfl⟩ := Option.map_eq_some_iff.mp hstep
  have hgoes := Handshake.goes hh
  cases next with
  | goOn h' => exact ⟨.goOn h', hgoes, rfl, rfl⟩
  | answer result => exact ⟨.answer result, hgoes, rfl, rfl⟩

/-- A handshake waits for nothing but its load. -/
theorem handshake_can (h : Handshake) (config : Config) (shared : Shared) (number : Nat) :
    ∃ answer turn, (Task.handshake h).step config shared number 0 answer = some turn := by
  have hstep : ∃ answer result, h.step shared number answer = some result := by
    cases h with
    | checking params =>
      refine ⟨.proceed, ?_⟩
      simp only [Handshake.step]
      split <;> exact ⟨_, rfl⟩
    | loading workspace => exact ⟨.loaded (.ok ""), _, rfl⟩
    | recording | calling | concluding => exact ⟨.proceed, _, rfl⟩
  obtain ⟨answer, result, hresult⟩ := hstep
  exact ⟨answer, _, by rw [Task.step, hresult]; rfl⟩

/-- A step that has nothing to do with handshakes. -/
structure Turn.Bystands (shared : Shared) (turn : Turn) : Prop where
  phase : turn.shared.phase = shared.phase
  workspace : turn.shared.workspace = shared.workspace
  next : ∀ h, turn.next ≠ .inl (.handshake h)
  outcome : ∀ result, turn.next ≠ .inr (.handshake result)
  events : ∀ event ∈ turn.events, ¬ event.OfHandshake

namespace Turn.Bystands
variable {shared : Shared} {number place : Nat} {answer : Answer}

theorem of_validation {v v' : Validation} {next : Task ⊕ Outcome} {events : List Event}
    (hstep : v.step shared answer = some (v', events)) (hnext : ∀ h, next ≠ .inl (.handshake h))
    (houtcome : ∀ result, next ≠ .inr (.handshake result)) :
    Turn.Bystands shared ⟨shared, next, none, events⟩ where
  phase := rfl
  workspace := rfl
  next := hnext
  outcome := houtcome
  events := (Validation.goes hstep).2.2.not_ofHandshake

theorem batch_events {b : Batch} {round : Nat} {next : Option Batch} {events : List Event}
    (hstep : b.step shared number round place answer = some (next, events)) :
    ∀ event ∈ events, ¬ event.OfHandshake := by
  unfold Batch.step at hstep
  split at hstep
  · split at hstep
    · split at hstep <;> cases hstep
      simp
    · cases hstep
  · split at hstep
    · cases hstep
    · split at hstep
      · obtain ⟨⟨v', moved⟩, hv, he⟩ := Option.map_eq_some_iff.mp hstep
        cases he
        exact (Validation.goes hv).2.2.not_ofHandshake
      · cases hstep
  · cases hstep
  · split at hstep <;> cases hstep
    simp [Event.OfHandshake]

theorem of_follow {loop : WatchLoop} {alive : Bool} {next : Option WatchLoop} {events : List Event}
    (hstep : loop.step shared number place answer alive = some (next, events)) :
    Turn.Bystands shared
      ⟨shared, next.elim (.inr .done) (.inl ∘ .follow), none, events⟩ := by
  refine ⟨rfl, rfl, ?_, ?_, ?_⟩
  · intro h
    cases next <;> simp
  · intro result
    cases next <;> simp
  · obtain ⟨queue, stage, round⟩ := loop
    cases stage with
    | waiting =>
      cases queue <;> cases answer <;> simp only [WatchLoop.step] at hstep <;> try cases hstep
      · split at hstep <;> cases hstep
        simp
      · simp
    | draining => cases queue <;> cases answer <;> cases hstep <;> simp
    | validating b =>
      obtain ⟨⟨next', events'⟩, hb, he⟩ := Option.map_eq_some_iff.mp hstep
      cases next' <;> cases he <;> exact batch_events hb

/-- **Only handshakes set the phase and the workspace**, and only they call the
loader. -/
theorem of_step {config : Config} {task : Task} {turn : Turn} (hno : ∀ h, task ≠ .handshake h)
    (hstep : task.step config shared number place answer = some turn) :
    Turn.Bystands shared turn := by
  cases task with
  | handshake h => exact absurd rfl (hno h)
  | store | forget | clear | apply | spawnBatch | nothing | stop | showFailure =>
    cases answer <;> cases hstep
    constructor <;> simp [goOn, finish, Event.OfHandshake]
  | announce a =>
    obtain ⟨⟨next, events⟩, ha, rfl⟩ := Option.map_eq_some_iff.mp hstep
    have hevents : ∀ event ∈ events, ¬ event.OfHandshake := by
      cases a <;> cases answer <;> simp only [Announcement.step] at ha <;> (try split at ha) <;>
        cases ha <;> simp [Event.OfHandshake]
    cases next <;> constructor <;> simp [goOn, finish] <;> exact hevents
  | validate v =>
    obtain ⟨⟨v', events⟩, hv, rfl⟩ := Option.map_eq_some_iff.mp hstep
    refine of_validation hv ?_ ?_ <;> intro x <;> unfold afterValidate <;> split <;> simp
  | single v =>
    obtain ⟨⟨v', events⟩, hv, rfl⟩ := Option.map_eq_some_iff.mp hstep
    refine of_validation hv ?_ ?_ <;> intro x <;> unfold afterSingle <;> split <;> simp
  | batch b =>
    obtain ⟨⟨next, events⟩, hb, rfl⟩ := Option.map_eq_some_iff.mp hstep
    refine ⟨rfl, rfl, ?_, ?_, batch_events hb⟩ <;> intro x <;> cases next <;> simp
  | follow loop =>
    obtain ⟨⟨next, events⟩, hloop, rfl⟩ := Option.map_eq_some_iff.mp hstep
    exact of_follow hloop

end Turn.Bystands

end Task

/-! ## Handshakes in a run -/

namespace Server

/-- Task `n` of a server is a handshake that has come to `h`. -/
def Shakes (s : Server) (n : Nat) (h : Handshake) : Prop := (n, .handshake h) ∈ s.tasks

theorem workspace_after (s : Server) (n : Nat) (turn : Task.Turn) :
    (s.after n turn).shared.workspace = turn.shared.workspace := by
  rw [after_eq]
  cases turn.spawned with
  | none => simp
  | some spawn => cases spawn <;> simp [start, add]

namespace Run
variable {config : Config} (e : Run (.initial config))

/-- In tick `t` the handshake of task `n` makes a step, with what follows. -/
structure HandshakeTick (t n : Nat) (answer : Answer) (h : Handshake) (next : Handshake.Next)
    (events : List Event) : Prop where
  moved : ∃ place, e.move t = some (.advance n place answer)
  running : (e.state t).task? n = some (.handshake h)
  goes : h.Goes (e.state t).shared n answer (e.state (t + 1)).shared next events
  tasks : ∀ k task, (k, task) ∈ (e.state (t + 1)).tasks ↔
    (k, task) ∈ (e.state t).tasks ∧ k ≠ n ∨ k = n ∧ next.onward = .inl task
  written : e.written t = entries n ⟨(e.state (t + 1)).shared, next.onward, none, events⟩

/-- A tick in which no handshake makes a step. -/
structure BystanderTick (t : Nat) : Prop where
  still : ∀ {n place answer h}, e.move t = some (.advance n place answer) →
    (e.state t).task? n ≠ some (.handshake h)
  phase : (e.state (t + 1)).shared.phase = (e.state t).shared.phase
  workspace : (e.state (t + 1)).shared.workspace = (e.state t).shared.workspace
  shakes : ∀ n h, (e.state (t + 1)).Shakes n h → (e.state t).Shakes n h ∨
    n = (e.state t).fresh ∧ ∃ params, h = .checking params ∧
      e.move t = some (.arrive (.handshake params))
  stays : ∀ n h, (e.state t).Shakes n h → (e.state (t + 1)).Shakes n h ∨
    e.move t = some (.abandon n)
  written : ∀ event ∈ e.written t, ¬ event.OfHandshake

variable {e}

theorem handshake_tick {t n place : Nat} {answer : Answer} {h : Handshake}
    (hmove : e.move t = some (.advance n place answer))
    (htask : (e.state t).task? n = some (.handshake h)) :
    ∃ next events, e.HandshakeTick t n answer h next events := by
  obtain ⟨task, turn, htask', hturn, hafter, hwritten⟩ := e.advanced hmove
  cases htask.symm.trans htask'
  obtain ⟨next, hgoes, hnext, hspawned⟩ := Task.handshake_goes hturn
  refine ⟨next, turn.events, ⟨place, hmove⟩, htask, ?_, ?_, ?_⟩
  · rw [hafter, after_eq, hspawned, Option.elim_none, shared_settled]
    exact hgoes
  · intro k task
    rw [hafter, mem_after htask, hnext, hspawned]
    simp
  · rw [hwritten, entries, entries, hnext]

/-- A request or a started task is a handshake only if the editor opens with one. -/
theorem handshake_of_new {n : Nat} {h : Handshake} {request : Request}
    (heq : Task.handshake h = .ofRequest n request) :
    ∃ params, h = .checking params ∧ request = .handshake params := by
  cases request with
  | handshake params => cases heq; exact ⟨params, rfl, rfl⟩
  | changeDocument url texts version =>
    simp only [Task.ofRequest] at heq
    cases htext : texts.getLast? <;> rw [htext] at heq <;> cases heq
  | _ => cases heq

theorem shakes_succ {t n : Nat} {h : Handshake} (hs : (e.state (t + 1)).Shakes n h) :
    (e.state t).Shakes n h ∨
    (n = (e.state t).fresh ∧ ∃ params, h = .checking params ∧
      e.move t = some (.arrive (.handshake params))) ∨
    ∃ answer old events, e.HandshakeTick t n answer old (.goOn h) events := by
  rcases e.task_succ hs with ⟨old, hold, heq⟩ |
      ⟨place, answer, old, turn, hmove, hold, hturn, _, hnext⟩ |
      ⟨hfresh, ⟨request, hmove, heq⟩ | ⟨spawn, heq⟩⟩
  · refine Or.inl ?_
    have hsame : old = .handshake h := by
      rcases heq with rfl | ⟨path, heq⟩
      · rfl
      · cases old <;> cases heq
        rfl
    rw [hsame] at hold
    exact hold
  · refine Or.inr (Or.inr ?_)
    cases old with
    | handshake old =>
      obtain ⟨next, events, htick⟩ := handshake_tick hmove hold
      have hgone : next = .goOn h := by
        rcases (htick.tasks n (.handshake h)).mp hs with ⟨_, hne⟩ | ⟨_, honward⟩
        · exact absurd rfl hne
        · cases next <;> cases honward
          rfl
      exact ⟨answer, old, events, hgone ▸ htick⟩
    | _ => exact absurd hnext ((Task.Turn.Bystands.of_step (by simp) hturn).next h)
  · obtain ⟨params, rfl, rfl⟩ := handshake_of_new heq
    exact Or.inr (Or.inl ⟨hfresh, params, rfl, hmove⟩)
  · cases spawn <;> cases heq

/-- **A handshake makes a step, or nothing of what handshakes do is done.** -/
theorem tick_cases (t : Nat) : e.BystanderTick t ∨
    ∃ n answer h next events, e.HandshakeTick t n answer h next events := by
  by_cases hmoves : ∃ n answer h next events, e.HandshakeTick t n answer h next events
  · exact Or.inr hmoves
  · have hstill {n place : Nat} {answer : Answer} {h : Handshake}
        (hmove : e.move t = some (.advance n place answer)) :
        (e.state t).task? n ≠ some (.handshake h) := by
      intro htask
      obtain ⟨next, events, htick⟩ := handshake_tick hmove htask
      exact hmoves ⟨n, answer, h, next, events, htick⟩
    have hturn {n place : Nat} {answer : Answer} {task : Task} {turn : Task.Turn}
        (hmove : e.move t = some (.advance n place answer))
        (htask : (e.state t).task? n = some task)
        (hstep : task.step (e.state t).config (e.state t).shared n place answer = some turn) :
        Task.Turn.Bystands (e.state t).shared turn := by
      refine .of_step ?_ hstep
      rintro h rfl
      exact hstill hmove htask
    have hshared : (e.state (t + 1)).shared.phase = (e.state t).shared.phase ∧
        (e.state (t + 1)).shared.workspace = (e.state t).shared.workspace := by
      rcases e.next t with hidle | ⟨m, hm, hstep⟩
      · rw [hidle]; exact ⟨rfl, rfl⟩
      · cases m with
        | arrive request => rw [step_arrive hstep]; exact ⟨rfl, rfl⟩
        | fileChanged changed =>
          rw [step_fileChanged hstep, (deliver_rest _ changed).1]
          exact ⟨rfl, rfl⟩
        | abandon n => rw [step_abandon hstep]; exact ⟨rfl, rfl⟩
        | advance n place answer =>
          obtain ⟨task, turn, htask, hstep, hafter, _⟩ := e.advanced hm
          have hbystands := hturn hm htask hstep
          rw [hafter, (shared_after _ n turn).1, workspace_after]
          exact ⟨hbystands.phase, hbystands.workspace⟩
    refine Or.inl ⟨hstill, hshared.1, hshared.2, ?_, ?_, ?_⟩
    · intro n h hs
      rcases shakes_succ hs with hold | hnew | ⟨answer, old, events, htick⟩
      · exact Or.inl hold
      · exact Or.inr hnew
      · exact absurd ⟨_, _, _, _, _, htick⟩ hmoves
    · intro n h hs
      rcases e.stays_succ (fun _ => rfl) hs with ⟨place, answer, hmove⟩ | habandon | hstays
      · exact absurd ((e.numbered t).task?_eq hs) (hstill hmove)
      · exact Or.inr habandon
      · exact Or.inl hstays
    · intro event hmem
      obtain ⟨n, place, answer, task, turn, hmove, htask, hstep, _, hentry⟩ := e.written_cases hmem
      have hbystands := hturn hmove htask hstep
      rcases mem_entries_cases hentry with hevent | ⟨outcome, hout, rfl⟩
      · exact hbystands.events event hevent
      · cases outcome with
        | handshake result => exact absurd hout (hbystands.outcome result)
        | _ => exact id

theorem HandshakeTick.shakes {t n k : Nat} {answer : Answer} {h h' : Handshake}
    {next : Handshake.Next} {events : List Event}
    (htick : e.HandshakeTick t n answer h next events) :
    (e.state (t + 1)).Shakes k h' ↔
      (e.state t).Shakes k h' ∧ k ≠ n ∨ k = n ∧ next = .goOn h' := by
  unfold Shakes
  rw [htick.tasks]
  cases next <;> simp [Handshake.Next.onward]

end Run

/-! ## Whose engine a server has -/

/-- Engines carry the number of the handshake that loaded them, and a server that is
ready has the engine of a handshake that runs no more. -/
structure Stamped (s : Server) : Prop where
  ready : ∀ {engine : Engine}, s.shared.phase = .ready engine →
    engine.load < s.fresh ∧ ∀ task, (engine.load, task) ∉ s.tasks
  concluding : ∀ {n : Nat} {engine : Engine}, s.Shakes n (.concluding (.ok engine)) →
    engine.load = n

namespace Run
variable {config : Config} {e : Run (.initial config)}

theorem HandshakeTick.stamped {t n : Nat} {answer : Answer} {h : Handshake} {next : Handshake.Next}
    {events : List Event} (htick : e.HandshakeTick t n answer h next events)
    (hs : (e.state t).Stamped) : (e.state (t + 1)).Stamped := by
  have hrunning : (n, .handshake h) ∈ (e.state t).tasks := mem_of_task? htick.running
  have hready (hphase : (e.state (t + 1)).shared.phase = (e.state t).shared.phase)
      {engine : Engine} (hengine : (e.state (t + 1)).shared.phase = .ready engine) :
      engine.load < (e.state (t + 1)).fresh ∧
        ∀ task, (engine.load, task) ∉ (e.state (t + 1)).tasks := by
    obtain ⟨hgiven, hgone⟩ := hs.ready (hphase ▸ hengine)
    exact gone_succ hgiven hgone
  have hconcluding (hnext : ∀ engine, next ≠ .goOn (.concluding (.ok engine))) {k : Nat}
      {engine : Engine} (hk : (e.state (t + 1)).Shakes k (.concluding (.ok engine))) :
      engine.load = k := by
    rcases htick.shakes.mp hk with ⟨hold, _⟩ | ⟨_, heq⟩
    · exact hs.concluding hold
    · exact absurd heq (hnext engine)
  have hgoes := htick.goes
  generalize hshared : (e.state (t + 1)).shared = shared' at hgoes
  cases hgoes with
  | kept params hphase =>
    exact ⟨hready (by rw [hshared]), hconcluding (by simp)⟩
  | begun params hphase =>
    refine ⟨?_, hconcluding (by simp)⟩
    intro engine hengine
    rw [hshared] at hengine
    cases hengine
  | recorded params => exact ⟨hready (by rw [hshared]), hconcluding (by simp)⟩
  | called workspace => exact ⟨hready (by rw [hshared]), hconcluding (by simp)⟩
  | loaded workspace result hanswer =>
    refine ⟨hready (by rw [hshared]), ?_⟩
    intro k engine hk
    rcases htick.shakes.mp hk with ⟨hold, _⟩ | ⟨rfl, heq⟩
    · exact hs.concluding hold
    · cases result with
      | ok name => cases heq; rfl
      | error error => cases heq
  | concluded result =>
    refine ⟨?_, hconcluding (by simp)⟩
    intro engine hengine
    rw [hshared] at hengine
    cases result with
    | error error => cases hengine
    | ok loaded =>
      -- the engine is the one of the handshake that has just ended
      cases hengine
      rw [hs.concluding hrunning]
      refine ⟨Nat.lt_of_lt_of_le ((e.numbered t).given _ hrunning) (e.fresh_succ t), ?_⟩
      intro task hmem
      rcases (htick.tasks n task).mp hmem with ⟨_, hne⟩ | ⟨_, hnext⟩
      · exact hne rfl
      · cases hnext

theorem stamped (t : Nat) : (e.state t).Stamped := by
  induction t with
  | zero =>
    rw [e.initial_state]
    constructor
    · intro engine hengine
      cases hengine
    · intro n engine hmem
      cases hmem
  | succ t ih =>
    rcases tick_cases t with hquiet | ⟨n, answer, h, next, events, htick⟩
    · constructor
      · intro engine hengine
        rw [hquiet.phase] at hengine
        obtain ⟨hgiven, hgone⟩ := ih.ready hengine
        exact gone_succ hgiven hgone
      · intro n engine hmem
        rcases hquiet.shakes n _ hmem with hold | ⟨_, _, hnew, _⟩
        · exact ih.concluding hold
        · cases hnew
    · exact htick.stamped ih

end Run

/-! ## How long a server stays ready -/

/-- The handshake of task `n` has found the server not ready, and has not concluded. -/
def UnderWay (s : Server) (n : Nat) : Prop := ∃ h, s.Shakes n h ∧ h.HasBegun

namespace Run
variable {config : Config} (e : Run (.initial config))

/-- In tick `t` the handshake of task `n` sets the phase its load has led to. -/
def Concludes (t n : Nat) : Prop :=
  ∃ place answer result, e.move t = some (.advance n place answer) ∧
    (e.state t).task? n = some (.handshake (.concluding result))

variable {e}

/-- A server that is ready stays so in a tick in which no handshake concludes, and
no handshake gets under way. -/
theorem ready_succ {t : Nat} {engine : Engine}
    (hready : (e.state t).shared.phase = .ready engine) (hno : ∀ n, ¬ e.Concludes t n) :
    (e.state (t + 1)).shared.phase = .ready engine ∧
      ∀ n, (e.state (t + 1)).UnderWay n → (e.state t).UnderWay n := by
  rcases tick_cases t with hquiet | ⟨n, answer, h, next, events, htick⟩
  · refine ⟨hquiet.phase.trans hready, ?_⟩
    rintro n ⟨h, hshakes, hunder⟩
    rcases hquiet.shakes n h hshakes with hold | ⟨_, params, rfl, _⟩
    · exact ⟨h, hold, hunder⟩
    · exact absurd hunder id
  · have hrunning : (e.state t).Shakes n h := mem_of_task? htick.running
    -- the others stand where they stood, and this one was under way if it now is
    have hothers (hunder : ∀ h', next = .goOn h' → h.HasBegun) (k : Nat) :
        (e.state (t + 1)).UnderWay k → (e.state t).UnderWay k := by
      rintro ⟨h', hshakes, hk⟩
      rcases htick.shakes.mp hshakes with ⟨hold, _⟩ | ⟨rfl, hnext⟩
      · exact ⟨h', hold, hk⟩
      · exact ⟨h, hrunning, hunder h' hnext⟩
    have hgoes := htick.goes
    generalize (e.state (t + 1)).shared = shared' at hgoes ⊢
    cases hgoes with
    | kept params hphase => exact ⟨hready, hothers (by simp)⟩
    | begun params hphase =>
      rw [hready] at hphase
      cases hphase
    | recorded | called | loaded => exact ⟨hready, hothers fun _ _ => trivial⟩
    | concluded result =>
      obtain ⟨place, hmove⟩ := htick.moved
      exact absurd ⟨place, answer, result, hmove, htick.running⟩ (hno n)

/-- While the handshakes that were under way do not conclude, a server that is ready
stays ready, and no other handshake gets under way. -/
theorem ready_mono {t u : Nat} {engine : Engine}
    (hready : (e.state t).shared.phase = .ready engine) (htu : t ≤ u)
    (hno : ∀ w n, t ≤ w → w < u → (e.state t).UnderWay n → ¬ e.Concludes w n) :
    (e.state u).shared.phase = .ready engine ∧
      ∀ n, (e.state u).UnderWay n → (e.state t).UnderWay n := by
  obtain ⟨d, rfl⟩ := Nat.exists_eq_add_of_le htu
  clear htu
  induction d with
  | zero => exact ⟨hready, fun _ => id⟩
  | succ d ih =>
    obtain ⟨hphase, hunder⟩ := ih fun w n htw hwd => hno w n htw (Nat.lt_succ_of_lt hwd)
    have hquiet (n : Nat) : ¬ e.Concludes (t + d) n := by
      rintro ⟨place, answer, result, hmove, htask⟩
      have hn : (e.state t).UnderWay n := hunder n ⟨_, mem_of_task? htask, trivial⟩
      exact hno (t + d) n (Nat.le_add_right t d) (Nat.lt_succ_self _) hn
        ⟨place, answer, result, hmove, htask⟩
    obtain ⟨hphase', hunder'⟩ := ready_succ hphase hquiet
    exact ⟨hphase', fun n hn => hunder n (hunder' n hn)⟩

/-- A handshake that concludes leaves a server that was ready without its engine. -/
theorem ready_lost_of_concludes {t n : Nat} {engine : Engine}
    (hready : (e.state t).shared.phase = .ready engine) (hconcludes : e.Concludes t n) :
    (e.state (t + 1)).shared.phase ≠ .ready engine := by
  obtain ⟨place, answer, result, hmove, htask⟩ := hconcludes
  obtain ⟨next, events, htick⟩ := handshake_tick hmove htask
  have hrunning : (e.state t).Shakes n (.concluding result) := mem_of_task? htask
  have hgoes := htick.goes
  generalize (e.state (t + 1)).shared = shared' at hgoes ⊢
  cases hgoes with
  | concluded result =>
    cases result with
    | error error => simp [Phase.ofLoad]
    | ok loaded =>
      -- the new engine has the number of a task that runs, and the old one has not
      intro hsame
      cases hsame
      have hload := (stamped t).concluding hrunning
      exact ((stamped t).ready hready).2 _ (hload ▸ hrunning)

/-- **How long a server stays ready.**  A server that is ready with an engine stays
ready with that engine just as long as no handshake concludes that was under way
already, however many handshakes overlap and whatever their loads lead to. -/
theorem ready_kept_iff {config : Config} (e : Run (.initial config)) {t u : Nat} {engine : Engine}
    (hready : (e.state t).shared.phase = .ready engine) :
    (∀ w, t ≤ w → w ≤ u → (e.state w).shared.phase = .ready engine) ↔
      ∀ w n, t ≤ w → w < u → (e.state t).UnderWay n → ¬ e.Concludes w n := by
  constructor
  · intro hkept w n htw hwu _ hconcludes
    exact ready_lost_of_concludes (hkept w htw (Nat.le_of_lt hwu)) hconcludes
      (hkept (w + 1) (Nat.le_succ_of_le htw) hwu)
  · intro hno w htw hwu
    exact (ready_mono hready htw fun v n htv hvw => hno v n htv (Nat.lt_of_lt_of_le hvw hwu)).1

end Run

/-! ### A handshake fails after another one has succeeded

Both handshakes find the server not ready.  The load of the first succeeds, and it
concludes in tick 9; the load of the second fails, and it concludes in tick 11. -/

namespace Sample

/-- The run. -/
def overlapping : Run (.initial .default) :=
  .ofMoves (.initial .default) [.arrive (.handshake bare),
    .arrive (.handshake bare), .advance 0 0 .proceed, .advance 1 0 .proceed,
    .advance 0 0 .proceed, .advance 1 0 .proceed, .advance 0 0 .proceed, .advance 1 0 .proceed,
    .advance 0 0 (.loaded (.ok "standard")), .advance 0 0 .proceed,
    .advance 1 0 (.loaded (.error (.notFound "standard"))), .advance 1 0 .proceed] rfl

theorem overlapping_ready : (overlapping.state 10).shared.phase = .ready ⟨"standard", 0⟩ := rfl

theorem overlapping_fails : (overlapping.state 12).shared.phase = .failed true := rfl

end Sample

namespace Run

/-- The second handshake was under way when the server was ready, and it concludes. -/
theorem ready_kept_iff_overlapping :
    (Sample.overlapping.state 10).shared.phase = .ready ⟨"standard", 0⟩ ∧
      ∃ w n, 10 ≤ w ∧ w < 12 ∧ (Sample.overlapping.state 10).UnderWay n ∧
        Sample.overlapping.Concludes w n := by
  refine ⟨Sample.overlapping_ready, ?_⟩
  have hnot := mt (Sample.overlapping.ready_kept_iff (u := 12) Sample.overlapping_ready).mpr
  simp only [Classical.not_forall, Classical.not_not] at hnot
  obtain ⟨w, n, htw, hwu, hunder, hconcludes⟩ := hnot ⟨12, by decide, by decide, by
    rw [Sample.overlapping_fails]; simp⟩
  exact ⟨w, n, htw, hwu, hunder, hconcludes⟩

/-- **A server that is ready can fail**: it is not so that in every run a server that
is ready with an engine is ready with it ever after. -/
theorem ready_lost : ¬ ∀ (config : Config) (e : Run (.initial config)) (t u : Nat)
    (engine : Engine), (e.state t).shared.phase = .ready engine → t ≤ u →
    (e.state u).shared.phase = .ready engine := by
  intro hall
  have hstill := hall .default Sample.overlapping 10 12 _ Sample.overlapping_ready (by decide)
  rw [Sample.overlapping_fails] at hstill
  cases hstill

end Run

end Server

end LintServer
