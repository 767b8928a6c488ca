import LintServer.Proofs.Server.Flight

/-! # A task on its own

What a task does while no other one moves and the engine treats each document in a
way that is fixed beforehand (`Treatment`).  `Server.Finishes` says that the task comes
to an end however it goes on, and what holds then.  `Task.Writes` says the same of the
events that are written meanwhile, and `Task.Writes.of_steps` reduces it to the task's
single steps.

`Stage.outlook` is what a validation on its own leads to: what it publishes, and the
failure it ends with.  A step keeps the outlook but for what it publishes
(`Validation.step_outlook`), so the outlook of a document is what a task that validates
it leads to (`writes_validate`).
-/
namespace LintServer

/-! ## The engine's part -/

/-- How the engine treats a document. -/
inductive Treatment
  /-- It does not take the text. -/
  | refuses (error : EngineError)
  /-- It takes the text, and the lint call ends so. -/
  | ends (result : Except EngineError Json)

namespace Treatment

/-- How a lint call ends. -/
def result : Treatment → Except EngineError Json
  | .refuses error => .error error
  | .ends result => result

/-- The answers that agree with a treatment.  Those the engine has no part in all do. -/
def Allows : Treatment → Answer → Prop
  | .refuses _, .taken => False
  | .refuses error, .refused error' => error' = error
  | .ends _, .refused _ => False
  | treatment, .linted result => result = treatment.result
  | _, _ => True

end Treatment

/-! ## What a validation leads to -/

/-- What a validation publishes, if anything, and what it fails with, if it does. -/
structure Outlook where
  published : Option (List Diagnostic)
  failure : Option EngineError

/-- The set of diagnostics an event publishes, and the document. -/
def Event.publication? : Event → Option (Url × List Diagnostic)
  | .published _ url ds => some (url, ds)
  | _ => none

namespace Stage

/-- How many steps a validation can still make. -/
def rank : Stage → Nat
  | .findEngine => 7
  | .readText _ => 6
  | .readSettings _ _ => 5
  | .callEngine _ => 4
  | .awaitReport _ => 3
  | .compareSettings _ _ => 2
  | .publish _ _ => 1
  | .ended _ => 0

theorem rank_afterReading (snapshot : Snapshot) : (afterReading snapshot).rank < 5 := by
  unfold afterReading
  split <;> simp [rank]

theorem rank_afterAnswer (snapshot : Snapshot) (finding : Finding) :
    (afterAnswer snapshot finding).rank < 3 := by
  unfold afterAnswer
  split
  · split <;> simp [rank]
  · simp [rank]

/-- **What a validation of a document leads to from a stage on**, when nothing else
changes the shared state. -/
def outlook (shared : Shared) (treatment : Treatment) (url : Url) : Stage → Outlook
  | .findEngine =>
    match shared.phase.engine? with
    | none => ⟨none, none⟩
    | some engine => outlook shared treatment url (.readText engine)
  | .readText engine =>
    match shared.documents.get? url with
    | none => ⟨none, none⟩
    | some document => outlook shared treatment url (.readSettings engine document.text)
  | .readSettings engine text =>
    outlook shared treatment url (.afterReading ⟨engine, text, shared.settings⟩)
  | .callEngine snapshot =>
    match treatment with
    | .refuses error => ⟨none, some error⟩
    | .ends _ => outlook shared treatment url (.awaitReport snapshot)
  | .awaitReport snapshot =>
    outlook shared treatment url (.afterAnswer snapshot (.ofResult treatment.result))
  | .compareSettings snapshot finding =>
    if shared.settings.generation = snapshot.settings.generation then
      outlook shared treatment url (.publish snapshot finding)
    else ⟨none, none⟩
  | .publish snapshot finding =>
    ⟨some (translate finding.report? snapshot.engine.name), finding.failure?⟩
  | .ended failure => ⟨none, failure⟩
termination_by stage => stage.rank
decreasing_by
  all_goals first
    | exact rank_afterReading _
    | exact rank_afterAnswer _ _
    | simp [rank]

theorem Goes.rank_lt {shared : Shared} {origin : Origin} {url : Url} {stage stage' : Stage}
    {events : List Event} (h : Goes shared origin url stage stage' events) :
    stage'.rank < stage.rank := by
  cases h with
  | settings => exact rank_afterReading _
  | answered => exact rank_afterAnswer _ _
  | _ => simp [rank]

end Stage

namespace Validation

/-- What a validation leads to from where it stands. -/
def outlook (shared : Shared) (treat : Url → Treatment) (v : Validation) : Outlook :=
  v.stage.outlook shared (treat v.url) v.url

theorem outlook_of_ended {shared : Shared} {treat : Url → Treatment} {v : Validation}
    {failure : Option EngineError} (h : v.stage = .ended failure) :
    v.outlook shared treat = ⟨none, failure⟩ := by
  rw [outlook, h, Stage.outlook]

/-- What is still to be published by it. -/
def due (shared : Shared) (treat : Url → Treatment) (v : Validation) :
    Option (Url × List Diagnostic) :=
  (v.outlook shared treat).published.map fun ds => (v.url, ds)

/-- A step that publishes is the last one and carries out the outlook; any other
step keeps it. -/
theorem outlook_cases {shared : Shared} {treat : Url → Treatment} {answer : Answer}
    {v v' : Validation} {events : List Event} (hallows : (treat v.url).Allows answer)
    (h : v.step shared answer = some (v', events)) :
    (v'.stage.outlook shared (treat v.url) v.url = v.outlook shared treat ∧
      events.filterMap Event.publication? = []) ∨
    ∃ ds failure, v.outlook shared treat = ⟨some ds, failure⟩ ∧
      v'.stage.outlook shared (treat v.url) v.url = ⟨none, failure⟩ ∧
      events.filterMap Event.publication? = [(v.url, ds)] := by
  obtain ⟨origin, url, stage⟩ := v
  unfold Validation.step at h
  unfold Validation.outlook
  dsimp only at h hallows ⊢
  generalize treat url = treatment at hallows ⊢
  split at h
  · split at h <;> cases h <;> exact Or.inl ⟨by simp [Stage.outlook, *], rfl⟩
  · split at h <;> cases h <;> exact Or.inl ⟨by simp [Stage.outlook, *], rfl⟩
  · cases h
    refine Or.inl ⟨?_, rfl⟩
    conv => rhs; rw [Stage.outlook]
  · cases h
    cases treatment with
    | refuses error => exact absurd hallows id
    | ends result =>
      refine Or.inl ⟨?_, rfl⟩
      conv => rhs; rw [Stage.outlook]
  · cases h
    cases treatment with
    | refuses error => cases hallows; exact Or.inl ⟨by simp [Stage.outlook], rfl⟩
    | ends result => exact absurd hallows id
  · cases h
    refine Or.inl ⟨?_, rfl⟩
    conv => rhs; rw [Stage.outlook]
    cases treatment <;> cases hallows <;> rfl
  · split at h <;> cases h <;> exact Or.inl ⟨by simp [Stage.outlook, *], rfl⟩
  · cases h
    exact Or.inr ⟨_, _, by rw [Stage.outlook], by rw [Stage.outlook], rfl⟩
  · cases h

/-- **A step keeps the outlook, but for what it publishes.** -/
theorem step_outlook {shared : Shared} {treat : Url → Treatment} {answer : Answer}
    {v v' : Validation} {events : List Event} (hallows : (treat v.url).Allows answer)
    (h : v.step shared answer = some (v', events)) :
    (v'.outlook shared treat).failure = (v.outlook shared treat).failure ∧
      events.filterMap Event.publication? ++ (v'.due shared treat).toList =
        (v.due shared treat).toList := by
  have hurl : v'.url = v.url := (Validation.goes h).2.1
  have hafter : v'.outlook shared treat = v'.stage.outlook shared (treat v.url) v.url := by
    rw [Validation.outlook, hurl]
  unfold due
  rw [hafter, hurl]
  rcases outlook_cases hallows h with ⟨hsame, hnone⟩ | ⟨ds, failure, hbefore, hlast, hevents⟩
  · rw [hsame, hnone]
    exact ⟨rfl, rfl⟩
  · rw [hbefore, hlast, hevents]
    exact ⟨rfl, rfl⟩

/-- A validation that has not ended can go on, however the engine treats the document. -/
theorem can_step (shared : Shared) (treatment : Treatment) {v : Validation}
    (h : v.stage.isEnded = false) :
    ∃ answer v' events, treatment.Allows answer ∧ v.step shared answer = some (v', events) := by
  obtain ⟨origin, url, stage⟩ := v
  have hproceed (hstep : (Validation.step shared .proceed ⟨origin, url, stage⟩).isSome = true) :
      ∃ answer v' events, treatment.Allows answer ∧
        Validation.step shared answer ⟨origin, url, stage⟩ = some (v', events) := by
    obtain ⟨⟨v', events⟩, hv⟩ := Option.isSome_iff_exists.mp hstep
    exact ⟨.proceed, v', events, by cases treatment <;> trivial, hv⟩
  cases stage with
  | findEngine =>
    refine hproceed ?_
    cases hengine : shared.phase.engine? <;> simp [step, hengine]
  | readText engine =>
    refine hproceed ?_
    cases hdocument : shared.documents.get? url <;> simp [step, hdocument]
  | readSettings engine text => exact hproceed rfl
  | callEngine snapshot =>
    cases treatment with
    | refuses error => exact ⟨.refused error, _, _, rfl, rfl⟩
    | ends result => exact ⟨.taken, _, _, trivial, rfl⟩
  | awaitReport snapshot =>
    exact ⟨.linted treatment.result, _, _, by cases treatment <;> rfl, rfl⟩
  | compareSettings snapshot finding =>
    refine hproceed ?_
    by_cases hsame : shared.settings.generation = snapshot.settings.generation <;>
      simp [step, hsame]
  | publish snapshot finding => exact hproceed rfl
  | ended failure => cases h

end Validation

/-! ## Steps of one task alone -/

namespace Task

/-- The validation that moves when a task makes a step at some place. -/
def mover (place : Nat) : Task → Option Validation
  | .validate v | .single v => some v
  | task => task.flights[place]?

/-- An answer agrees with how the engine treats the document that is validated. -/
def Accepts (treat : Url → Treatment) (task : Task) (place : Nat) (answer : Answer) : Prop :=
  ∀ v, task.mover place = some v → (treat v.url).Allows answer

end Task

namespace Server

/-- Task `n` makes a step, and the engine treats the documents as `treat` says. -/
def Alone (n : Nat) (treat : Url → Treatment) (s s' : Server) : Prop :=
  ∃ task place answer, s.task? n = some task ∧ task.Accepts treat place answer ∧
    s.step (.advance n place answer) = some s'

/-- **However task `n` goes on alone, it comes to an end, and `goal` holds then.** -/
inductive Finishes (n : Nat) (treat : Url → Treatment) (goal : Server → Prop) : Server → Prop
  | ended {s : Server} (h : s.task? n = none) (hgoal : goal s) : Finishes n treat goal s
  | moves {s : Server} (hcan : ∃ s', Alone n treat s s')
    (hall : ∀ s', Alone n treat s s' → Finishes n treat goal s') : Finishes n treat goal s

theorem Finishes.mono {n : Nat} {treat : Url → Treatment} {goal goal' : Server → Prop} {s : Server}
    (h : s.Finishes n treat goal) (himp : ∀ s, goal s → goal' s) : s.Finishes n treat goal' := by
  induction h with
  | ended h hgoal => exact .ended h (himp _ hgoal)
  | moves hcan _ ih => exact .moves hcan ih

theorem lookup_replace {n : Nat} {old task : Task} {tasks : List (Nat × Task)}
    (h : tasks.lookup n = some old) :
    (tasks.map fun e => if e.1 = n then (n, task) else e).lookup n = some task := by
  induction tasks with
  | nil => cases h
  | cons e more ih =>
    obtain ⟨k, other⟩ := e
    by_cases hk : k = n
    · simp [hk]
    · have hne : (n == k) = false := by simpa using fun he : n = k => hk he.symm
      rw [List.lookup_cons, hne] at h
      simp [hk, List.lookup_cons, hne, ih h]

section Steps
variable {s : Server} {n : Nat} {old : Task} {turn : Task.Turn}

/-- The server after a step that starts no task. -/
theorem after_of_spawned (hspawned : turn.spawned = none) : s.after n turn = s.settled n turn := by
  rw [after_eq, hspawned, Option.elim_none]

theorem config_settled : (s.settled n turn).config = s.config := by
  unfold settled
  split <;> rfl

theorem task?_settled_inl {task : Task} (hold : s.task? n = some old)
    (hnext : turn.next = .inl task) : (s.settled n turn).task? n = some task := by
  unfold settled
  rw [hnext]
  exact lookup_replace hold

theorem task?_settled_inr {outcome : Outcome} (hnext : turn.next = .inr outcome) :
    (s.settled n turn).task? n = none := by
  unfold settled
  rw [hnext]
  refine List.lookup_eq_none_iff.mpr ?_
  intro e he
  have hne : e.1 ≠ n := by simpa using (List.mem_filter.mp he).2
  simpa using hne.symm

end Steps

end Server

namespace Task

/-- **However the task goes on alone from here, it comes to an end, and `P` holds of what
it writes until then, in this order, and of its outcome.** -/
def Writes (config : Config) (shared : Shared) (n : Nat) (treat : Url → Treatment) (task : Task)
    (P : List Event → Outcome → Prop) : Prop :=
  ∀ s : Server, s.config = config → s.shared = shared → s.task? n = some task →
    s.Finishes n treat fun s' => ∃ written outcome, P written outcome ∧
      s'.journal = .ended n outcome :: (written.reverse ++ s.journal)

section Writes
variable {config : Config} {shared : Shared} {n : Nat} {treat : Url → Treatment}

theorem Writes.mono {task : Task} {P Q : List Event → Outcome → Prop}
    (h : task.Writes config shared n treat P)
    (himp : ∀ written outcome, P written outcome → Q written outcome) :
    task.Writes config shared n treat Q := by
  intro s hconfig hshared htask
  refine (h s hconfig hshared htask).mono ?_
  rintro s' ⟨written, outcome, hP, hjournal⟩
  exact ⟨written, outcome, himp _ _ hP, hjournal⟩

/-- A task that can make a step writes what its steps write, and what is written after
them. -/
theorem Writes.of_steps {task : Task} {P : List Event → Outcome → Prop}
    (hcan : ∃ place answer turn, task.Accepts treat place answer ∧
      task.step config shared n place answer = some turn)
    (hall : ∀ place answer turn, task.Accepts treat place answer →
      task.step config shared n place answer = some turn →
      turn.shared = shared ∧ turn.spawned = none ∧
        turn.next.elim
          (fun next => next.Writes config shared n treat fun rest => P (turn.events ++ rest))
          (fun outcome => P turn.events outcome)) :
    task.Writes config shared n treat P := by
  rintro s rfl rfl htask
  refine .moves ?_ ?_
  · obtain ⟨place, answer, turn, haccepts, hturn⟩ := hcan
    have hstep : s.step (.advance n place answer) = some (s.after n turn) := by
      simp [Server.step, htask, hturn]
    exact ⟨s.after n turn, task, place, answer, htask, haccepts, hstep⟩
  · rintro s' ⟨task', place, answer, htask', haccepts, hstep⟩
    cases htask.symm.trans htask'
    obtain ⟨task', turn, htask', hturn, rfl⟩ := Server.step_advance hstep
    cases htask.symm.trans htask'
    obtain ⟨hshared, hspawned, hrest⟩ := hall place answer turn haccepts hturn
    have hjournal := Server.journal_settled s n turn
    rw [Server.after_of_spawned hspawned]
    cases hnext : turn.next with
    | inl next =>
      rw [hnext] at hrest
      refine (hrest _ Server.config_settled (by rw [Server.shared_settled, hshared])
        (Server.task?_settled_inl htask hnext)).mono ?_
      rintro s' ⟨written, outcome, hP, hlast⟩
      refine ⟨turn.events ++ written, outcome, hP, ?_⟩
      rw [hlast, hjournal, Server.entries, hnext]
      simp
    | inr outcome =>
      rw [hnext] at hrest
      refine .ended (Server.task?_settled_inr hnext) ⟨turn.events, outcome, hrest, ?_⟩
      rw [hjournal, Server.entries, hnext]
      rfl

theorem afterValidate_cases (v : Validation) :
    (∃ failure, v.stage = .ended failure ∧ afterValidate v = .inr (.validation failure)) ∨
      v.stage.isEnded = false ∧ afterValidate v = .inl (.validate v) := by
  unfold afterValidate
  cases v.stage with
  | ended failure => exact Or.inl ⟨failure, rfl, rfl⟩
  | _ => exact Or.inr ⟨rfl, rfl⟩

/-- **What validating a document alone leads to**: its outlook. -/
theorem writes_validate {v : Validation} (hgoing : v.stage.isEnded = false) :
    (Task.validate v).Writes config shared n treat fun written outcome =>
      outcome = .validation (v.outlook shared treat).failure ∧
        written.filterMap Event.publication? = (v.due shared treat).toList := by
  induction hrank : v.stage.rank using Nat.strongRecOn generalizing v with
  | _ rank ih =>
    subst hrank
    refine .of_steps ?_ ?_
    · obtain ⟨answer, v', events, hallows, hstep⟩ := v.can_step shared (treat v.url) hgoing
      refine ⟨0, answer, ⟨shared, afterValidate v', none, events⟩, ?_, ?_⟩
      · rintro w hw
        cases hw
        exact hallows
      · rw [step, hstep]
        rfl
    · intro place answer turn haccepts hturn
      obtain ⟨⟨v', events⟩, hstep, rfl⟩ := Option.map_eq_some_iff.mp hturn
      obtain ⟨hfailure, hdue⟩ := Validation.step_outlook (haccepts v rfl) hstep
      refine ⟨rfl, rfl, ?_⟩
      dsimp only
      rcases afterValidate_cases v' with ⟨failure, hended, hnext⟩ | ⟨hgoing', hnext⟩
      · rw [hnext]
        have hlast : v'.outlook shared treat = ⟨none, failure⟩ := Validation.outlook_of_ended hended
        rw [Validation.due, hlast] at hdue
        rw [hlast] at hfailure
        exact ⟨congrArg Outcome.validation hfailure, by simpa using hdue⟩
      · rw [hnext]
        refine (ih v'.stage.rank (Validation.goes hstep).2.2.rank_lt hgoing' rfl).mono ?_
        rintro rest outcome ⟨rfl, hrest⟩
        rw [List.filterMap_append, hrest]
        exact ⟨congrArg Outcome.validation hfailure, hdue⟩

end Writes

end Task

end LintServer
