import LintServer.Proofs.Server.Run

/-! # Validations in flight

What a step can do, said once for all theorems about servers.  `Stage.Goes` lists
what one step does to a validation, `Task.Turns` what one step does to a task: a
task moves one of the validations it holds (`Task.flights`), lists the documents
for a batch, tells of a failure, or changes the shared state.  `Live` says which
validations a server holds, and `Live.step` how a move gets them there.
-/
namespace LintServer

/-! ## Steps of a validation -/

/-- **What one step does to a validation**: the stage before it, the stage after
it, and the events it writes, in their order. -/
inductive Stage.Goes (shared : Shared) (origin : Origin) (url : Url) :
    Stage → Stage → List Event → Prop
  | noEngine (h : shared.phase.engine? = none) : Goes shared origin url .findEngine (.ended none) []
  | engine (engine : Engine) (h : shared.phase.engine? = some engine) :
    Goes shared origin url .findEngine (.readText engine) []
  | noText (engine : Engine) (h : shared.documents.get? url = none) :
    Goes shared origin url (.readText engine) (.ended none) []
  | text (engine : Engine) (document : Document) (h : shared.documents.get? url = some document) :
    Goes shared origin url (.readText engine) (.readSettings engine document.text) []
  | settings (engine : Engine) (text : String) :
    Goes shared origin url (.readSettings engine text)
      (.afterReading ⟨engine, text, shared.settings⟩)
      [.took origin url ⟨engine, text, shared.settings⟩]
  | taken (snapshot : Snapshot) :
    Goes shared origin url (.callEngine snapshot) (.awaitReport snapshot)
      [.called origin snapshot.engine snapshot.text snapshot.settings.options]
  | refused (snapshot : Snapshot) (error : EngineError) :
    Goes shared origin url (.callEngine snapshot) (.ended (some error))
      [.called origin snapshot.engine snapshot.text snapshot.settings.options,
        .refused origin error]
  | answered (snapshot : Snapshot) (result : Except EngineError Json) :
    Goes shared origin url (.awaitReport snapshot) (.afterAnswer snapshot (.ofResult result))
      [.answered origin (.ofResult result)]
  | confirmed (snapshot : Snapshot) (finding : Finding)
    (h : shared.settings.generation = snapshot.settings.generation) :
    Goes shared origin url (.compareSettings snapshot finding) (.publish snapshot finding) []
  | dropped (snapshot : Snapshot) (finding : Finding)
    (h : shared.settings.generation ≠ snapshot.settings.generation) :
    Goes shared origin url (.compareSettings snapshot finding) (.ended none) []
  | published (snapshot : Snapshot) (finding : Finding) :
    Goes shared origin url (.publish snapshot finding) (.ended finding.failure?)
      [.published (some origin) url (translate finding.report? snapshot.engine.name)]

/-- A step keeps a validation's origin and document. -/
theorem Validation.goes {shared : Shared} {answer : Answer} {v v' : Validation}
    {events : List Event} (h : v.step shared answer = some (v', events)) :
    v'.origin = v.origin ∧ v'.url = v.url ∧
      Stage.Goes shared v.origin v.url v.stage v'.stage events := by
  obtain ⟨origin, url, stage⟩ := v
  unfold Validation.step at h
  dsimp only at h
  split at h
  · split at h
    · cases h; exact ⟨rfl, rfl, .noEngine ‹_›⟩
    · cases h; exact ⟨rfl, rfl, .engine _ ‹_›⟩
  · split at h
    · cases h; exact ⟨rfl, rfl, .noText _ ‹_›⟩
    · cases h; exact ⟨rfl, rfl, .text _ _ ‹_›⟩
  · cases h; exact ⟨rfl, rfl, .settings _ _⟩
  · cases h; exact ⟨rfl, rfl, .taken _⟩
  · cases h; exact ⟨rfl, rfl, .refused _ _⟩
  · cases h; exact ⟨rfl, rfl, .answered _ _⟩
  · split at h
    · cases h; exact ⟨rfl, rfl, .confirmed _ _ ‹_›⟩
    · cases h; exact ⟨rfl, rfl, .dropped _ _ ‹_›⟩
  · cases h; exact ⟨rfl, rfl, .published _ _⟩
  · cases h

/-- What the user is told of a validation is the failure it ended with. -/
theorem Validation.notice?_eq_some {v : Validation} {message : String} :
    v.notice? = some message ↔
      ∃ error, v.stage = .ended (some error) ∧ error.notice v.url = message := by
  unfold Validation.notice?
  cases v.stage with
  | ended failure => simp [Stage.failure?]
  | _ => simp [Stage.failure?]

/-- The validation an event tells of. -/
def Event.origin? : Event → Option Origin
  | .took origin _ _ | .called origin _ _ _ | .refused origin _ | .answered origin _ => some origin
  | .published origin? _ _ => origin?
  | .shown _ _ | .noted _ _ | .asked _ _ | .loading _ _ | .ended _ _ => none

theorem Stage.Goes.origin?_eq {shared : Shared} {origin : Origin} {url : Url} {stage stage' : Stage}
    {events : List Event} (h : Stage.Goes shared origin url stage stage' events) :
    ∀ event ∈ events, event.origin? = some origin := by
  cases h <;> simp [Event.origin?]

/-! ## Steps of a task -/

/-- The validations of a batch. -/
def Batch.flights : Batch → List Validation
  | .validating flights => flights
  | _ => []

/-- The failures a batch is showing. -/
def Batch.tells : Batch → List String
  | .showing messages => messages
  | _ => []

namespace Task

/-- The batch a task is busy with. -/
def batch? : Task → Option Batch
  | .batch b => some b
  | .follow ⟨_, .validating b, _⟩ => some b
  | _ => none

/-- The validations a task holds. -/
def flights : Task → List Validation
  | .validate v | .single v => [v]
  | task => (task.batch?.map Batch.flights).getD []

/-- The failures a task is showing. -/
def tells : Task → List String
  | .showFailure message => [message]
  | task => (task.batch?.map Batch.tells).getD []

/-- How many batches a task has finished. -/
def round : Task → Nat
  | .follow loop => loop.round
  | _ => 0

/-- What becomes of a task whose batch has gone on, or is over. -/
def withBatch (next : Option Batch) : Task → Task ⊕ Outcome
  | .follow loop =>
    match next with
    | some b => .inl (.follow { loop with stage := .validating b })
    | none => .inl (.follow { loop with stage := .waiting, round := loop.round + 1 })
  | _ => next.elim (.inr .done) (.inl ∘ .batch)

/-- What becomes of a task whose validations have come to `flights`. -/
def resume (flights : List Validation) : Task → Task ⊕ Outcome
  | .validate v => afterValidate (flights.headD v)
  | .single v => afterSingle (flights.headD v)
  | task => task.withBatch (Batch.ofFlights flights)

/-- The first of a task's rounds none of whose validations has begun. -/
def unbegun (task : Task) : Nat :=
  match task, task.batch? with
  | .follow loop, none | .follow loop, some .listing => loop.round
  | .batch _, some .listing => 0
  | _, _ => task.round + 1

/-- A task lets a validation go on after its call only when all calls have been made. -/
def Lets (task : Task) (v : Validation) : Prop :=
  v.stage.isDispatched = true → ∀ w ∈ task.flights, w.stage.isDispatched = true

/-- An event that is neither about a validation nor shown to the user. -/
def Aside : Event → Prop
  | .noted _ _ | .asked _ _ | .loading _ _ | .ended _ _ => True
  | _ => False

/-- A task that has to do with the server's life and not with documents. -/
def IsService : Task → Prop
  | .handshake _ | .announce _ | .follow _ => True
  | _ => False

/-- **What one step does to a task** of number `number`. -/
inductive Turns (shared : Shared) (number : Nat) : Task → Turn → Prop
  /-- One of the task's validations moves. -/
  | flight (task : Task) (place : Nat) (answer : Answer) (v v' : Validation) (events : List Event)
    (hplace : task.flights[place]? = some v) (hstep : v.step shared answer = some (v', events))
    (hlets : task.Lets v) :
    Turns shared number task ⟨shared, task.resume (task.flights.set place v'), none, events⟩
  /-- A batch lists the documents. -/
  | list (task : Task) (urls : List Url) (hbatch : task.batch? = some .listing)
    (hurls : urls.Perm shared.documents.urls) :
    Turns shared number task
      ⟨shared, task.withBatch (Batch.ofFlights (Batch.flightsFor number task.round urls)), none, []⟩
  /-- A batch shows one of its failures. -/
  | tell (task : Task) (message : String) (more : List String)
    (hbatch : task.batch? = some (.showing (message :: more))) :
    Turns shared number task
      ⟨shared, task.withBatch (Batch.toShow more), none, [.shown number message]⟩
  | showFailure (message : String) :
    Turns shared number (.showFailure message) (.finish shared [.shown number message])
  | store (url : Url) (document : Document) (validated : Bool) :
    Turns shared number (.store url document validated)
      ⟨{ shared with documents := shared.documents.put url document }, .inr .done,
        if validated then some (.single url) else none, []⟩
  | forget (url : Url) :
    Turns shared number (.forget url)
      (.goOn { shared with documents := shared.documents.erase url } (.clear url) [])
  | clear (url : Url) :
    Turns shared number (.clear url) (.finish shared [.published none url []])
  | apply (push : Json) (validated : Bool) :
    Turns shared number (.apply push validated)
      ⟨{ shared with settings := shared.settings.apply push }, .inr .done,
        if validated then some .batch else none, []⟩
  | spawnBatch : Turns shared number .spawnBatch ⟨shared, .inr .done, some .batch, []⟩
  /-- Neither documents nor settings nor validations have to do with the step. -/
  | quiet (task : Task) (turn : Turn)
    (hsettings : turn.shared.settings = shared.settings)
    (hdocuments : turn.shared.documents = shared.documents)
    (hphase : turn.shared.phase = shared.phase ∨ ∃ h, task = .handshake h)
    (htask : task.flights = [])
    (hkind : task.IsService ∨
      (task = .stop ∨ task = .nothing) ∧ turn.next = .inr .done ∧ turn.spawned = none)
    (hnext : ∀ next, turn.next = .inl next →
      next.IsService ∧ next.flights = [] ∧ next.tells = [] ∧ next.unbegun = task.unbegun)
    (hspawn : ∀ spawn, turn.spawned = some spawn → ∃ watch, spawn = .follow watch)
    (hevents : ∀ event ∈ turn.events, Aside event) :
    Turns shared number task turn

/-- A batch's steps are a task's, whatever task is busy with the batch. -/
theorem turns_of_batch {shared : Shared} {number place : Nat} {answer : Answer} {task : Task}
    {b : Batch} {next : Option Batch} {events : List Event} (hb : task.batch? = some b)
    (hstep : b.step shared number task.round place answer = some (next, events)) :
    Turns shared number task ⟨shared, task.withBatch next, none, events⟩ := by
  unfold Batch.step at hstep
  split at hstep
  · split at hstep
    · split at hstep
      · cases hstep; exact .list task _ hb ‹_›
      · cases hstep
    · cases hstep
  · rename_i flights
    -- the task holds the batch's validations, and goes on with the batch
    have hflights : task.flights = flights ∧
        ∀ l, task.resume l = task.withBatch (Batch.ofFlights l) := by
      cases task <;> simp_all [batch?, Task.flights, Batch.flights, resume]
    split at hstep
    · cases hstep
    · rename_i v hplace
      split at hstep
      · rename_i hmay
        obtain ⟨⟨v', moved⟩, hv, he⟩ := Option.map_eq_some_iff.mp hstep
        cases he
        have hlets : task.Lets v := by
          intro hdispatched w hw
          rw [Batch.mayMove, if_pos hdispatched] at hmay
          exact List.all_eq_true.mp hmay w (hflights.1 ▸ hw)
        rw [← hflights.1] at hplace ⊢
        rw [← hflights.2]
        exact .flight task place answer v v' _ hplace hv hlets
      · cases hstep
  · cases hstep
  · split at hstep
    · cases hstep; exact .tell task _ _ hb
    · cases hstep

theorem turns_of_handshake {shared : Shared} {number : Nat} {answer : Answer} {h : Handshake}
    {turn : Turn} {config : Config} {place : Nat}
    (hstep : (Task.handshake h).step config shared number place answer = some turn) :
    Turns shared number (.handshake h) turn := by
  obtain ⟨⟨shared', next, events⟩, hh, rfl⟩ := Option.map_eq_some_iff.mp hstep
  have hsame : shared'.settings = shared.settings ∧ shared'.documents = shared.documents ∧
      ∀ event ∈ events, Aside event := by
    unfold Handshake.step at hh
    split at hh <;> split at hh <;> (try split at hh) <;> cases hh <;> simp [Aside]
  cases next <;> exact .quiet _ _ hsame.1 hsame.2.1 (Or.inr ⟨h, rfl⟩) rfl (Or.inl trivial) (by
    intro next hnext
    cases hnext <;> exact ⟨trivial, rfl, rfl, rfl⟩) (by intro spawn hs; cases hs) hsame.2.2

theorem turns_of_announce {shared : Shared} {number : Nat} {answer : Answer} {a : Announcement}
    {turn : Turn} {config : Config} {place : Nat}
    (hstep : (Task.announce a).step config shared number place answer = some turn) :
    Turns shared number (.announce a) turn := by
  obtain ⟨⟨next, events⟩, ha, rfl⟩ := Option.map_eq_some_iff.mp hstep
  have hevents : ∀ event ∈ events, Aside event := by
    unfold Announcement.step at ha
    split at ha <;> split at ha <;> cases ha <;> simp [Aside]
  cases next with
  | goOn a' =>
    exact .quiet _ _ rfl rfl (Or.inl rfl) rfl (Or.inl trivial)
      (by intro next hnext; cases hnext; exact ⟨trivial, rfl, rfl, rfl⟩)
      (by intro spawn hs; cases hs) hevents
  | follow a' watch =>
    exact .quiet _ _ rfl rfl (Or.inl rfl) rfl (Or.inl trivial)
      (by intro next hnext; cases hnext; exact ⟨trivial, rfl, rfl, rfl⟩)
      (by intro spawn hs; cases hs; exact ⟨watch, rfl⟩) hevents
  | finish =>
    exact .quiet _ _ rfl rfl (Or.inl rfl) rfl (Or.inl trivial)
      (by intro next hnext; cases hnext) (by intro spawn hs; cases hs) hevents

theorem turns_of_follow {shared : Shared} {number : Nat} {answer : Answer} {loop : WatchLoop}
    {turn : Turn} {config : Config} {place : Nat}
    (hstep : (Task.follow loop).step config shared number place answer = some turn) :
    Turns shared number (.follow loop) turn := by
  obtain ⟨⟨next, events⟩, hloop, rfl⟩ := Option.map_eq_some_iff.mp hstep
  obtain ⟨queue, stage, round⟩ := loop
  cases stage with
  | waiting =>
    cases queue with
    | nil =>
      cases answer <;> simp only [WatchLoop.step] at hloop <;> try cases hloop
      split at hloop <;> cases hloop
      exact .quiet _ _ rfl rfl (Or.inl rfl) rfl (Or.inl trivial) (by intro next hnext; cases hnext)
        (by intro spawn hs; cases hs) (by intro event he; cases he)
    | cons path queue =>
      cases answer <;> cases hloop
      exact .quiet _ _ rfl rfl (Or.inl rfl) rfl (Or.inl trivial)
        (by intro next hnext; cases hnext; exact ⟨trivial, rfl, rfl, rfl⟩)
        (by intro spawn hs; cases hs) (by intro event he; cases he)
  | draining =>
    cases queue <;> cases answer <;> cases hloop <;>
      exact .quiet _ _ rfl rfl (Or.inl rfl) rfl (Or.inl trivial)
        (by intro next hnext; cases hnext; exact ⟨trivial, rfl, rfl, rfl⟩)
        (by intro spawn hs; cases hs) (by intro event he; cases he)
  | validating b =>
    obtain ⟨⟨next', events'⟩, hb, he⟩ := Option.map_eq_some_iff.mp hloop
    have hbatch : (Task.follow ⟨queue, .validating b, round⟩).batch? = some b := rfl
    have hturns := turns_of_batch hbatch hb
    cases next' <;> cases he <;> exact hturns

/-- A validation that is alone waits for no other. -/
theorem lets_one {task : Task} {v : Validation} (h : task.flights = [v]) : task.Lets v := by
  intro hdispatched w hw
  rw [h] at hw
  rw [List.mem_singleton.mp hw]
  exact hdispatched

/-- **A step of a task is one of its turns.** -/
theorem turns_of_step {config : Config} {shared : Shared} {number place : Nat} {answer : Answer}
    {task : Task} {turn : Turn} (hstep : task.step config shared number place answer = some turn) :
    Turns shared number task turn := by
  cases task with
  | store url document validated =>
    cases answer <;> cases hstep
    exact .store url document validated
  | forget url =>
    cases answer <;> cases hstep
    exact .forget url
  | clear url =>
    cases answer <;> cases hstep
    exact .clear url
  | apply push validated =>
    cases answer <;> cases hstep
    exact .apply push validated
  | spawnBatch =>
    cases answer <;> cases hstep
    exact .spawnBatch
  | showFailure message =>
    cases answer <;> cases hstep
    exact .showFailure message
  | nothing =>
    cases answer <;> cases hstep
    exact .quiet _ _ rfl rfl (Or.inl rfl) rfl (Or.inr ⟨Or.inr rfl, rfl, rfl⟩)
      (by intro next hnext; cases hnext) (by intro spawn hs; cases hs)
      (by intro event he; cases he)
  | stop =>
    cases answer <;> cases hstep
    exact .quiet _ _ rfl rfl (Or.inl rfl) rfl (Or.inr ⟨Or.inl rfl, rfl, rfl⟩)
      (by intro next hnext; cases hnext) (by intro spawn hs; cases hs)
      (by intro event he; cases he)
  | handshake h => exact turns_of_handshake hstep
  | announce a => exact turns_of_announce hstep
  | validate v =>
    obtain ⟨⟨v', events⟩, hv, rfl⟩ := Option.map_eq_some_iff.mp hstep
    exact .flight (.validate v) 0 answer v v' events rfl hv (lets_one rfl)
  | single v =>
    obtain ⟨⟨v', events⟩, hv, rfl⟩ := Option.map_eq_some_iff.mp hstep
    exact .flight (.single v) 0 answer v v' events rfl hv (lets_one rfl)
  | batch b =>
    obtain ⟨⟨next, events⟩, hb, rfl⟩ := Option.map_eq_some_iff.mp hstep
    exact turns_of_batch rfl hb
  | follow loop => exact turns_of_follow hstep

/-! ## What a step leaves of a task's validations -/

theorem flights_withBatch {task next : Task} {b? : Option Batch}
    (h : task.withBatch b? = .inl next) : next.flights = (b?.map Batch.flights).getD [] := by
  cases b? with
  | none => cases task <;> cases h; rfl
  | some b => cases task <;> cases h <;> rfl

/-- A task holds on to a batch that has gone on, in the same round. -/
theorem round_withBatch {task next : Task} {b? : Option Batch}
    (h : task.withBatch b? = .inl next) (hnext : next.flights ≠ []) : next.round = task.round := by
  cases b? with
  | none => exact absurd (flights_withBatch h) hnext
  | some b => cases task <;> cases h <;> rfl

/-- Once the documents are listed, a task's round has begun. -/
theorem unbegun_withBatch {task next : Task} {b? : Option Batch} (hb : b? ≠ some .listing)
    (h : task.withBatch b? = .inl next) : task.round < next.unbegun := by
  cases b? with
  | none => cases task <;> cases h; exact Nat.lt_succ_self _
  | some b =>
    cases b with
    | listing => exact absurd rfl hb
    | validating _ | showing _ => cases task <;> cases h <;> exact Nat.lt_succ_self _

theorem toShow_ne_listing (messages : List String) : Batch.toShow messages ≠ some .listing := by
  unfold Batch.toShow
  split <;> simp

theorem ofFlights_ne_listing (flights : List Validation) :
    Batch.ofFlights flights ≠ some .listing := by
  unfold Batch.ofFlights
  split
  · exact toShow_ne_listing _
  · simp

/-- After a step of one of its validations, a task holds them all or none. -/
theorem flights_ofFlights (flights : List Validation) :
    ((Batch.ofFlights flights).map Batch.flights).getD [] = flights ∨
      ((Batch.ofFlights flights).map Batch.flights).getD [] = [] := by
  unfold Batch.ofFlights Batch.toShow
  split
  · split <;> exact Or.inr rfl
  · exact Or.inl rfl

theorem unbegun_le (task : Task) : task.unbegun ≤ task.round + 1 := by
  unfold unbegun
  split
  · exact Nat.le_succ _
  · exact Nat.le_succ _
  · exact Nat.zero_le _
  · exact Nat.le_refl _

/-- A task that holds validations is in a round that has begun. -/
theorem unbegun_of_flights {task : Task} (h : task.flights ≠ []) :
    task.unbegun = task.round + 1 := by
  cases task with
  | batch b =>
    cases b with
    | validating flights => rfl
    | _ => exact absurd rfl h
  | follow loop =>
    obtain ⟨queue, stage, round⟩ := loop
    cases stage with
    | validating b =>
      cases b with
      | validating flights => rfl
      | _ => exact absurd rfl h
    | _ => exact absurd rfl h
  | _ => rfl

theorem unbegun_of_listing {task : Task} (h : task.batch? = some .listing) :
    task.unbegun ≤ task.round := by
  unfold unbegun
  rw [h]
  cases task with
  | batch b | follow loop => exact Nat.le_refl _
  | _ => cases h

theorem flights_afterSingle {w : Validation} {next : Task} (h : afterSingle w = .inl next) :
    (next.flights = [w] ∨ next.flights = []) ∧ next.round = 0 ∧ next.unbegun = 1 := by
  unfold afterSingle at h
  split at h <;> cases h
  · exact ⟨Or.inr rfl, rfl, rfl⟩
  · exact ⟨Or.inl rfl, rfl, rfl⟩

theorem flights_afterValidate {w : Validation} {next : Task} (h : afterValidate w = .inl next) :
    (next.flights = [w] ∨ next.flights = []) ∧ next.round = 0 ∧ next.unbegun = 1 := by
  unfold afterValidate at h
  split at h <;> cases h
  exact ⟨Or.inl rfl, rfl, rfl⟩

/-- A task that goes on after its validations have moved holds all of them, in
the same round, or none. -/
theorem flights_resume {task next : Task} {flights : List Validation}
    (hlen : flights.length = task.flights.length) (h : task.resume flights = .inl next) :
    (next.flights = flights ∨ next.flights = []) ∧
      (next.flights ≠ [] → next.round = task.round) ∧ task.unbegun ≤ next.unbegun := by
  have hbatch (h : task.withBatch (Batch.ofFlights flights) = .inl next) :
      (next.flights = flights ∨ next.flights = []) ∧
        (next.flights ≠ [] → next.round = task.round) ∧ task.unbegun ≤ next.unbegun := by
    refine ⟨?_, round_withBatch h, ?_⟩
    · rw [flights_withBatch h]
      exact flights_ofFlights flights
    · exact Nat.le_trans task.unbegun_le (unbegun_withBatch (ofFlights_ne_listing flights) h)
  cases task with
  | validate v =>
    obtain ⟨w, rfl⟩ := List.length_eq_one_iff.mp hlen
    obtain ⟨hflights, hround, hbegun⟩ := flights_afterValidate h
    exact ⟨hflights, fun _ => hround, Nat.le_of_eq hbegun.symm⟩
  | single v =>
    obtain ⟨w, rfl⟩ := List.length_eq_one_iff.mp hlen
    obtain ⟨hflights, hround, hbegun⟩ := flights_afterSingle h
    exact ⟨hflights, fun _ => hround, Nat.le_of_eq hbegun.symm⟩
  | _ => exact hbatch h

/-- A validation that is not at its end stays with its task, and so do the others. -/
theorem resume_holds {task : Task} {flights : List Validation}
    (hlen : flights.length = task.flights.length) {v : Validation} (hv : v ∈ flights)
    (hgoing : v.stage.isEnded = false) :
    ∃ next, task.resume flights = .inl next ∧ next.flights = flights := by
  have hall : flights.all (·.stage.isEnded) = false :=
    List.all_eq_false.mpr ⟨v, hv, by simp [hgoing]⟩
  cases task with
  | validate w =>
    obtain ⟨w', rfl⟩ := List.length_eq_one_iff.mp hlen
    cases List.mem_singleton.mp hv
    refine ⟨.validate v, ?_, rfl⟩
    unfold resume afterValidate
    cases hstage : v.stage <;> simp_all [Stage.isEnded]
  | single w =>
    obtain ⟨w', rfl⟩ := List.length_eq_one_iff.mp hlen
    cases List.mem_singleton.mp hv
    refine ⟨.single v, ?_, rfl⟩
    unfold resume afterSingle
    cases hstage : v.stage <;> simp_all [Stage.isEnded]
  | batch b =>
    exact ⟨.batch (.validating flights), by simp [resume, withBatch, Batch.ofFlights, hall], rfl⟩
  | follow loop =>
    exact ⟨.follow { loop with stage := .validating (.validating flights) },
      by simp [resume, withBatch, Batch.ofFlights, hall], rfl⟩
  | _ =>
    rw [List.eq_nil_of_length_eq_zero hlen] at hv
    cases hv

/-- A task can make the steps of the batch it is busy with. -/
theorem step_of_batch {config : Config} {shared : Shared} {number place : Nat} {answer : Answer}
    {task : Task} {b : Batch} {next : Option Batch} {events : List Event}
    (hb : task.batch? = some b)
    (hstep : b.step shared number task.round place answer = some (next, events)) :
    task.step config shared number place answer =
      some ⟨shared, task.withBatch next, none, events⟩ := by
  cases task with
  | batch b' =>
    cases hb
    rw [step, show b.step shared number 0 place answer = some (next, events) from hstep]
    rfl
  | follow loop =>
    obtain ⟨queue, stage, round⟩ := loop
    cases stage with
    | validating b' =>
      cases hb
      have hstep' : b.step shared number round place answer = some (next, events) := hstep
      simp only [step, WatchLoop.step, hstep', Option.map_some]
      cases next <;> rfl
    | _ => cases hb
  | _ => cases hb

/-- **A validation whose task has made all its calls can move**, whatever task it is. -/
theorem step_of_flight {config : Config} {shared : Shared} {number place : Nat} {answer : Answer}
    {task : Task} {v v' : Validation} {events : List Event}
    (hplace : task.flights[place]? = some v)
    (hall : ∀ w ∈ task.flights, w.stage.isDispatched = true)
    (hstep : v.step shared answer = some (v', events)) :
    task.step config shared number place answer =
      some ⟨shared, task.resume (task.flights.set place v'), none, events⟩ := by
  have hbatch {b : Batch} (hb : task.batch? = some b) (hflights : task.flights = b.flights)
      (hresume : ∀ l, task.resume l = task.withBatch (Batch.ofFlights l)) :
      task.step config shared number place answer =
        some ⟨shared, task.resume (task.flights.set place v'), none, events⟩ := by
    rw [hresume]
    refine step_of_batch hb ?_
    rw [hflights] at hplace hall ⊢
    cases b with
    | validating flights =>
      have hmay : Batch.mayMove flights place v = true := by
        rw [Batch.mayMove, if_pos (hall v (List.mem_of_getElem? hplace))]
        exact List.all_eq_true.mpr hall
      have hfound : flights[place]? = some v := hplace
      simp [Batch.step, Batch.flights, hfound, hmay, hstep]
    | _ => cases hplace
  cases task with
  | validate w | single w =>
    cases place with
    | zero =>
      cases hplace
      rw [step, hstep]
      rfl
    | succ place => cases hplace
  | batch b => exact hbatch rfl rfl fun _ => rfl
  | follow loop =>
    obtain ⟨queue, stage, round⟩ := loop
    cases stage with
    | validating b => exact hbatch rfl rfl fun _ => rfl
    | _ => cases hplace
  | _ => cases hplace

/-- A task that holds validations moves one of them. -/
theorem Turns.flight_of_ne {shared : Shared} {number : Nat} {task : Task} {turn : Turn}
    (h : Turns shared number task turn) (hne : task.flights ≠ []) :
    ∃ (place : Nat) (answer : Answer) (v v' : Validation) (events : List Event),
      task.flights[place]? = some v ∧ task.Lets v ∧ v.step shared answer = some (v', events) ∧
      turn = ⟨shared, task.resume (task.flights.set place v'), none, events⟩ := by
  have hbatch {b : Batch} (hb : task.batch? = some b) (hnone : b.flights = []) :
      task.flights = [] := by
    cases task with
    | batch | follow => simp [flights, hb, hnone]
    | _ => cases hb
  cases h with
  | flight _ place answer v v' events hplace hstep hlets =>
    exact ⟨place, answer, v, v', events, hplace, hlets, hstep, rfl⟩
  | list _ _ hb | tell _ _ _ hb => exact absurd (hbatch hb rfl) hne
  | quiet _ _ _ _ _ htask => exact absurd htask hne
  | showFailure | store | forget | clear | apply | spawnBatch => exact absurd rfl hne

theorem Turns.unbegun_le {shared : Shared} {number : Nat} {task next : Task} {turn : Turn}
    (h : Turns shared number task turn) (hnext : turn.next = .inl next) :
    task.unbegun ≤ next.unbegun := by
  cases h with
  | flight _ place answer v v' events hplace hstep =>
    exact (flights_resume (List.length_set ..) hnext).2.2
  | list _ urls hbatch hurls =>
    exact Nat.le_trans task.unbegun_le (unbegun_withBatch (ofFlights_ne_listing _) hnext)
  | tell _ message more hbatch =>
    exact Nat.le_trans task.unbegun_le (unbegun_withBatch (toShow_ne_listing _) hnext)
  | forget url => cases hnext; exact Nat.le_refl _
  | showFailure | store | clear | apply | spawnBatch => cases hnext
  | quiet _ _ hsettings hdocuments hphase htask hkind hquiet =>
    exact Nat.le_of_eq (hquiet next hnext).2.2.2.symm

/-- Whose events a step writes: those of a validation the task holds. -/
theorem Turns.origin_cases {shared : Shared} {number : Nat} {task : Task} {turn : Turn}
    {event : Event} {origin : Origin} (h : Turns shared number task turn)
    (hmem : event ∈ turn.events) (horigin : event.origin? = some origin) :
    ∃ (place : Nat) (answer : Answer) (v v' : Validation), task.flights[place]? = some v ∧
      v.origin = origin ∧ v.step shared answer = some (v', turn.events) := by
  cases h with
  | flight _ place answer v v' events hplace hstep =>
    have hv := (Validation.goes hstep).2.2.origin?_eq event hmem
    exact ⟨place, answer, v, v', hplace, Option.some.inj (hv.symm.trans horigin), hstep⟩
  | quiet _ _ hsettings hdocuments hphase htask hkind hquiet hspawn hevents =>
    have haside := hevents event hmem
    cases event with
    | noted | asked | loading | ended => cases horigin
    | _ => exact absurd haside id
  | tell | showFailure | clear =>
    rw [List.mem_singleton.mp hmem] at horigin
    cases horigin
  | list | store | forget | apply | spawnBatch => cases hmem

/-- **Where a validation a task holds comes from**: it was there before, and the
step's events are about others; or it has moved; or a batch has just listed its
document. -/
theorem Turns.flights_cases {shared : Shared} {number place : Nat} {task next : Task} {turn : Turn}
    {v : Validation} (h : Turns shared number task turn) (hnext : turn.next = .inl next)
    (hv : next.flights[place]? = some v) :
    next.round = task.round ∧
      ((task.flights[place]? = some v ∧ ∀ event ∈ turn.events, ∀ origin,
          event.origin? = some origin →
            ∃ k w, k ≠ place ∧ task.flights[k]? = some w ∧ origin = w.origin) ∨
        (∃ old answer, task.flights[place]? = some old ∧
          old.step shared answer = some (v, turn.events)) ∨
        task.batch? = some .listing ∧ turn.events = [] ∧
          ∃ url, v = .start ⟨number, task.round, place⟩ url) := by
  have hne : next.flights ≠ [] := by
    intro hnil
    rw [hnil] at hv
    cases hv
  -- only a validation that moves and a batch that lists leave validations behind
  cases h with
  | flight _ moving answer w w' events hplace hstep =>
    obtain ⟨hflights, hround, _⟩ := flights_resume (List.length_set ..) hnext
    refine ⟨hround hne, ?_⟩
    rw [hflights.resolve_right hne] at hv
    by_cases hmove : moving = place
    · subst hmove
      have hlt : moving < task.flights.length := (List.getElem?_eq_some_iff.mp hplace).1
      rw [List.getElem?_set_self hlt] at hv
      cases hv
      exact Or.inr (Or.inl ⟨w, answer, hplace, hstep⟩)
    · rw [List.getElem?_set_ne hmove] at hv
      refine Or.inl ⟨hv, ?_⟩
      intro event hevent origin horigin
      have hw := (Validation.goes hstep).2.2.origin?_eq event hevent
      exact ⟨moving, w, hmove, hplace, Option.some.inj (horigin.symm.trans hw)⟩
  | list _ urls hbatch hurls =>
    refine ⟨round_withBatch hnext hne, Or.inr (Or.inr ⟨hbatch, rfl, ?_⟩)⟩
    rw [flights_withBatch hnext] at hv hne
    rw [(flights_ofFlights _).resolve_right hne, Batch.flightsFor, List.getElem?_mapIdx] at hv
    obtain ⟨url, _, rfl⟩ := Option.map_eq_some_iff.mp hv
    exact ⟨url, rfl⟩
  | tell _ message more hbatch =>
    refine absurd ?_ hne
    rw [flights_withBatch hnext]
    unfold Batch.toShow
    split <;> rfl
  | forget url => cases hnext; exact absurd rfl hne
  | showFailure | store | clear | apply | spawnBatch => cases hnext
  | quiet _ _ hsettings hdocuments hphase htask hkind hquiet =>
    exact absurd (hquiet next hnext).2.1 hne

/-- A task that a request starts holds no validation that has begun. -/
theorem flights_ofRequest {number place : Nat} {request : Request} {v : Validation}
    (h : (ofRequest number request).flights[place]? = some v) :
    ∃ url, v = .start ⟨number, (ofRequest number request).round, place⟩ url := by
  cases request with
  | validate url | validateSingle url =>
    cases place with
    | zero => cases h; exact ⟨url, rfl⟩
    | succ place => cases h
  | changeDocument url texts version =>
    have hnone : (ofRequest number (.changeDocument url texts version)).flights = [] := by
      simp only [ofRequest]
      cases texts.getLast? <;> rfl
    rw [hnone] at h
    cases h
  | _ => cases h

theorem flights_ofSpawn {number place : Nat} {spawn : Spawn} {v : Validation}
    (h : (ofSpawn number spawn).flights[place]? = some v) :
    ∃ url, v = .start ⟨number, (ofSpawn number spawn).round, place⟩ url := by
  cases spawn with
  | single url =>
    cases place with
    | zero => cases h; exact ⟨url, rfl⟩
    | succ place => cases h
  | _ => cases h

/-- A change that waits in a queue has nothing to do with validations. -/
theorem flights_push (path : Path) (task : Task) :
    (Server.push path task).flights = task.flights ∧
      (Server.push path task).round = task.round ∧
      (Server.push path task).unbegun = task.unbegun := by
  cases task with
  | follow loop =>
    obtain ⟨queue, stage, round⟩ := loop
    cases stage with
    | validating b => cases b <;> exact ⟨rfl, rfl, rfl⟩
    | _ => exact ⟨rfl, rfl, rfl⟩
  | _ => exact ⟨rfl, rfl, rfl⟩

/-- A set of diagnostics is published for a closed document, or by a validation
that has come to its last stage. -/
theorem Turns.published_cases {shared : Shared} {number : Nat} {task : Task} {turn : Turn}
    {sender : Option Origin} {url : Url} {ds : List Diagnostic} (h : Turns shared number task turn)
    (hds : .published sender url ds ∈ turn.events) :
    turn.events = [.published sender url ds] ∧
      (task = .clear url ∧ sender = none ∧ ds = [] ∨
        ∃ v snapshot finding, v ∈ task.flights ∧ v.stage = .publish snapshot finding ∧
          sender = some v.origin ∧ v.url = url ∧
          ds = translate finding.report? snapshot.engine.name) := by
  cases h with
  | flight _ place answer v v' events hplace hstep =>
    obtain ⟨-, -, hgoes⟩ := Validation.goes hstep
    generalize hstage : v.stage = stage, v'.stage = stage' at hgoes
    cases hgoes with
    | published snapshot finding =>
      obtain ⟨rfl, rfl, rfl⟩ := Event.published.inj (List.mem_singleton.mp hds)
      exact ⟨rfl, Or.inr ⟨v, snapshot, finding, List.mem_of_getElem? hplace, hstage, rfl, rfl, rfl⟩⟩
    | _ => simp at hds
  | clear _ =>
    obtain ⟨rfl, rfl, rfl⟩ := Event.published.inj (List.mem_singleton.mp hds)
    exact ⟨rfl, Or.inl ⟨rfl, rfl, rfl⟩⟩
  | quiet _ _ hsettings hdocuments hphase htask hkind hquiet hspawn hevents =>
    exact absurd (hevents _ hds) id
  | tell | showFailure => simp [Turn.finish] at hds
  | list | store | forget | apply | spawnBatch => cases hds

end Task

/-! ## Validations of a server -/

namespace Server

/-- Task `n` of a server holds the validation `v`. -/
def Live (s : Server) (n : Nat) (v : Validation) : Prop :=
  ∃ task, (n, task) ∈ s.tasks ∧ v ∈ task.flights

/-- **How a server comes to hold a validation**: it held it before, or the
validation has not begun, or one that the server held has made a step. -/
theorem Live.step {s s' : Server} {m : Move} {n : Nat} {v : Validation}
    (hstep : s.step m = some s') (hv : s'.Live n v) :
    s.Live n v ∨ v.stage = .findEngine ∨
      ∃ old answer events, s.Live n old ∧ old.step s.shared answer = some (v, events) := by
  obtain ⟨task, hmem, hflight⟩ := hv
  obtain ⟨place, hplace⟩ := List.mem_iff_getElem?.mp hflight
  cases m with
  | arrive request =>
    rw [step_arrive hstep] at hmem
    rcases mem_add.mp hmem with hold | ⟨rfl, rfl⟩
    · exact Or.inl ⟨task, hold, hflight⟩
    · obtain ⟨url, rfl⟩ := Task.flights_ofRequest hplace
      exact Or.inr (Or.inl rfl)
  | advance k at? answer =>
    obtain ⟨old, turn, hold, hturn, rfl⟩ := step_advance hstep
    rcases (mem_after hold).mp hmem with ⟨hother, _⟩ | ⟨rfl, hnext⟩ | ⟨spawn, _, rfl, rfl⟩
    · exact Or.inl ⟨task, hother, hflight⟩
    · obtain ⟨_, hcases⟩ := (Task.turns_of_step hturn).flights_cases hnext hplace
      rcases hcases with ⟨hsame, _⟩ | ⟨w, answer', hw, hmoved⟩ | ⟨_, _, url, rfl⟩
      · exact Or.inl ⟨old, mem_of_task? hold, List.mem_of_getElem? hsame⟩
      · have hheld : s.Live n w := ⟨old, mem_of_task? hold, List.mem_of_getElem? hw⟩
        exact Or.inr (Or.inr ⟨w, answer', _, hheld, hmoved⟩)
      · exact Or.inr (Or.inl rfl)
    · obtain ⟨url, rfl⟩ := Task.flights_ofSpawn hplace
      exact Or.inr (Or.inl rfl)
  | fileChanged changed =>
    rw [step_fileChanged hstep] at hmem
    obtain ⟨old, hold, rfl | ⟨path, rfl⟩⟩ := mem_deliver hmem
    · exact Or.inl ⟨_, hold, hflight⟩
    · exact Or.inl ⟨old, hold, (Task.flights_push path old).1 ▸ hflight⟩
  | abandon k =>
    rw [step_abandon hstep] at hmem
    exact Or.inl ⟨task, (mem_remove.mp hmem).1, hflight⟩

theorem live_initial (config : Config) {n : Nat} {v : Validation} :
    ¬ (Server.initial config).Live n v := by
  rintro ⟨task, hmem, _⟩
  cases hmem

namespace Run
variable {start : Server} (e : Run start)

/-- What a server holds in a tick it held in the tick before, or the validation has
not begun, or it has made a step. -/
theorem live_succ {t n : Nat} {v : Validation} (hv : (e.state (t + 1)).Live n v) :
    (e.state t).Live n v ∨ v.stage = .findEngine ∨
      ∃ stage events, (e.state t).Live n ⟨v.origin, v.url, stage⟩ ∧
        Stage.Goes (e.state t).shared v.origin v.url stage v.stage events := by
  rcases e.next t with hidle | ⟨m, _, hstep⟩
  · exact Or.inl (hidle ▸ hv)
  · rcases Live.step hstep hv with hold | hnew | ⟨old, answer, events, hold, hmoved⟩
    · exact Or.inl hold
    · exact Or.inr (Or.inl hnew)
    · obtain ⟨horigin, hurl, hgoes⟩ := Validation.goes hmoved
      rw [← horigin, ← hurl] at hgoes
      have hsame : old = ⟨v.origin, v.url, old.stage⟩ := by rw [horigin, hurl]
      exact Or.inr (Or.inr ⟨old.stage, events, hsame ▸ hold, hgoes⟩)

/-- **Who publishes**: a task that clears a closed document, or a validation at
its last stage. -/
theorem published_cases {t : Nat} {sender : Option Origin} {url : Url} {ds : List Diagnostic}
    (h : .published sender url ds ∈ e.written t) :
    ∃ n turn, turn.events = [.published sender url ds] ∧
      (e.state (t + 1)).journal = entries n turn ++ (e.state t).journal ∧
      ((e.state t).task? n = some (.clear url) ∧ sender = none ∧ ds = [] ∨
        ∃ origin snapshot finding,
          (e.state t).Live n ⟨origin, url, .publish snapshot finding⟩ ∧ sender = some origin ∧
          ds = translate finding.report? snapshot.engine.name) := by
  obtain ⟨n, place, answer, task, turn, _, htask, hturn, hafter, hmem⟩ := e.written_cases h
  have hevents : .published sender url ds ∈ turn.events := by
    unfold entries at hmem
    split at hmem <;> simpa using hmem
  obtain ⟨honly, hcases⟩ := (Task.turns_of_step hturn).published_cases hevents
  refine ⟨n, turn, honly, hafter ▸ journal_after _ n turn, ?_⟩
  rcases hcases with ⟨rfl, hrest⟩ | ⟨v, snapshot, finding, hv, hstage, hsender, rfl, hds⟩
  · exact Or.inl ⟨htask, hrest⟩
  · have hsame : v = ⟨v.origin, v.url, .publish snapshot finding⟩ := by rw [← hstage]
    have hlive : (e.state t).Live n v := ⟨task, mem_of_task? htask, hv⟩
    exact Or.inr ⟨v.origin, snapshot, finding, hsame ▸ hlive, hsender, hds⟩

end Run

end Server

end LintServer
