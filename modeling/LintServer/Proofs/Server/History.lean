import LintServer.Proofs.Server.Flight

/-! # What the journal says of one validation

The entries about one validation (`Server.history`) are never more than a read,
a call, its answer and a publication, in this order: `Stage.Recorded` says which
entries there are at which stage, and `Server.Kept` that every validation of a
reachable server has exactly these.  Two validations never share an origin, so
what is read off a history belongs to one validation alone.
-/
namespace LintServer

/-! ## Histories, stage by stage -/

namespace Snapshot
variable (origin : Origin) (url : Url) (snapshot : Snapshot)

/-- The entry for what a validation read. -/
def tookEvent : Event := .took origin url snapshot

/-- The entry for its call of the engine. -/
def calledEvent : Event :=
  .called origin snapshot.engine snapshot.text snapshot.settings.options

/-- The history of a validation that knows what it has found.  The engine was
called once, or, with validation switched off, not at all. -/
inductive Found : Finding → List Event → Prop
  | disabled (h : snapshot.settings.enabled = false) :
    Found .disabled [snapshot.tookEvent origin url]
  | report (value : Json) (h : snapshot.settings.enabled = true) :
    Found (.report value)
      [.answered origin (.report value), snapshot.calledEvent origin, snapshot.tookEvent origin url]
  | failure (error : EngineError) (h : snapshot.settings.enabled = true)
    (hraised : error.isRaised = false) :
    Found (.failure error)
      [.answered origin (.failure error), snapshot.calledEvent origin,
        snapshot.tookEvent origin url]

/-- **The history of a validation that was not dropped**, with the failure it
ended with: the engine did not take the text, now or later, and nothing is
published; or what was found is published. -/
inductive Concluded : Option EngineError → List Event → Prop
  | refused (error : EngineError) (h : snapshot.settings.enabled = true) :
    Concluded (some error)
      [.refused origin error, snapshot.calledEvent origin, snapshot.tookEvent origin url]
  | raised (error : EngineError) (h : snapshot.settings.enabled = true)
    (hraised : error.isRaised = true) :
    Concluded (some error)
      [.answered origin (.failure error), snapshot.calledEvent origin,
        snapshot.tookEvent origin url]
  | published (finding : Finding) (entries : List Event)
    (h : Found origin url snapshot finding entries) :
    Concluded finding.failure?
      (.published (some origin) url (translate finding.report? snapshot.engine.name) :: entries)

end Snapshot

/-- **The history of a validation at each stage.** -/
inductive Stage.Recorded (origin : Origin) (url : Url) : Stage → List Event → Prop
  | findEngine : Recorded origin url .findEngine []
  | readText (engine : Engine) : Recorded origin url (.readText engine) []
  | readSettings (engine : Engine) (text : String) :
    Recorded origin url (.readSettings engine text) []
  | skipped : Recorded origin url (.ended none) []
  | callEngine (snapshot : Snapshot) (h : snapshot.settings.enabled = true) :
    Recorded origin url (.callEngine snapshot) [snapshot.tookEvent origin url]
  | awaitReport (snapshot : Snapshot) (h : snapshot.settings.enabled = true) :
    Recorded origin url (.awaitReport snapshot)
      [snapshot.calledEvent origin, snapshot.tookEvent origin url]
  | compareSettings (snapshot : Snapshot) (finding : Finding) (entries : List Event)
    (h : snapshot.Found origin url finding entries) :
    Recorded origin url (.compareSettings snapshot finding) entries
  | publish (snapshot : Snapshot) (finding : Finding) (entries : List Event)
    (h : snapshot.Found origin url finding entries) :
    Recorded origin url (.publish snapshot finding) entries
  | dropped (snapshot : Snapshot) (finding : Finding) (entries : List Event)
    (h : snapshot.Found origin url finding entries) : Recorded origin url (.ended none) entries
  | concluded (snapshot : Snapshot) (failure : Option EngineError) (entries : List Event)
    (h : snapshot.Concluded origin url failure entries) :
    Recorded origin url (.ended failure) entries

namespace Stage
variable {origin : Origin} {url : Url} {stage stage' : Stage} {entries events : List Event}

theorem recorded_afterReading (snapshot : Snapshot) :
    Recorded origin url (.afterReading snapshot) [snapshot.tookEvent origin url] := by
  unfold afterReading
  split
  · exact .callEngine snapshot ‹_›
  · exact .compareSettings snapshot .disabled _ (.disabled (by simp_all))

theorem recorded_afterAnswer {snapshot : Snapshot} (h : snapshot.settings.enabled = true)
    (result : Except EngineError Json) :
    Recorded origin url (.afterAnswer snapshot (.ofResult result))
      [.answered origin (.ofResult result), snapshot.calledEvent origin,
        snapshot.tookEvent origin url] := by
  cases result with
  | ok value => exact .compareSettings snapshot _ _ (.report value h)
  | error error =>
    simp only [Finding.ofResult, afterAnswer]
    split
    · exact .concluded snapshot _ _ (.raised error h ‹_›)
    · exact .compareSettings snapshot _ _ (.failure error h (by simp_all))

/-- A step adds to the history what the next stage asks for. -/
theorem Recorded.goes {shared : Shared} (h : Recorded origin url stage entries)
    (hgoes : Goes shared origin url stage stage' events) :
    Recorded origin url stage' (events.reverse ++ entries) := by
  cases hgoes with
  | noEngine | noText => cases h; exact .skipped
  | engine engine => cases h; exact .readText engine
  | text engine document => cases h; exact .readSettings engine document.text
  | settings engine text => cases h; exact recorded_afterReading _
  | taken snapshot =>
    cases h with
    | callEngine _ henabled => exact .awaitReport snapshot henabled
  | refused snapshot error =>
    cases h with
    | callEngine _ henabled => exact .concluded snapshot _ _ (.refused error henabled)
  | answered snapshot result =>
    cases h with
    | awaitReport _ henabled => exact recorded_afterAnswer henabled result
  | confirmed snapshot finding =>
    cases h with
    | compareSettings _ _ _ hfound => exact .publish snapshot finding entries hfound
  | dropped snapshot finding =>
    cases h with
    | compareSettings _ _ _ hfound => exact .dropped snapshot finding entries hfound
  | published snapshot finding =>
    cases h with
    | publish _ _ _ hfound => exact .concluded snapshot _ _ (.published finding entries hfound)

/-- A history ends with the publication, if there is one. -/
theorem Recorded.published_last {sender : Option Origin} {u : Url} {ds : List Diagnostic}
    {later earlier : List Event} (h : Recorded origin url stage entries)
    (hsplit : entries = later ++ .published sender u ds :: earlier) : later = [] := by
  have hfound {snapshot : Snapshot} {finding : Finding} {l : List Event}
      (hf : snapshot.Found origin url finding l) : ∀ s u ds, .published s u ds ∉ l := by
    cases hf <;> simp [Snapshot.tookEvent, Snapshot.calledEvent]
  have hmem : .published sender u ds ∈ entries := by rw [hsplit]; simp
  cases h with
  | compareSettings _ _ _ hf | publish _ _ _ hf | dropped _ _ _ hf =>
    exact absurd hmem (hfound hf _ _ _)
  | concluded snapshot failure _ hc =>
    cases hc with
    | refused | raised => simp [Snapshot.tookEvent, Snapshot.calledEvent] at hmem
    | published finding l hf =>
      -- an entry after the publication would make it one of those found before
      cases later with
      | nil => rfl
      | cons first rest =>
        have htail : l = rest ++ .published sender u ds :: earlier := (List.cons.inj hsplit).2
        exact absurd (by rw [htail]; simp) (hfound hf sender u ds)
  | _ => simp [Snapshot.tookEvent, Snapshot.calledEvent] at hmem

/-- What a validation has found is not yet a conclusion. -/
theorem found_not_concluded {snapshot snapshot' : Snapshot} {finding : Finding} {url' : Url}
    {failure : Option EngineError} (h : snapshot.Found origin url finding entries) :
    ¬ snapshot'.Concluded origin url' failure entries := by
  intro hc
  cases h with
  | disabled h => generalize hl : [_] = l at hc; cases hc <;> simp [Snapshot.tookEvent] at hl
  | report value h => generalize hl : [_, _, _] = l at hc; cases hc <;> simp at hl
  | failure error h hraised =>
    generalize hl : [_, _, _] = l at hc
    cases hc with
    | raised error' h' hraised' =>
      -- the two histories look alike, but for the kind of the error
      simp only [List.cons.injEq, Event.answered.injEq, Finding.failure.injEq, true_and] at hl
      rw [← hl.1, hraised] at hraised'
      cases hraised'
    | _ => simp at hl

/-- A validation that can still move has not concluded. -/
theorem Recorded.not_concluded {shared : Shared} {snapshot : Snapshot} {url' : Url}
    {failure : Option EngineError} (h : Recorded origin url stage entries)
    (hgoes : Goes shared origin url stage stage' events) :
    ¬ snapshot.Concluded origin url' failure entries := by
  intro hc
  cases h with
  | findEngine | readText | readSettings => cases hc
  | callEngine s =>
    generalize hl : [_] = l at hc
    cases hc <;> simp [Snapshot.tookEvent] at hl
  | awaitReport s =>
    generalize hl : [_, _] = l at hc
    cases hc <;> simp [Snapshot.calledEvent] at hl
  | compareSettings _ _ _ hf | publish _ _ _ hf => exact found_not_concluded hf hc
  | skipped | dropped | concluded => cases hgoes

end Stage

/-! ## Histories in a server -/

namespace Server

/-- The entries of the journal about one validation, the latest first. -/
def history (s : Server) (origin : Origin) : List Event :=
  s.journal.filter fun event => event.origin? = some origin

/-- A step adds its own events to the history of the validation they are about. -/
theorem history_of_entries {s s' : Server} {n : Nat} {turn : Task.Turn}
    (h : s'.journal = entries n turn ++ s.journal) (origin : Origin) :
    s'.history origin =
      turn.events.reverse.filter (fun event => event.origin? = some origin) ++
        s.history origin := by
  unfold history entries at *
  rw [h, List.filter_append]
  cases turn.next with
  | inl task => rfl
  | inr outcome => rw [List.filter_cons_of_neg (by simp [Event.origin?])]

theorem history_other {s s' : Server} {n : Nat} {turn : Task.Turn} {origin : Origin}
    (h : s'.journal = entries n turn ++ s.journal)
    (hevents : ∀ event ∈ turn.events, event.origin? ≠ some origin) :
    s'.history origin = s.history origin := by
  rw [history_of_entries h, List.filter_eq_nil_iff.mpr, List.nil_append]
  intro event hmem
  simpa using hevents event (List.mem_reverse.mp hmem)

theorem history_own {s s' : Server} {n : Nat} {turn : Task.Turn} {origin : Origin}
    (h : s'.journal = entries n turn ++ s.journal)
    (hevents : ∀ event ∈ turn.events, event.origin? = some origin) :
    s'.history origin = turn.events.reverse ++ s.history origin := by
  rw [history_of_entries h, List.filter_eq_self.mpr]
  intro event hmem
  simpa using hevents event (List.mem_reverse.mp hmem)

/-- **What holds of the validations of every reachable server.**  Each carries
its task's number, its round and its place, and has the history of its stage;
validations that have not begun have none. -/
structure Kept (s : Server) : Prop where
  numbered : Numbered s
  placed : ∀ {n : Nat} {task : Task} {place : Nat} {v : Validation}, (n, task) ∈ s.tasks →
    task.flights[place]? = some v → v.origin = ⟨n, task.round, place⟩
  live : ∀ {n : Nat} {v : Validation}, s.Live n v →
    Stage.Recorded v.origin v.url v.stage (s.history v.origin)
  recorded : ∀ {origin : Origin}, s.history origin ≠ [] →
    ∃ url stage, Stage.Recorded origin url stage (s.history origin)
  unborn : ∀ {origin : Origin}, s.fresh ≤ origin.task → s.history origin = []
  unbegun : ∀ {n : Nat} {task : Task} {round place : Nat}, (n, task) ∈ s.tasks →
    task.unbegun ≤ round → s.history ⟨n, round, place⟩ = []

theorem recorded_start {s : Server} {origin : Origin} (url : Url) (h : s.history origin = []) :
    Stage.Recorded (Validation.start origin url).origin (Validation.start origin url).url
      (Validation.start origin url).stage (s.history (Validation.start origin url).origin) := by
  change Stage.Recorded origin url .findEngine (s.history origin)
  rw [h]
  exact .findEngine

namespace Kept

theorem initial (config : Config) : Kept (.initial config) where
  numbered := .initial config
  placed := by intro n task place v h; cases h
  live := fun h => absurd h (live_initial config)
  recorded := fun h => absurd rfl h
  unborn := fun _ => rfl
  unbegun := fun _ _ => rfl

variable {s s' : Server}

/-- Validations of one server with the same origin are the same. -/
theorem place_unique (hs : Kept s) {n k place place' : Nat} {task task' : Task} {v w : Validation}
    (hn : (n, task) ∈ s.tasks) (hk : (k, task') ∈ s.tasks) (hv : task.flights[place]? = some v)
    (hw : task'.flights[place']? = some w) (h : v.origin = w.origin) :
    n = k ∧ place = place' := by
  rw [hs.placed hn hv, hs.placed hk hw] at h
  obtain ⟨hn, _, hplace⟩ := Origin.mk.inj h
  exact ⟨hn, hplace⟩

theorem live_unique (hs : Kept s) {n k : Nat} {v w : Validation} (hv : s.Live n v)
    (hw : s.Live k w) (h : v.origin = w.origin) : v = w := by
  obtain ⟨task, hn, hv⟩ := hv
  obtain ⟨task', hk, hw⟩ := hw
  obtain ⟨place, hplace⟩ := List.mem_iff_getElem?.mp hv
  obtain ⟨place', hplace'⟩ := List.mem_iff_getElem?.mp hw
  obtain ⟨rfl, rfl⟩ := hs.place_unique hn hk hplace hplace' h
  cases hs.numbered.unique hn (hs.numbered.task?_eq hk)
  exact Option.some.inj (hplace.symm.trans hplace')

/-- A step writes about validations of its own task, in the round that has begun. -/
theorem turn_origin (hs : Kept s) {n : Nat} {task : Task} {turn : Task.Turn} {event : Event}
    {origin : Origin} (htask : (n, task) ∈ s.tasks) (hturn : Task.Turns s.shared n task turn)
    (hmem : event ∈ turn.events) (horigin : event.origin? = some origin) :
    origin.task = n ∧ origin.round < task.unbegun := by
  obtain ⟨place, _, v, _, hplace, hv, _⟩ := hturn.origin_cases hmem horigin
  have hne : task.flights ≠ [] := by
    intro hnil
    rw [hnil] at hplace
    cases hplace
  rw [← hv, hs.placed htask hplace, Task.unbegun_of_flights hne]
  exact ⟨rfl, Nat.lt_succ_self _⟩

/-- A move that writes nothing, and leaves of each task its validations or takes
it away, keeps everything. -/
theorem of_tasks (hs : s.Kept) (hnumbered : Numbered s') (hjournal : s'.journal = s.journal)
    (hfresh : s'.fresh = s.fresh)
    (htasks : ∀ {n : Nat} {task : Task}, (n, task) ∈ s'.tasks → ∃ old, (n, old) ∈ s.tasks ∧
      task.flights = old.flights ∧ task.round = old.round ∧ task.unbegun = old.unbegun) :
    Kept s' := by
  have hhistory (origin : Origin) : s'.history origin = s.history origin := by
    simp [history, hjournal]
  constructor
  · exact hnumbered
  · intro n task place v hmem hplace
    obtain ⟨old, hold, hflights, hround, _⟩ := htasks hmem
    rw [hflights] at hplace
    rw [hround]
    exact hs.placed hold hplace
  · rintro n v ⟨task, hmem, hv⟩
    obtain ⟨old, hold, hflights, _⟩ := htasks hmem
    rw [hhistory]
    exact hs.live ⟨old, hold, hflights ▸ hv⟩
  · intro origin h
    rw [hhistory] at h ⊢
    exact hs.recorded h
  · intro origin h
    rw [hhistory]
    exact hs.unborn (hfresh ▸ h)
  · intro n task round place hmem hround
    obtain ⟨old, hold, _, _, hbegun⟩ := htasks hmem
    rw [hhistory]
    exact hs.unbegun hold (hbegun ▸ hround)

/-- A new task's validations have not begun, so the journal has no entries about
them. -/
theorem add (hs : Kept s) (make : Nat → Task)
    (hmake : ∀ {place : Nat} {v : Validation}, (make s.fresh).flights[place]? = some v →
      ∃ url, v = .start ⟨s.fresh, (make s.fresh).round, place⟩ url) : Kept (s.add make) := by
  have hunborn (round place : Nat) : s.history ⟨s.fresh, round, place⟩ = [] :=
    hs.unborn (Nat.le_refl _)
  constructor
  · exact hs.numbered.add make
  · intro n task place v hmem hplace
    rcases mem_add.mp hmem with hold | ⟨rfl, rfl⟩
    · exact hs.placed hold hplace
    · obtain ⟨url, rfl⟩ := hmake hplace
      rfl
  · rintro n v ⟨task, hmem, hv⟩
    rcases mem_add.mp hmem with hold | ⟨rfl, rfl⟩
    · exact hs.live ⟨task, hold, hv⟩
    · obtain ⟨place, hplace⟩ := List.mem_iff_getElem?.mp hv
      obtain ⟨url, rfl⟩ := hmake hplace
      exact recorded_start url (hunborn _ place)
  · exact hs.recorded
  · intro origin h
    exact hs.unborn (Nat.le_of_succ_le h)
  · intro n task round place hmem hround
    rcases mem_add.mp hmem with hold | ⟨rfl, rfl⟩
    · exact hs.unbegun hold hround
    · exact hunborn round place

section Settled
variable {n : Nat} {task : Task} {turn : Task.Turn} (hs : Kept s) (htask : s.task? n = some task)
  (hturn : Task.Turns s.shared n task turn)
include hs htask hturn

/-- A step of a task says nothing about the validations of others. -/
theorem history_settled_other {k round place : Nat} (hk : k ≠ n) :
    (s.settled n turn).history ⟨k, round, place⟩ = s.history ⟨k, round, place⟩ := by
  refine history_other (journal_settled s n turn) ?_
  intro event hevent horigin
  exact hk (hs.turn_origin (mem_of_task? htask) hturn hevent horigin).1

theorem placed_settled {k place : Nat} {next : Task} {v : Validation}
    (hnext : (k, next) ∈ (s.settled n turn).tasks) (hplace : next.flights[place]? = some v) :
    v.origin = ⟨k, next.round, place⟩ := by
  have hmem := mem_of_task? htask
  rcases (mem_settled htask).mp hnext with ⟨hold, _⟩ | ⟨rfl, hgo⟩
  · exact hs.placed hold hplace
  · obtain ⟨hround, ⟨hsame, _⟩ | ⟨old, answer, hold, hstep⟩ | ⟨_, _, url, rfl⟩⟩ :=
      hturn.flights_cases hgo hplace
    · rw [hround]
      exact hs.placed hmem hsame
    · rw [hround, (Validation.goes hstep).1]
      exact hs.placed hmem hold
    · rw [hround]
      rfl

/-- The history of a validation grows as its stage does. -/
theorem live_settled {k : Nat} {v : Validation} (hv : (s.settled n turn).Live k v) :
    Stage.Recorded v.origin v.url v.stage ((s.settled n turn).history v.origin) := by
  have hmem := mem_of_task? htask
  have hjournal := journal_settled s n turn
  obtain ⟨next, hnext, hv⟩ := hv
  obtain ⟨place, hplace⟩ := List.mem_iff_getElem?.mp hv
  rcases (mem_settled htask).mp hnext with ⟨hold, hk⟩ | ⟨rfl, hgo⟩
  · have hlive := hs.live ⟨next, hold, hv⟩
    rw [hs.placed hold hplace] at hlive ⊢
    rw [hs.history_settled_other htask hturn hk]
    exact hlive
  · obtain ⟨hround, ⟨hsame, hothers⟩ | ⟨old, answer, hold, hstep⟩ | ⟨hbatch, hnone, url, rfl⟩⟩ :=
      hturn.flights_cases hgo hplace
    · -- another validation of the same task has moved, and that has another origin
      rw [history_other hjournal]
      · exact hs.live ⟨task, hmem, List.mem_of_getElem? hsame⟩
      · intro event hevent horigin
        obtain ⟨other, w, hne, hw, heq⟩ := hothers event hevent _ horigin
        exact hne (hs.place_unique hmem hmem hw hsame heq.symm).2
    · obtain ⟨horigin, hurl, hgoes⟩ := Validation.goes hstep
      rw [horigin, hurl, history_own hjournal hgoes.origin?_eq]
      exact (hs.live ⟨task, hmem, List.mem_of_getElem? hold⟩).goes hgoes
    · -- the batch's round has only now begun
      refine recorded_start url ?_
      rw [history_other hjournal (by rw [hnone]; intro event h; cases h)]
      exact hs.unbegun hmem (Task.unbegun_of_listing hbatch)

theorem recorded_settled {origin : Origin} (h : (s.settled n turn).history origin ≠ []) :
    ∃ url stage, Stage.Recorded origin url stage ((s.settled n turn).history origin) := by
  have hjournal := journal_settled s n turn
  by_cases howns : ∃ event ∈ turn.events, event.origin? = some origin
  · obtain ⟨event, hevent, horigin⟩ := howns
    obtain ⟨place, answer, v, v', hplace, rfl, hstep⟩ := hturn.origin_cases hevent horigin
    obtain ⟨_, _, hgoes⟩ := Validation.goes hstep
    have hlive := hs.live ⟨task, mem_of_task? htask, List.mem_of_getElem? hplace⟩
    rw [history_own hjournal hgoes.origin?_eq]
    exact ⟨v.url, v'.stage, hlive.goes hgoes⟩
  · have hsame : (s.settled n turn).history origin = s.history origin :=
      history_other hjournal fun event hevent horigin => howns ⟨event, hevent, horigin⟩
    rw [hsame] at h ⊢
    exact hs.recorded h

theorem unbegun_settled {k round place : Nat} {next : Task}
    (hnext : (k, next) ∈ (s.settled n turn).tasks) (hround : next.unbegun ≤ round) :
    (s.settled n turn).history ⟨k, round, place⟩ = [] := by
  have hmem := mem_of_task? htask
  rcases (mem_settled htask).mp hnext with ⟨hold, hk⟩ | ⟨rfl, hgo⟩
  · rw [hs.history_settled_other htask hturn hk]
    exact hs.unbegun hold hround
  · -- a task never goes back to a round that has begun
    have hle := Nat.le_trans (hturn.unbegun_le hgo) hround
    rw [history_other (journal_settled s _ turn)]
    · exact hs.unbegun hmem hle
    · intro event hevent horigin
      exact absurd (hs.turn_origin hmem hturn hevent horigin).2 (Nat.not_lt.mpr hle)

/-- A step of a task keeps everything, before the task it starts is added. -/
theorem settled : Kept (s.settled n turn) where
  numbered := hs.numbered.settled n turn
  placed := hs.placed_settled htask hturn
  live := hs.live_settled htask hturn
  recorded := hs.recorded_settled htask hturn
  unborn := by
    intro origin h
    rw [fresh_settled] at h
    have hn := hs.numbered.given _ (mem_of_task? htask)
    have hne : origin.task ≠ n := by
      rintro rfl
      exact absurd hn (Nat.not_lt.mpr h)
    rw [hs.history_settled_other htask hturn hne]
    exact hs.unborn h
  unbegun := hs.unbegun_settled htask hturn

end Settled

/-- **Every move keeps the histories.** -/
theorem step (hs : Kept s) {m : Move} (h : s.step m = some s') : Kept s' := by
  have hnumbered := hs.numbered.step h
  cases m with
  | arrive request =>
    rw [step_arrive h]
    exact hs.add _ Task.flights_ofRequest
  | advance n place answer =>
    obtain ⟨task, turn, htask, hturn, rfl⟩ := step_advance h
    have hsettled := hs.settled htask (Task.turns_of_step hturn)
    rw [after_eq] at hnumbered ⊢
    cases hspawn : turn.spawned with
    | none => exact hsettled
    | some spawn =>
      rw [hspawn] at hnumbered
      have hadd := hsettled.add (fun k => .ofSpawn k spawn) Task.flights_ofSpawn
      refine hadd.of_tasks hnumbered ?_ ?_ ?_
      · simp [Server.add]
      · simp [Server.add]
      · intro k next hnext
        refine ⟨next, ?_, rfl, rfl, rfl⟩
        simpa [Server.add] using hnext
  | fileChanged changed =>
    rw [step_fileChanged h] at hnumbered ⊢
    refine hs.of_tasks hnumbered (deliver_rest s changed).2.1 (deliver_rest s changed).2.2 ?_
    intro n task hmem
    obtain ⟨old, hold, rfl | ⟨path, rfl⟩⟩ := mem_deliver hmem
    · exact ⟨_, hold, rfl, rfl, rfl⟩
    · exact ⟨old, hold, Task.flights_push path old⟩
  | abandon n =>
    rw [step_abandon h] at hnumbered ⊢
    exact hs.of_tasks hnumbered rfl rfl fun hmem =>
      ⟨_, (mem_remove.mp hmem).1, rfl, rfl, rfl⟩

end Kept

namespace Run

theorem kept {config : Config} (e : Run (.initial config)) (t : Nat) : Kept (e.state t) :=
  e.invariant (Kept.initial config) (fun hs h => hs.step h) t

theorem history_mono {start : Server} (e : Run start) {t u : Nat} (htu : t ≤ u) (origin : Origin) :
    ∃ later, (e.state u).history origin = later ++ (e.state t).history origin := by
  obtain ⟨new, hnew⟩ := e.journal_mono htu
  exact ⟨_, by unfold history; rw [hnew, List.filter_append]⟩

/-- **A validation that publishes does nothing more**: from then on its history is
what it was, and the publication. -/
theorem history_of_published {config : Config} (e : Run (.initial config)) {t u : Nat}
    {origin : Origin} {url : Url} {ds : List Diagnostic}
    (h : .published (some origin) url ds ∈ e.written t) (htu : t < u) :
    (e.state u).history origin =
      .published (some origin) url ds :: (e.state t).history origin := by
  obtain ⟨n, turn, hevents, hjournal, _⟩ := e.published_cases h
  have hnext : (e.state (t + 1)).history origin =
      .published (some origin) url ds :: (e.state t).history origin := by
    rw [history_own hjournal (by rw [hevents]; simp [Event.origin?]), hevents]
    rfl
  obtain ⟨later, hlater⟩ := e.history_mono htu origin
  rw [hnext] at hlater
  obtain ⟨_, _, hrecorded⟩ := (e.kept u).recorded (by rw [hlater]; simp)
  rw [hlater, hrecorded.published_last hlater, List.nil_append]

end Run

end Server

end LintServer
