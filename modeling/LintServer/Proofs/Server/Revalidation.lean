import LintServer.Proofs.Server.History

/-! # No revalidation is lost

Texts and settings change while validations run, and a validation reads them at
different times, so most of what is found may be out of date.  Still, whenever
nothing runs any more, each open document has been validated with the text and the
settings it has now, and the outcome has reached the editor
(`Run.revalidated`).

The invariant is `Attended`.  For every open document one of three things holds
(`Pursued`): a validation is on its way that has read nothing but what is in force
(`Stage.HeadsFor`); or a batch is about to list all documents; or a validation with
the text and settings in force has concluded, and its failure, if any, has been
shown or is still to be shown by the task it belongs to (`Task.Owes`).  A change of
text starts a validation and a change of settings a batch in the very step that
makes the change, so nothing in force is ever without its pursuer.
-/
namespace LintServer

/-! ## Validations on their way -/

/-- What a validation has read so far is what a snapshot holds, and it is not at its
end. -/
def Stage.HeadsFor (snapshot : Snapshot) : Stage → Prop
  | .findEngine => True
  | .readText engine => engine = snapshot.engine
  | .readSettings engine text => engine = snapshot.engine ∧ text = snapshot.text
  | .callEngine taken | .awaitReport taken | .compareSettings taken _ | .publish taken _ =>
    taken = snapshot
  | .ended _ => False

/-- The shared state holds, for a document, what the snapshot holds. -/
structure Snapshot.InForce (shared : Shared) (url : Url) (snapshot : Snapshot) : Prop where
  engine : shared.phase.engine? = some snapshot.engine
  document : ∃ document, shared.documents.get? url = some document ∧ document.text = snapshot.text
  settings : shared.settings = snapshot.settings

namespace Stage
variable {shared : Shared} {origin : Origin} {url : Url} {snapshot : Snapshot}

theorem headsFor_afterReading : (afterReading snapshot).HeadsFor snapshot := by
  unfold afterReading
  split <;> exact rfl

/-- The answer of the engine leads to the second look at the settings, or, if the
engine raised an error, to the end. -/
theorem headsFor_afterAnswer {entries : List Event} (result : Except EngineError Json)
    (h : Recorded origin url (.awaitReport snapshot) entries) :
    (afterAnswer snapshot (.ofResult result)).HeadsFor snapshot ∨
      ∃ failure, afterAnswer snapshot (.ofResult result) = .ended failure ∧
        snapshot.Concluded origin url failure (.answered origin (.ofResult result) :: entries) := by
  cases h with
  | awaitReport _ henabled =>
    cases result with
    | ok value => exact Or.inl rfl
    | error error =>
      simp only [Finding.ofResult, afterAnswer]
      split
      · exact Or.inr ⟨_, rfl, .raised error henabled ‹_›⟩
      · exact Or.inl rfl

/-- **A validation of what is in force goes on, or concludes.**  It finds the engine
and the document, and it is not dropped. -/
theorem HeadsFor.goes {stage stage' : Stage} {entries events : List Event}
    (h : stage.HeadsFor snapshot) (hforce : snapshot.InForce shared url)
    (hrecorded : Recorded origin url stage entries)
    (hgoes : Goes shared origin url stage stage' events) :
    stage'.HeadsFor snapshot ∨ ∃ failure, stage' = .ended failure ∧
      snapshot.Concluded origin url failure (events.reverse ++ entries) := by
  cases hgoes with
  | noEngine hnone =>
    rw [hforce.engine] at hnone
    cases hnone
  | engine engine hengine =>
    rw [hforce.engine] at hengine
    exact Or.inl (Option.some.inj hengine).symm
  | noText engine hnone =>
    obtain ⟨document, hdocument, _⟩ := hforce.document
    rw [hdocument] at hnone
    cases hnone
  | text engine document hdocument =>
    obtain ⟨document', hdocument', htext⟩ := hforce.document
    rw [hdocument'] at hdocument
    cases hdocument
    exact Or.inl ⟨h, htext⟩
  | settings engine text =>
    -- the last part is read now: from here on the snapshot is complete
    obtain ⟨rfl, rfl⟩ := h
    rw [hforce.settings]
    exact Or.inl headsFor_afterReading
  | taken taken => exact Or.inl h
  | refused taken error =>
    cases h
    cases hrecorded with
    | callEngine _ henabled => exact Or.inr ⟨_, rfl, .refused error henabled⟩
  | answered taken result =>
    cases h
    exact headsFor_afterAnswer result hrecorded
  | confirmed taken finding => exact Or.inl h
  | dropped taken finding hstale =>
    -- the settings that were read are still in force, so no drop can hit
    cases h
    rw [hforce.settings] at hstale
    exact absurd rfl hstale
  | published taken finding =>
    cases h
    cases hrecorded with
    | publish _ _ _ hfound => exact Or.inr ⟨_, rfl, .published finding _ hfound⟩

end Stage

/-! ## Tasks that edit

While a document is edited, the editor opens, changes and closes documents, pushes
settings and tells of changed files, and tasks move. -/

def Request.IsEditing : Request → Prop
  | .openDocument _ _ | .changeDocument _ _ _ | .closeDocument _ | .configure _
  | .filesChanged => True
  | _ => False

def Move.IsEditing : Move → Prop
  | .arrive request => request.IsEditing
  | .advance _ _ _ => True
  | _ => False

namespace Task

/-- The tasks that such requests start, and those they start in turn. -/
def IsEditing : Task → Prop
  | .store _ _ validated | .apply _ validated => validated = true
  | .forget _ | .clear _ | .spawnBatch | .nothing | .single _ | .showFailure _ | .batch _ => True
  | _ => False

/-- A failure that a task is still to show, or will show at the end of its batch. -/
def Owes (message : String) : Task → Prop
  | .showFailure m => m = message
  | .batch (.showing messages) => message ∈ messages
  | .batch (.validating flights) => ∃ v ∈ flights, v.notice? = some message
  | _ => False

theorem isEditing_ofRequest (number : Nat) {request : Request} (h : request.IsEditing) :
    (ofRequest number request).IsEditing := by
  cases request with
  | changeDocument url texts version =>
    simp only [ofRequest]
    cases texts.getLast? with
    | none => trivial
    | some text => rfl
  | openDocument | configure => rfl
  | closeDocument | filesChanged => trivial
  | _ => exact absurd h id

theorem isEditing_afterSingle {v : Validation} {next : Task} (h : afterSingle v = .inl next) :
    next.IsEditing := by
  unfold afterSingle at h
  split at h <;> cases h <;> trivial

theorem withBatch_eq {task : Task} (hediting : task.IsEditing) (b? : Option Batch) :
    task.withBatch b? = b?.elim (.inr .done) (.inl ∘ .batch) := by
  cases task with
  | follow loop => exact absurd hediting id
  | _ => rfl

theorem isEditing_withBatch {task next : Task} (hediting : task.IsEditing) {b? : Option Batch}
    (h : task.withBatch b? = .inl next) : next.IsEditing := by
  rw [withBatch_eq hediting] at h
  cases b? <;> cases h
  trivial

theorem eq_batch {task : Task} (hediting : task.IsEditing) {b : Batch}
    (hb : task.batch? = some b) : task = .batch b := by
  cases task with
  | batch => cases hb; rfl
  | follow => exact absurd hediting id
  | _ => cases hb

/-- What a task that edits does when its validations have moved. -/
theorem resume_cases {task : Task} (hediting : task.IsEditing) (flights : List Validation) :
    (∃ v, task = .single v ∧ task.resume flights = afterSingle (flights.headD v)) ∨
      task.resume flights = task.withBatch (Batch.ofFlights flights) := by
  cases task with
  | single v => exact Or.inl ⟨v, rfl, rfl⟩
  | validate v => exact absurd hediting id
  | _ => exact Or.inr rfl

theorem isEditing_resume {task next : Task} (hediting : task.IsEditing) {flights : List Validation}
    (h : task.resume flights = .inl next) : next.IsEditing := by
  rcases resume_cases hediting flights with ⟨v, _, he⟩ | he
  · exact isEditing_afterSingle (he ▸ h)
  · exact isEditing_withBatch hediting (he ▸ h)

namespace IsEditing
variable {shared : Shared} {number : Nat} {task : Task} {turn : Turn}

/-- Of the steps that have nothing to do with documents, only one is a step of a
task that edits: that of a task with nothing to do. -/
theorem not_quiet (hediting : task.IsEditing)
    (hkind : task.IsService ∨
      (task = .stop ∨ task = .nothing) ∧ turn.next = .inr .done ∧ turn.spawned = none) :
    task = .nothing ∧ turn.next = .inr .done ∧ turn.spawned = none := by
  rcases hkind with hservice | ⟨rfl | rfl, hdone⟩
  · cases task with
    | handshake | announce | follow => exact absurd hediting id
    | _ => exact absurd hservice id
  · exact absurd hediting id
  · exact ⟨rfl, hdone⟩

theorem phase_eq (hediting : task.IsEditing) (h : Turns shared number task turn) :
    turn.shared.phase = shared.phase := by
  cases h with
  | quiet _ _ _ _ hphase =>
    rcases hphase with hsame | ⟨h, rfl⟩
    · exact hsame
    · exact absurd hediting id
  | _ => rfl

theorem next (hediting : task.IsEditing) (h : Turns shared number task turn) {next : Task}
    (hnext : turn.next = .inl next) : next.IsEditing := by
  cases h with
  | flight => exact isEditing_resume hediting hnext
  | list | tell => exact isEditing_withBatch hediting hnext
  | forget url =>
    cases hnext
    trivial
  | showFailure | store | clear | apply | spawnBatch => cases hnext
  | quiet _ _ _ _ _ _ hkind =>
    rw [(hediting.not_quiet hkind).2.1] at hnext
    cases hnext

theorem spawned (hediting : task.IsEditing) (h : Turns shared number task turn) {spawn : Spawn}
    (hspawn : turn.spawned = some spawn) (n : Nat) : (ofSpawn n spawn).IsEditing := by
  cases h with
  | store url document validated =>
    cases show validated = true from hediting
    cases hspawn
    trivial
  | apply push validated =>
    cases show validated = true from hediting
    cases hspawn
    trivial
  | spawnBatch =>
    cases hspawn
    trivial
  | flight | list | tell | showFailure | forget | clear => cases hspawn
  | quiet _ _ _ _ _ _ hkind =>
    rw [(hediting.not_quiet hkind).2.2] at hspawn
    cases hspawn

end IsEditing

/-! ## What becomes of validations and failures -/

/-- A batch that is to list the documents does so in its next step: all of them are
on their way then. -/
theorem Turns.listed {shared : Shared} {number : Nat} {turn : Turn}
    (h : Turns shared number (.batch .listing) turn) {url : Url}
    (hurl : url ∈ shared.documents.urls) :
    ∃ next v, turn.next = .inl next ∧ v ∈ next.flights ∧ v.url = url ∧ v.stage = .findEngine := by
  cases h with
  | list _ urls _ hurls =>
    obtain ⟨place, hplace⟩ := List.mem_iff_getElem?.mp (hurls.mem_iff.mpr hurl)
    have hmem : Validation.start ⟨number, 0, place⟩ url ∈ Batch.flightsFor number 0 urls := by
      rw [Batch.flightsFor]
      refine List.mem_iff_getElem?.mpr ⟨place, ?_⟩
      rw [List.getElem?_mapIdx, hplace]
      rfl
    have hgoing : (Batch.flightsFor number 0 urls).all (·.stage.isEnded) = false :=
      List.all_eq_false.mpr ⟨_, hmem, by simp [Validation.start, Stage.isEnded]⟩
    refine ⟨.batch (.validating (Batch.flightsFor number 0 urls)), _, ?_, hmem, rfl, rfl⟩
    simp [withBatch, round, Batch.ofFlights, hgoing]
  | flight _ _ _ _ _ _ hplace => cases hplace
  | tell _ _ _ hbatch => cases hbatch
  | quiet _ _ _ _ _ _ hkind => simp [IsService] at hkind

theorem toShow_of_mem {message : String} {messages : List String} (h : message ∈ messages) :
    Batch.toShow messages = some (.showing messages) := by
  unfold Batch.toShow
  rw [if_neg]
  intro hempty
  rw [List.isEmpty_iff.mp hempty] at h
  cases h

/-- A failure that a validation ends with is owed by its task. -/
theorem resume_owes {task : Task} (hediting : task.IsEditing) {flights : List Validation}
    (hlen : flights.length = task.flights.length) {v : Validation} (hv : v ∈ flights)
    {message : String} (hnotice : v.notice? = some message) :
    ∃ next, task.resume flights = .inl next ∧ next.Owes message := by
  rcases resume_cases hediting flights with ⟨w, rfl, he⟩ | he
  · obtain ⟨w', rfl⟩ := List.length_eq_one_iff.mp hlen
    cases List.mem_singleton.mp hv
    obtain ⟨error, hstage, rfl⟩ := Validation.notice?_eq_some.mp hnotice
    refine ⟨.showFailure (error.notice v.url), ?_, rfl⟩
    rw [he, List.headD_cons, afterSingle, hstage]
  · rw [he, withBatch_eq hediting, Batch.ofFlights]
    split
    · have hmem : message ∈ Batch.messages flights := Batch.mem_messages.mpr ⟨v, hv, hnotice⟩
      rw [toShow_of_mem hmem]
      exact ⟨_, rfl, hmem⟩
    · exact ⟨_, rfl, v, hv, hnotice⟩

/-- **A failure that is owed gets shown, or is still owed.** -/
theorem Turns.owes {shared : Shared} {number : Nat} {task : Task} {turn : Turn} {message : String}
    (h : Turns shared number task turn) (hediting : task.IsEditing) (howes : task.Owes message) :
    .shown number message ∈ turn.events ∨ ∃ next, turn.next = .inl next ∧ next.Owes message := by
  cases h with
  | flight _ place answer v v' events hplace hstep =>
    -- the validation that moves is not the one that has failed
    obtain ⟨w, hw, hnotice⟩ : ∃ w ∈ task.flights, w.notice? = some message := by
      cases task with
      | batch b =>
        cases b with
        | validating flights => exact howes
        | listing | showing => cases hplace
      | showFailure => cases hplace
      | _ => exact absurd howes id
    obtain ⟨k, hk⟩ := List.mem_iff_getElem?.mp hw
    have hne : place ≠ k := by
      rintro rfl
      rw [hplace] at hk
      cases hk
      obtain ⟨error, hstage, _⟩ := Validation.notice?_eq_some.mp hnotice
      have hgoes := (Validation.goes hstep).2.2
      rw [hstage] at hgoes
      cases hgoes
    have hmem : w ∈ task.flights.set place v' :=
      List.mem_iff_getElem?.mpr ⟨k, by rw [List.getElem?_set_ne hne, hk]⟩
    exact Or.inr (resume_owes hediting (List.length_set ..) hmem hnotice)
  | tell _ first more hbatch =>
    cases eq_batch hediting hbatch
    rcases List.mem_cons.mp (show message ∈ first :: more from howes) with rfl | hmore
    · exact Or.inl List.mem_cons_self
    · refine Or.inr ⟨.batch (.showing more), ?_, hmore⟩
      rw [toShow_of_mem hmore]
      rfl
  | showFailure m =>
    cases show m = message from howes
    exact Or.inl List.mem_cons_self
  | list _ urls hbatch =>
    cases eq_batch hediting hbatch
    exact absurd howes id
  | store | forget | clear | apply | spawnBatch => exact absurd howes id
  | quiet _ _ _ _ _ _ hkind =>
    rw [(hediting.not_quiet hkind).1] at howes
    exact absurd howes id

/-- **A validation of what is in force stays with its task, or concludes**, and the
task owes the failure it concludes with. -/
theorem Turns.headsFor {shared : Shared} {number : Nat} {task : Task} {turn : Turn} {v : Validation}
    {snapshot : Snapshot} {entries : List Event} (h : Turns shared number task turn)
    (hediting : task.IsEditing) (hv : v ∈ task.flights) (hheads : v.stage.HeadsFor snapshot)
    (hforce : snapshot.InForce shared v.url)
    (hrecorded : Stage.Recorded v.origin v.url v.stage entries) :
    (∃ next w, turn.next = .inl next ∧ w ∈ next.flights ∧ w.url = v.url ∧
      w.stage.HeadsFor snapshot) ∨
    ∃ failure, (∀ event ∈ turn.events, event.origin? = some v.origin) ∧
      snapshot.Concluded v.origin v.url failure (turn.events.reverse ++ entries) ∧
      ∀ error, failure = some error →
        ∃ next, turn.next = .inl next ∧ next.Owes (error.notice v.url) := by
  have hgoing {w : Validation} (hw : w.stage.HeadsFor snapshot) : w.stage.isEnded = false := by
    cases hstage : w.stage with
    | ended failure => rw [hstage] at hw; exact absurd hw id
    | _ => rfl
  obtain ⟨place, answer, old, new, events, hplace, _, hstep, rfl⟩ :=
    h.flight_of_ne (List.ne_nil_of_mem hv)
  obtain ⟨k, hk⟩ := List.mem_iff_getElem?.mp hv
  by_cases hne : place = k
  · -- it is the validation that moves
    subst hne
    rw [hplace] at hk
    cases hk
    have hlt : place < task.flights.length := (List.getElem?_eq_some_iff.mp hplace).1
    have hmem : new ∈ task.flights.set place new := List.mem_iff_getElem?.mpr
      ⟨place, List.getElem?_set_self hlt⟩
    obtain ⟨_, hurl, hgoes⟩ := Validation.goes hstep
    rcases hheads.goes hforce hrecorded hgoes with hnext | ⟨failure, hended, hconcluded⟩
    · obtain ⟨next, hresume, hholds⟩ :=
        resume_holds (List.length_set ..) hmem (hgoing hnext)
      exact Or.inl ⟨next, new, hresume, hholds ▸ hmem, hurl, hnext⟩
    · refine Or.inr ⟨failure, hgoes.origin?_eq, hconcluded, ?_⟩
      rintro error rfl
      refine resume_owes hediting (List.length_set ..) hmem ?_
      exact Validation.notice?_eq_some.mpr ⟨error, hended, by rw [hurl]⟩
  · have hmem : v ∈ task.flights.set place new :=
      List.mem_iff_getElem?.mpr ⟨k, by rw [List.getElem?_set_ne hne, hk]⟩
    obtain ⟨next, hresume, hholds⟩ :=
      resume_holds (List.length_set ..) hmem (hgoing hheads)
    exact Or.inl ⟨next, v, hresume, hholds ▸ hmem, rfl, hheads⟩

/-- **What is in force after a step was so before, or the step starts a task to
pursue it.** -/
theorem Turns.inForce_cases {shared : Shared} {number : Nat} {task : Task} {turn : Turn}
    (h : Turns shared number task turn) (hediting : task.IsEditing) {url : Url}
    {document : Document} (hopen : turn.shared.documents.get? url = some document) :
    shared.documents.get? url = some document ∧ turn.shared.settings = shared.settings ∨
      turn.spawned = some (.single url) ∨ turn.spawned = some .batch := by
  cases h with
  | store u new validated =>
    cases show validated = true from hediting
    simp only [Documents.get?_put] at hopen
    split at hopen
    · rename_i hu
      exact Or.inr (Or.inl (by rw [hu]; rfl))
    · exact Or.inl ⟨hopen, rfl⟩
  | forget u =>
    simp only [Turn.goOn, Documents.get?_erase] at hopen
    split at hopen
    · cases hopen
    · exact Or.inl ⟨hopen, rfl⟩
  | apply push validated =>
    cases show validated = true from hediting
    exact Or.inr (Or.inr rfl)
  | quiet _ _ hsettings hdocuments => exact Or.inl ⟨hdocuments ▸ hopen, hsettings⟩
  | flight | list | tell | showFailure | clear | spawnBatch => exact Or.inl ⟨hopen, rfl⟩

end Task

namespace Server

/-! ## Pursuit of what is in force -/

/-- The user has been told of a failure by task `n`, or the task owes it. -/
def Told (s : Server) (n : Nat) (message : String) : Prop :=
  .shown n message ∈ s.journal ∨ ∃ task, (n, task) ∈ s.tasks ∧ task.Owes message

/-- **A document with what is in force for it is pursued.** -/
inductive Pursued (s : Server) (url : Url) (snapshot : Snapshot) : Prop
  /-- A validation is on its way. -/
  | underway (n : Nat) (v : Validation) (hlive : s.Live n v) (hurl : v.url = url)
    (hheads : v.stage.HeadsFor snapshot)
  /-- A batch is about to list the documents. -/
  | listing (n : Nat) (hmem : (n, .batch .listing) ∈ s.tasks)
  /-- A validation has concluded. -/
  | concluded (origin : Origin) (failure : Option EngineError)
    (hconcluded : snapshot.Concluded origin url failure (s.history origin))
    (htold : ∀ error, failure = some error → s.Told origin.task (error.notice url))

/-- **No document is left alone** while the engine is loaded and documents are edited. -/
structure Attended (engine : Engine) (s : Server) : Prop where
  kept : Kept s
  ready : s.shared.phase = .ready engine
  editing : ∀ {n : Nat} {task : Task}, (n, task) ∈ s.tasks → task.IsEditing
  pursued : ∀ {url : Url} {document : Document}, s.shared.documents.get? url = some document →
    s.Pursued url ⟨engine, document.text, s.shared.settings⟩

section Steps
variable {s : Server} {n : Nat} {task : Task} {turn : Task.Turn}

theorem Told.after {k : Nat} {message : String} (h : s.Told k message) (hs : Numbered s)
    (htask : s.task? n = some task) (hturns : Task.Turns s.shared n task turn)
    (hediting : task.IsEditing) : (s.after n turn).Told k message := by
  rcases h with hshown | ⟨owing, hmem, howes⟩
  · exact Or.inl (by rw [journal_after]; exact List.mem_append_right _ hshown)
  · by_cases hk : k = n
    · subst hk
      cases hs.unique hmem htask
      rcases hturns.owes hediting howes with hshown | ⟨next, hnext, howes'⟩
      · exact Or.inl (by rw [journal_after]; exact List.mem_append_left _ (mem_entries hshown))
      · exact Or.inr ⟨next, (mem_after htask).mpr (Or.inr (Or.inl ⟨rfl, hnext⟩)), howes'⟩
    · exact Or.inr ⟨owing, (mem_after htask).mpr (Or.inl ⟨hmem, hk⟩), howes⟩

/-- A conclusion is final. -/
theorem history_of_concluded {origin : Origin} {url : Url} {snapshot : Snapshot}
    {failure : Option EngineError} (hs : Kept s) (htask : s.task? n = some task)
    (hturns : Task.Turns s.shared n task turn)
    (hconcluded : snapshot.Concluded origin url failure (s.history origin)) :
    (s.after n turn).history origin = s.history origin := by
  refine history_other (journal_after s n turn) ?_
  intro event hmem horigin
  obtain ⟨place, answer, v, v', hplace, rfl, hstep⟩ := hturns.origin_cases hmem horigin
  have hlive : s.Live n v := ⟨task, mem_of_task? htask, List.mem_of_getElem? hplace⟩
  exact (hs.live hlive).not_concluded (Validation.goes hstep).2.2 hconcluded

/-- **A step keeps up the pursuit** of what was in force before it. -/
theorem Pursued.after {url : Url} {snapshot : Snapshot} (h : s.Pursued url snapshot) (hs : Kept s)
    (htask : s.task? n = some task) (hturns : Task.Turns s.shared n task turn)
    (hediting : task.IsEditing) (hforce : snapshot.InForce s.shared url) :
    (s.after n turn).Pursued url snapshot := by
  have hstays {k : Nat} {other : Task} (hmem : (k, other) ∈ s.tasks) (hk : k ≠ n) :
      (k, other) ∈ (s.after n turn).tasks := (mem_after htask).mpr (Or.inl ⟨hmem, hk⟩)
  have hgoes {next : Task} (hnext : turn.next = .inl next) :
      (n, next) ∈ (s.after n turn).tasks := (mem_after htask).mpr (Or.inr (Or.inl ⟨rfl, hnext⟩))
  cases h with
  | underway k v hlive hurl hheads =>
    obtain ⟨holder, hmem, hv⟩ := hlive
    by_cases hk : k = n
    · subst hk hurl
      cases hs.numbered.unique hmem htask
      -- the pursuer is in the task that moves
      rcases hturns.headsFor hediting hv hheads hforce (hs.live ⟨task, hmem, hv⟩) with
        ⟨next, w, hnext, hw, hurl, hheads'⟩ | ⟨failure, hown, hconcluded, howes⟩
      · exact .underway k w ⟨next, hgoes hnext, hw⟩ hurl hheads'
      · refine .concluded v.origin failure ?_ ?_
        · rw [history_own (journal_after s k turn) hown]
          exact hconcluded
        · intro error herror
          obtain ⟨next, hnext, howes'⟩ := howes error herror
          obtain ⟨place, hplace⟩ := List.mem_iff_getElem?.mp hv
          rw [hs.placed hmem hplace]
          exact Or.inr ⟨next, hgoes hnext, howes'⟩
    · exact .underway k v ⟨holder, hstays hmem hk, hv⟩ hurl hheads
  | listing k hmem =>
    by_cases hk : k = n
    · subst hk
      cases hs.numbered.unique hmem htask
      obtain ⟨document, hdocument, _⟩ := hforce.document
      obtain ⟨next, v, hnext, hv, hurl, hstage⟩ := hturns.listed (Documents.mem_urls hdocument)
      exact .underway k v ⟨next, hgoes hnext, hv⟩ hurl (by rw [hstage]; trivial)
    · exact .listing k (hstays hmem hk)
  | concluded origin failure hconcluded htold =>
    refine .concluded origin failure ?_ ?_
    · rw [history_of_concluded hs htask hturns hconcluded]
      exact hconcluded
    · intro error herror
      exact (htold error herror).after hs.numbered htask hturns hediting

theorem Pursued.add {url : Url} {snapshot : Snapshot} (h : s.Pursued url snapshot)
    (make : Nat → Task) : (s.add make).Pursued url snapshot := by
  have hstays {k : Nat} {other : Task} (hmem : (k, other) ∈ s.tasks) :
      (k, other) ∈ (s.add make).tasks := mem_add.mpr (Or.inl hmem)
  cases h with
  | underway k v hlive hurl hheads =>
    obtain ⟨holder, hmem, hv⟩ := hlive
    exact .underway k v ⟨holder, hstays hmem, hv⟩ hurl hheads
  | listing k hmem => exact .listing k (hstays hmem)
  | concluded origin failure hconcluded htold =>
    refine .concluded origin failure hconcluded ?_
    intro error herror
    rcases htold error herror with hshown | ⟨owing, hmem, howes⟩
    · exact Or.inl hshown
    · exact Or.inr ⟨owing, hstays hmem, howes⟩

end Steps

namespace Attended
variable {engine : Engine} {s s' : Server}

theorem arrive (hs : Attended engine s) {request : Request} (hediting : request.IsEditing)
    (h : s.step (.arrive request) = some s') : Attended engine s' := by
  have hkept := hs.kept.step h
  rw [step_arrive h] at hkept ⊢
  refine ⟨hkept, hs.ready, ?_, fun hopen => (hs.pursued hopen).add _⟩
  intro n task hmem
  rcases mem_add.mp hmem with hold | ⟨_, rfl⟩
  · exact hs.editing hold
  · exact Task.isEditing_ofRequest _ hediting

theorem advance (hs : Attended engine s) {n place : Nat} {answer : Answer}
    (h : s.step (.advance n place answer) = some s') : Attended engine s' := by
  have hkept := hs.kept.step h
  obtain ⟨task, turn, htask, hturn, rfl⟩ := step_advance h
  have hturns := Task.turns_of_step hturn
  have hediting := hs.editing (mem_of_task? htask)
  obtain ⟨hphase, hsettings, hdocuments⟩ := shared_after s n turn
  have hstarted {spawn : Task.Spawn} (hspawn : turn.spawned = some spawn) :
      (s.fresh, .ofSpawn s.fresh spawn) ∈ (s.after n turn).tasks :=
    (mem_after htask).mpr (Or.inr (Or.inr ⟨spawn, hspawn, rfl, rfl⟩))
  refine ⟨hkept, ?_, ?_, ?_⟩
  · rw [hphase, hediting.phase_eq hturns]
    exact hs.ready
  · intro k next hmem
    rcases (mem_after htask).mp hmem with ⟨hold, _⟩ | ⟨_, hnext⟩ | ⟨spawn, hspawn, _, rfl⟩
    · exact hs.editing hold
    · exact hediting.next hturns hnext
    · exact hediting.spawned hturns hspawn _
  · intro url document hopen
    rw [hdocuments] at hopen
    rw [hsettings]
    rcases hturns.inForce_cases hediting hopen with ⟨hold, hsame⟩ | hsingle | hbatch
    · rw [hsame]
      refine (hs.pursued hold).after hs.kept htask hturns hediting ⟨?_, ⟨document, hold, rfl⟩, rfl⟩
      rw [hs.ready]
      rfl
    · exact .underway _ (.start ⟨s.fresh, 0, 0⟩ url)
        ⟨_, hstarted hsingle, List.mem_cons_self⟩ rfl trivial
    · exact .listing _ (hstarted hbatch)

theorem step (hs : Attended engine s) {m : Move} (hediting : m.IsEditing)
    (h : s.step m = some s') : Attended engine s' := by
  cases m with
  | arrive request => exact hs.arrive hediting h
  | advance n place answer => exact hs.advance h
  | fileChanged | abandon => exact absurd hediting id

end Attended

/-! ## When nothing runs any more -/

/-- A server with a loaded engine, with no open documents, and with nothing to do. -/
structure Loaded (engine : Engine) (s : Server) : Prop where
  ready : s.shared.phase = .ready engine
  unopened : s.shared.documents = .empty
  idle : s.tasks = []

namespace Run
variable {config : Config} (e : Run (.initial config)) {engine : Engine} {t₀ t : Nat}

/-- From a loaded engine on, no document is ever left alone. -/
theorem attended (hloaded : (e.state t₀).Loaded engine) (hle : t₀ ≤ t)
    (hediting : ∀ u m, t₀ ≤ u → u < t → e.move u = some m → m.IsEditing) :
    Attended engine (e.state t) := by
  obtain ⟨d, rfl⟩ := Nat.exists_eq_add_of_le hle
  clear hle
  induction d with
  | zero =>
    refine ⟨e.kept _, hloaded.ready, ?_, ?_⟩
    · intro n task hmem
      rw [Nat.add_zero, hloaded.idle] at hmem
      cases hmem
    · intro url document hopen
      rw [Nat.add_zero, hloaded.unopened] at hopen
      cases hopen
  | succ d ih =>
    have hd := ih fun u m hu hud => hediting u m hu (Nat.lt_succ_of_lt hud)
    rcases e.next (t₀ + d) with hidle | ⟨m, hm, hstep⟩
    · rw [← Nat.add_assoc, hidle]
      exact hd
    · exact hd.step (hediting _ m (Nat.le_add_right t₀ d) (Nat.lt_succ_self _) hm) hstep

/-- **No revalidation is lost.**  From a loaded engine on, let documents be opened,
changed and closed, settings be pushed and files change, with all tasks moving in
any order.  When nothing runs, every open document has a validation that read the
text it has now and the settings in force now, and what came of it has reached the
editor.  A report is translated and published; with validation off, the empty set
is published; and a failure is shown to the user.  If the engine failed at work and
did not raise the error, the empty set is published too. -/
theorem revalidated (hloaded : (e.state t₀).Loaded engine) (hle : t₀ ≤ t)
    (hediting : ∀ u m, t₀ ≤ u → u < t → e.move u = some m → m.IsEditing)
    (hidle : (e.state t).tasks = []) {url : Url} {document : Document}
    (hopen : (e.state t).shared.documents.get? url = some document) :
    ∃ (origin : Origin) (snapshot : Snapshot), snapshot.engine = engine ∧
      snapshot.text = document.text ∧ snapshot.settings = (e.state t).shared.settings ∧
      ((snapshot.settings.enabled = false ∧ (e.state t).history origin =
          [.published (some origin) url [], .took origin url snapshot]) ∨
        (snapshot.settings.enabled = true ∧ ∃ value, (e.state t).history origin =
          [.published (some origin) url (translate (some value) engine.name),
            .answered origin (.report value),
            .called origin engine document.text snapshot.settings.options,
            .took origin url snapshot]) ∨
        (snapshot.settings.enabled = true ∧ ∃ error,
          .shown origin.task (error.notice url) ∈ (e.state t).journal ∧
          ((error.isRaised = false ∧ (e.state t).history origin =
              [.published (some origin) url [], .answered origin (.failure error),
                .called origin engine document.text snapshot.settings.options,
                .took origin url snapshot]) ∨
            (error.isRaised = true ∧ (e.state t).history origin =
              [.answered origin (.failure error),
                .called origin engine document.text snapshot.settings.options,
                .took origin url snapshot]) ∨
            (e.state t).history origin =
              [.refused origin error,
                .called origin engine document.text snapshot.settings.options,
                .took origin url snapshot]))) := by
  have hpursued := (e.attended hloaded hle hediting).pursued hopen
  cases hpursued with
  | underway n v hlive =>
    obtain ⟨task, hmem, _⟩ := hlive
    rw [hidle] at hmem
    cases hmem
  | listing n hmem =>
    rw [hidle] at hmem
    cases hmem
  | concluded origin failure hconcluded htold =>
    refine ⟨origin, ⟨engine, document.text, (e.state t).shared.settings⟩, rfl, rfl, rfl, ?_⟩
    have hshown (error : EngineError) (he : failure = some error) :
        .shown origin.task (error.notice url) ∈ (e.state t).journal := by
      rcases htold error he with hshown | ⟨task, hmem, _⟩
      · exact hshown
      · rw [hidle] at hmem
        cases hmem
    generalize (e.state t).history origin = history at hconcluded ⊢
    cases hconcluded with
    | refused error hon =>
      exact Or.inr (Or.inr ⟨hon, error, hshown error rfl, Or.inr (Or.inr rfl)⟩)
    | raised error hon hraised =>
      exact Or.inr (Or.inr ⟨hon, error, hshown error rfl, Or.inr (Or.inl ⟨hraised, rfl⟩)⟩)
    | published finding entries hfound =>
      cases hfound with
      | disabled hoff => exact Or.inl ⟨hoff, rfl⟩
      | report value hon => exact Or.inr (Or.inl ⟨hon, value, rfl⟩)
      | failure error hon hraised =>
        exact Or.inr (Or.inr ⟨hon, error, hshown error rfl, Or.inl ⟨hraised, rfl⟩⟩)

end Run

/-! ### Settings are pushed while the engine is at work

The document is opened and its text given to the engine.  Then a push puts settings
of generation 1 into force and starts a batch (task 4).  The engine's report comes,
and is dropped for its old settings; the batch lists the document and validates it
again. -/

namespace Sample

/-- The moves. -/
def pushedMoves : List Move :=
  opened ++ [.advance 2 0 .proceed, .advance 2 0 .proceed, .advance 2 0 .proceed,
    .advance 2 0 .taken, .arrive (.configure .null), .advance 3 0 .proceed,
    .advance 2 0 (.linted (.ok problem)), .advance 2 0 .proceed, .advance 4 0 (.listed [page]),
    .advance 4 0 .proceed, .advance 4 0 .proceed, .advance 4 0 .proceed, .advance 4 0 .taken,
    .advance 4 0 (.linted (.ok problem)), .advance 4 0 .proceed, .advance 4 0 .proceed]

/-- The run. -/
def pushed : Run (.initial .default) := .ofMoves (.initial .default) pushedMoves rfl

theorem pushed_loaded : (pushed.state 6).Loaded ⟨"standard", 0⟩ := ⟨rfl, rfl, rfl⟩

theorem pushed_editing (u : Nat) (m : Move) (hu : 6 ≤ u) (_ : u < 24)
    (hm : pushed.move u = some m) : m.IsEditing := by
  obtain ⟨k, rfl⟩ := Nat.exists_eq_add_of_le hu
  have hdrop : (pushedMoves.drop 6)[k]? = some m := by
    rw [List.getElem?_drop]
    exact hm
  have hall : ∀ m ∈ pushedMoves.drop 6, m.IsEditing := by
    simp [pushedMoves, opened, handshake, Move.IsEditing, Request.IsEditing]
  exact hall m (List.mem_of_getElem? hdrop)

end Sample

/-- In the end the document has been validated under the settings that were pushed. -/
theorem Run.revalidated_pushed : (Sample.pushed.state 24).tasks = [] ∧
    (Sample.pushed.state 24).shared.documents.get? Sample.page = some ⟨"a;", 1⟩ ∧
    ∃ origin snapshot, snapshot.text = "a;" ∧ snapshot.settings.generation = 1 ∧
      .took origin Sample.page snapshot ∈ (Sample.pushed.state 24).history origin := by
  have hidle : (Sample.pushed.state 24).tasks = [] := rfl
  have hopen : (Sample.pushed.state 24).shared.documents.get? Sample.page = some ⟨"a;", 1⟩ := rfl
  refine ⟨hidle, hopen, ?_⟩
  obtain ⟨origin, snapshot, _, htext, hsettings, hcases⟩ :=
    Sample.pushed.revalidated Sample.pushed_loaded (by decide) Sample.pushed_editing hidle hopen
  refine ⟨origin, snapshot, htext, by rw [hsettings]; rfl, ?_⟩
  rcases hcases with ⟨_, hhistory⟩ | ⟨_, _, hhistory⟩ |
    ⟨_, _, _, ⟨_, hhistory⟩ | ⟨_, hhistory⟩ | hhistory⟩
  all_goals
    rw [hhistory]
    simp

end Server

end LintServer
