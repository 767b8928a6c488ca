import LintServer.Proofs.Server.History

/-! # Where a shown failure comes from

A validation that makes its last step returns a failure, or none (`Run.Returns`).
What a task is bound to show are the failures its validations have returned
(`Task.notices`): a step adds to them only what the validation that moves returns
(`Turns.notices_cases`).  So a failure the user is told of was returned by a
validation of the same task before (`shown_source`).
-/
namespace LintServer

namespace Task

/-- What a task is showing, or will show at the end of its batch. -/
def notices (task : Task) : List String :=
  task.tells ++ task.flights.filterMap Validation.notice?

theorem mem_notices {task : Task} {message : String} : message ∈ task.notices ↔
    message ∈ task.tells ∨ ∃ v ∈ task.flights, v.notice? = some message := by
  simp [notices]

theorem tells_withBatch {task next : Task} {b? : Option Batch}
    (h : task.withBatch b? = .inl next) : next.tells = (b?.map Batch.tells).getD [] := by
  cases b? with
  | none => cases task <;> cases h; rfl
  | some b => cases task <;> cases h <;> rfl

theorem tells_toShow (messages : List String) :
    ((Batch.toShow messages).map Batch.tells).getD [] = messages := by
  unfold Batch.toShow
  split
  · rename_i hempty
    exact (List.isEmpty_iff.mp hempty).symm
  · rfl

/-- A batch shows what its validations have failed with. -/
theorem notice_of_ofFlights {flights : List Validation} {message : String}
    (h : message ∈ ((Batch.ofFlights flights).map Batch.tells).getD []) :
    ∃ v ∈ flights, v.notice? = some message := by
  unfold Batch.ofFlights at h
  split at h
  · rw [tells_toShow] at h
    exact Batch.mem_messages.mp h
  · cases h

theorem notice_of_afterSingle {v : Validation} {next : Task} {message : String}
    (h : afterSingle v = .inl next) (hm : message ∈ next.tells) : v.notice? = some message := by
  unfold afterSingle at h
  split at h <;> cases h
  · rename_i error hstage
    exact Validation.notice?_eq_some.mpr ⟨error, hstage, (List.mem_singleton.mp hm).symm⟩
  · cases hm

theorem tells_afterValidate {v : Validation} {next : Task} (h : afterValidate v = .inl next) :
    next.tells = [] := by
  unfold afterValidate at h
  split at h <;> cases h
  rfl

theorem notice_of_resume {task next : Task} {flights : List Validation} {message : String}
    (hlen : flights.length = task.flights.length) (h : task.resume flights = .inl next)
    (hm : message ∈ next.notices) : ∃ v ∈ flights, v.notice? = some message := by
  have hbatch (h : task.withBatch (Batch.ofFlights flights) = .inl next)
      (htells : message ∈ next.tells) : ∃ v ∈ flights, v.notice? = some message :=
    notice_of_ofFlights (tells_withBatch h ▸ htells)
  rcases mem_notices.mp hm with htells | ⟨v, hv, hnotice⟩
  · cases task with
    | validate w =>
      obtain ⟨w', rfl⟩ := List.length_eq_one_iff.mp hlen
      rw [tells_afterValidate h] at htells
      cases htells
    | single w =>
      obtain ⟨w', rfl⟩ := List.length_eq_one_iff.mp hlen
      exact ⟨w', List.mem_singleton_self w', notice_of_afterSingle h htells⟩
    | _ => exact hbatch h htells
  · rcases (flights_resume hlen h).1 with hsame | hnone
    · exact ⟨v, hsame ▸ hv, hnotice⟩
    · rw [hnone] at hv
      cases hv

theorem notice?_flightsFor {number round : Nat} {urls : List Url} {v : Validation}
    (hv : v ∈ Batch.flightsFor number round urls) : v.notice? = none := by
  obtain ⟨place, hplace⟩ := List.mem_iff_getElem?.mp hv
  rw [Batch.flightsFor, List.getElem?_mapIdx] at hplace
  obtain ⟨url, _, rfl⟩ := Option.map_eq_some_iff.mp hplace
  rfl

/-- **What a task is bound to show it was bound to show before**, or the validation
that moves has just returned it. -/
theorem Turns.notices_cases {shared : Shared} {number : Nat} {task next : Task} {turn : Turn}
    {message : String} (h : Turns shared number task turn) (hnext : turn.next = .inl next)
    (hm : message ∈ next.notices) :
    message ∈ task.notices ∨ ∃ (place : Nat) (answer : Answer) (v v' : Validation),
      task.flights[place]? = some v ∧ task.Lets v ∧ v.step shared answer = some (v', turn.events) ∧
      turn = ⟨shared, task.resume (task.flights.set place v'), none, turn.events⟩ ∧
      v'.notice? = some message := by
  cases h with
  | flight _ place answer v v' events hplace hstep hlets =>
    obtain ⟨w, hw, hnotice⟩ := notice_of_resume (List.length_set ..) hnext hm
    rcases List.mem_or_eq_of_mem_set hw with hold | rfl
    · exact Or.inl (mem_notices.mpr (Or.inr ⟨w, hold, hnotice⟩))
    · exact Or.inr ⟨place, answer, v, w, hplace, hlets, hstep, rfl, hnotice⟩
  | list _ urls hbatch hurls =>
    have hfor : ∃ v ∈ Batch.flightsFor number task.round urls, v.notice? = some message := by
      rcases mem_notices.mp hm with htells | ⟨v, hv, hnotice⟩
      · exact notice_of_ofFlights (tells_withBatch hnext ▸ htells)
      · rw [flights_withBatch hnext] at hv
        rcases flights_ofFlights (Batch.flightsFor number task.round urls) with hsame | hnone
        · exact ⟨v, hsame ▸ hv, hnotice⟩
        · rw [hnone] at hv
          cases hv
    obtain ⟨v, hv, hnotice⟩ := hfor
    rw [notice?_flightsFor hv] at hnotice
    cases hnotice
  | tell _ first more hbatch =>
    have htells : message ∈ more := by
      have hflights : next.flights = [] := by
        rw [flights_withBatch hnext]
        unfold Batch.toShow
        split <;> rfl
      rcases mem_notices.mp hm with htells | ⟨v, hv, _⟩
      · rw [tells_withBatch hnext, tells_toShow] at htells
        exact htells
      · rw [hflights] at hv
        cases hv
    refine Or.inl (mem_notices.mpr (Or.inl ?_))
    cases task with
    | batch | follow => simp [tells, hbatch, Batch.tells, htells]
    | _ => cases hbatch
  | forget url => cases hnext; cases hm
  | showFailure | store | clear | apply | spawnBatch => cases hnext
  | quiet _ _ _ _ _ _ _ hquiet =>
    obtain ⟨_, hflights, htells, _⟩ := hquiet next hnext
    rw [notices, hflights, htells] at hm
    cases hm

/-- A step shows what the task was bound to show. -/
theorem Turns.shown_cases {shared : Shared} {number k : Nat} {task : Task} {turn : Turn}
    {message : String} (h : Turns shared number task turn) (hm : .shown k message ∈ turn.events) :
    k = number ∧ message ∈ task.notices := by
  cases h with
  | flight _ place answer v v' events hplace hstep =>
    have horigin := (Validation.goes hstep).2.2.origin?_eq _ hm
    cases horigin
  | tell _ first more hbatch =>
    cases List.mem_singleton.mp hm
    refine ⟨rfl, mem_notices.mpr (Or.inl ?_)⟩
    cases task with
    | batch | follow => simp [tells, hbatch, Batch.tells]
    | _ => cases hbatch
  | showFailure first =>
    cases List.mem_singleton.mp hm
    exact ⟨rfl, List.mem_cons_self⟩
  | quiet _ _ _ _ _ _ _ _ _ hevents => exact absurd (hevents _ hm) id
  | clear => cases List.mem_singleton.mp hm
  | list | store | forget | apply | spawnBatch => cases hm

theorem notices_push (path : Path) (task : Task) :
    (Server.push path task).notices = task.notices := by
  cases task with
  | follow loop =>
    obtain ⟨queue, stage, round⟩ := loop
    cases stage <;> rfl
  | _ => rfl

theorem notices_ofRequest (number : Nat) (request : Request) :
    (ofRequest number request).notices = [] := by
  cases request with
  | changeDocument url texts version =>
    simp only [ofRequest]
    cases texts.getLast? <;> rfl
  | _ => rfl

theorem notices_ofSpawn (number : Nat) (spawn : Spawn) : (ofSpawn number spawn).notices = [] := by
  cases spawn <;> rfl

/-! ## Tasks with one validation -/

/-- A task that validates one document and shows what it failed with. -/
def IsSingle : Task → Prop
  | .single _ | .showFailure _ => True
  | _ => False

theorem isSingle_withBatch {task next : Task} {b : Batch} {b? : Option Batch}
    (hb : task.batch? = some b) (h : task.withBatch b? = .inl next) :
    next.IsSingle ↔ task.IsSingle := by
  cases task with
  | batch | follow => cases b? <;> cases h <;> rfl
  | _ => cases hb

/-- A task stays what it is. -/
theorem Turns.isSingle {shared : Shared} {number : Nat} {task next : Task} {turn : Turn}
    (h : Turns shared number task turn) (hnext : turn.next = .inl next) :
    next.IsSingle ↔ task.IsSingle := by
  cases h with
  | flight _ place answer v v' events hplace hstep =>
    cases task with
    | validate w =>
      simp only [resume, afterValidate] at hnext
      split at hnext <;> cases hnext
      rfl
    | single w =>
      simp only [resume, afterSingle] at hnext
      split at hnext <;> cases hnext <;> rfl
    | batch b => exact isSingle_withBatch rfl hnext
    | follow loop =>
      obtain ⟨queue, stage, round⟩ := loop
      cases stage with
      | validating b => exact isSingle_withBatch rfl hnext
      | _ => cases hplace
    | _ => cases hplace
  | list _ urls hb | tell _ _ _ hb => exact isSingle_withBatch hb hnext
  | forget url => cases hnext; rfl
  | showFailure | store | clear | apply | spawnBatch => cases hnext
  | quiet _ _ _ _ _ _ hkind hquiet =>
    obtain ⟨hservice, _⟩ := hquiet next hnext
    have hnot : ∀ {task : Task}, task.IsService → ¬ task.IsSingle := by
      intro task hs
      cases task with
      | handshake | announce | follow => exact id
      | _ => exact absurd hs id
    rcases hkind with hs | ⟨_, hdone, _⟩
    · exact iff_of_false (hnot hservice) (hnot hs)
    · rw [hdone] at hnext
      cases hnext

theorem isSingle_push (path : Path) (task : Task) :
    (Server.push path task).IsSingle ↔ task.IsSingle := by
  cases task <;> rfl

end Task

namespace Server

namespace Run
variable {start : Server} (e : Run start)

/-- In tick `t` the validation `v` goes on to `stage`, and the step writes `events`. -/
def Moves (t : Nat) (v : Validation) (stage : Stage) (events : List Event) : Prop :=
  ∃ n task place, (∃ at? answer, e.move t = some (.advance n at? answer)) ∧
    (e.state t).task? n = some task ∧ task.flights[place]? = some v ∧ task.Lets v ∧
    Stage.Goes (e.state t).shared v.origin v.url v.stage stage events ∧
    e.state (t + 1) = (e.state t).after n
      ⟨(e.state t).shared, task.resume (task.flights.set place { v with stage }), none, events⟩

/-- In tick `t` the validation of `origin` makes its last step, and this is what it
failed with, if it failed. -/
def Returns (t : Nat) (origin : Origin) (url : Url) (failure : Option EngineError) : Prop :=
  ∃ stage events, e.Moves t ⟨origin, url, stage⟩ (.ended failure) events

/-- Before tick `t` a validation of task `n` has returned a failure of which `message`
is what the user is told. -/
def Failed (t n : Nat) (message : String) : Prop :=
  ∃ u < t, ∃ origin url error, origin.task = n ∧ e.Returns u origin url (some error) ∧
    message = error.notice url

variable {e}

theorem Failed.succ {t n : Nat} {message : String} (h : e.Failed t n message) :
    e.Failed (t + 1) n message := by
  obtain ⟨u, hu, hrest⟩ := h
  exact ⟨u, Nat.lt_succ_of_lt hu, hrest⟩

theorem moves_of_turn {t n at? place : Nat} {answer answer' : Answer} {task : Task}
    {turn : Task.Turn} {v v' : Validation} (hmove : e.move t = some (.advance n at? answer))
    (htask : (e.state t).task? n = some task) (hafter : e.state (t + 1) = (e.state t).after n turn)
    (hplace : task.flights[place]? = some v) (hlets : task.Lets v)
    (hstep : v.step (e.state t).shared answer' = some (v', turn.events))
    (hturn : turn =
      ⟨(e.state t).shared, task.resume (task.flights.set place v'), none, turn.events⟩) :
    e.Moves t v v'.stage turn.events := by
  obtain ⟨horigin, hurl, hgoes⟩ := Validation.goes hstep
  have hv' : v' = { v with stage := v'.stage } := by
    obtain ⟨_, _, _⟩ := v'
    cases horigin
    cases hurl
    rfl
  rw [hv'] at hturn
  exact ⟨n, task, place, ⟨at?, answer, hmove⟩, htask, hplace, hlets, hgoes,
    hafter.trans (hturn ▸ rfl)⟩

/-! ## Steps of one validation -/

theorem Moves.goes {t : Nat} {v : Validation} {stage : Stage} {events : List Event}
    (h : e.Moves t v stage events) :
    Stage.Goes (e.state t).shared v.origin v.url v.stage stage events := by
  obtain ⟨_, _, _, _, _, _, _, hgoes, _⟩ := h
  exact hgoes

variable {config : Config} {e : Run (.initial config)}

theorem Moves.live {t : Nat} {v : Validation} {stage : Stage} {events : List Event}
    (h : e.Moves t v stage events) : (e.state t).Live v.origin.task v := by
  obtain ⟨n, task, place, _, htask, hplace, _⟩ := h
  rw [(e.kept t).placed (mem_of_task? htask) hplace]
  exact ⟨task, mem_of_task? htask, List.mem_of_getElem? hplace⟩

theorem Moves.history {t : Nat} {v : Validation} {stage : Stage} {events : List Event}
    (h : e.Moves t v stage events) :
    (e.state (t + 1)).history v.origin = events.reverse ++ (e.state t).history v.origin := by
  obtain ⟨n, task, place, _, _, _, _, hgoes, hafter⟩ := h
  exact history_own (hafter ▸ journal_after (e.state t) n _) hgoes.origin?_eq

/-- What is written about a validation is written in a step of its own. -/
theorem moves_of_written {t : Nat} {event : Event} {origin : Origin} (h : event ∈ e.written t)
    (horigin : event.origin? = some origin) :
    ∃ v stage events, e.Moves t v stage events ∧ v.origin = origin ∧ event ∈ events := by
  obtain ⟨n, at?, answer, task, turn, hmove, htask, hturn, hafter, hentry⟩ := e.written_cases h
  have hturns := Task.turns_of_step hturn
  have hevent : event ∈ turn.events := by
    rcases mem_entries_cases hentry with hmem | ⟨_, _, rfl⟩
    · exact hmem
    · cases horigin
  obtain ⟨_, _, w, _, hw, _, _⟩ := hturns.origin_cases hevent horigin
  obtain ⟨place, answer', v, v', events, hplace, hlets, hstep, rfl⟩ :=
    hturns.flight_of_ne (List.ne_nil_of_mem (List.mem_of_getElem? hw))
  have hown := (Validation.goes hstep).2.2.origin?_eq event hevent
  exact ⟨v, v'.stage, events, moves_of_turn hmove htask hafter hplace hlets hstep rfl,
    Option.some.inj (hown.symm.trans horigin), hevent⟩

/-! ## What is shown -/

theorem isSingle_succ {t n : Nat} {task next : Task} (h : (n, task) ∈ (e.state t).tasks)
    (hnext : (n, next) ∈ (e.state (t + 1)).tasks) : next.IsSingle ↔ task.IsSingle := by
  have hsame {old : Task} (hold : (n, old) ∈ (e.state t).tasks) : old = task :=
    (e.numbered t).unique hold ((e.numbered t).task?_eq h)
  rcases e.task_succ hnext with ⟨old, hold, rfl | ⟨path, rfl⟩⟩ |
    ⟨at?, answer, old, turn, hmove, hold, hturn, hafter, hgo⟩ | ⟨hfresh, _⟩
  · rw [hsame hold]
  · rw [hsame hold, Task.isSingle_push]
  · rw [← hsame (mem_of_task? hold)]
    exact (Task.turns_of_step hturn).isSingle hgo
  · exact absurd hfresh (Nat.ne_of_lt ((e.numbered t).given _ h))

/-- A number stands for tasks of one kind throughout. -/
theorem isSingle_mono {t u n : Nat} {task next : Task} (htu : t ≤ u)
    (h : (n, task) ∈ (e.state t).tasks) (hnext : (n, next) ∈ (e.state u).tasks) :
    next.IsSingle ↔ task.IsSingle := by
  induction htu generalizing next with
  | refl => rw [(e.numbered t).unique hnext ((e.numbered t).task?_eq h)]
  | step htu ih =>
    rcases e.number_succ hnext with ⟨old, hold⟩ | hfresh
    · exact (isSingle_succ hold hnext).trans (ih hold)
    · have hgiven := Nat.lt_of_lt_of_le ((e.numbered t).given _ h) (e.fresh_mono htu)
      exact absurd hfresh (Nat.ne_of_lt hgiven)

/-- A task that is single at some time has one validation throughout. -/
theorem origin_of_single {a t n : Nat} {task : Task} {v : Validation} {stage : Stage}
    {events : List Event} (htask : (n, task) ∈ (e.state a).tasks) (hsingle : task.IsSingle)
    (hmoves : e.Moves t v stage events) (hn : v.origin.task = n) : v.origin = ⟨n, 0, 0⟩ := by
  obtain ⟨k, task', place, _, htask', hplace, _⟩ := hmoves
  have horigin := (e.kept t).placed (mem_of_task? htask') hplace
  rw [horigin] at hn ⊢
  cases hn
  have hsingle' : task'.IsSingle := by
    rcases Nat.le_total a t with hat | hta
    · exact (isSingle_mono hat htask (mem_of_task? htask')).mpr hsingle
    · exact (isSingle_mono hta (mem_of_task? htask') htask).mp hsingle
  cases task' with
  | single w =>
    cases place with
    | zero => rfl
    | succ place => cases hplace
  | showFailure message => cases hplace
  | _ => exact absurd hsingle' id

/-- What a task is bound to show was returned by one of its validations. -/
theorem failed_of_notices {t n : Nat} {task : Task} {message : String}
    (htask : (n, task) ∈ (e.state t).tasks) (hm : message ∈ task.notices) :
    e.Failed t n message := by
  induction t generalizing task with
  | zero =>
    rw [e.initial_state] at htask
    cases htask
  | succ t ih =>
    rcases e.task_succ htask with ⟨old, hold, rfl | ⟨path, rfl⟩⟩ |
      ⟨at?, answer, old, turn, hmove, hold, hturn, hafter, hnext⟩ |
      ⟨_, ⟨request, _, rfl⟩ | ⟨spawn, rfl⟩⟩
    · exact (ih hold hm).succ
    · rw [Task.notices_push] at hm
      exact (ih hold hm).succ
    · rcases (Task.turns_of_step hturn).notices_cases hnext hm with hbefore |
        ⟨place, answer', v, v', hplace, hlets, hstep, heq, hnotice⟩
      · exact (ih (mem_of_task? hold) hbefore).succ
      · obtain ⟨error, hended, hmessage⟩ := Validation.notice?_eq_some.mp hnotice
        obtain ⟨_, hurl, _⟩ := Validation.goes hstep
        have hmoves := moves_of_turn hmove hold hafter hplace hlets hstep heq
        rw [hended] at hmoves
        refine ⟨t, Nat.lt_succ_self t, v.origin, v.url, error, ?_, ⟨v.stage, _, hmoves⟩, ?_⟩
        · rw [(e.kept t).placed (mem_of_task? hold) hplace]
        · rw [← hurl, hmessage]
    · rw [Task.notices_ofRequest] at hm
      cases hm
    · rw [Task.notices_ofSpawn] at hm
      cases hm

/-- **A failure that is shown was returned**, before, by a validation of the task that
shows it. -/
theorem shown_source {t n : Nat} {message : String} (h : .shown n message ∈ e.written t) :
    e.Failed t n message := by
  obtain ⟨k, at?, answer, task, turn, _, htask, hturn, _, hentry⟩ := e.written_cases h
  have hevent : .shown n message ∈ turn.events := by
    rcases mem_entries_cases hentry with hmem | ⟨_, _, heq⟩
    · exact hmem
    · cases heq
  obtain ⟨rfl, hm⟩ := (Task.turns_of_step hturn).shown_cases hevent
  exact failed_of_notices (mem_of_task? htask) hm

end Run

end Server

end LintServer
