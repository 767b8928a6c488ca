import LintServer.Proofs.Server.History

/-! # Where published diagnostics come from

Validations of the same and of different documents run side by side, while texts
and settings change under them.  Still every set of diagnostics that reaches the
editor has one source (`Run.publish_provenance`): the task that clears a closed
document, or one validation, which read its text and then its settings while they
were in force, called the engine at most once and publishes what that call said.

What a validation holds at a stage was in force at some tick (`Run.ReadBy`); this
is carried along every run.  That nothing else is known of the validation, no
second call and no second publication, is read off its history (`Server.Kept`).
-/
namespace LintServer.Server.Run
variable {start : Server} (e : Run start)

/-! ## What a validation holds was in force when it was read -/

/-- The parts of a snapshot of `url` were in force at ticks up to `t`: the engine
first, then the text, and no earlier than the text the settings. -/
def Sourced (t : Nat) (url : Url) (snapshot : Snapshot) : Prop :=
  ∃ h i j, h ≤ i ∧ i ≤ j ∧ j ≤ t ∧
    (e.state h).shared.phase.engine? = some snapshot.engine ∧
    (∃ document, (e.state i).shared.documents.get? url = some document ∧
      document.text = snapshot.text) ∧
    (e.state j).shared.settings = snapshot.settings

/-- What a validation of `url` holds at a stage was in force at ticks up to `t`. -/
def ReadBy (t : Nat) (url : Url) : Stage → Prop
  | .findEngine | .ended _ => True
  | .readText engine => ∃ h, h ≤ t ∧ (e.state h).shared.phase.engine? = some engine
  | .readSettings engine text =>
    ∃ h i, h ≤ i ∧ i ≤ t ∧ (e.state h).shared.phase.engine? = some engine ∧
      ∃ document, (e.state i).shared.documents.get? url = some document ∧ document.text = text
  | .callEngine snapshot | .awaitReport snapshot | .compareSettings snapshot _
  | .publish snapshot _ => e.Sourced t url snapshot

variable {e}

theorem Sourced.mono {t u : Nat} (htu : t ≤ u) {url : Url} {snapshot : Snapshot}
    (h : e.Sourced t url snapshot) : e.Sourced u url snapshot := by
  obtain ⟨h, i, j, hhi, hij, hjt, hrest⟩ := h
  exact ⟨h, i, j, hhi, hij, Nat.le_trans hjt htu, hrest⟩

theorem ReadBy.mono {t u : Nat} (htu : t ≤ u) {url : Url} {stage : Stage}
    (h : e.ReadBy t url stage) : e.ReadBy u url stage := by
  cases stage with
  | findEngine | ended => trivial
  | readText engine =>
    obtain ⟨h, ht, hengine⟩ := h
    exact ⟨h, Nat.le_trans ht htu, hengine⟩
  | readSettings engine text =>
    obtain ⟨h, i, hhi, hit, hrest⟩ := h
    exact ⟨h, i, hhi, Nat.le_trans hit htu, hrest⟩
  | callEngine | awaitReport | compareSettings | publish => exact Sourced.mono htu h

/-- A step reads what is in force in its tick. -/
theorem ReadBy.goes {t : Nat} {origin : Origin} {url : Url} {stage stage' : Stage}
    {events : List Event} (h : e.ReadBy t url stage)
    (hgoes : Stage.Goes (e.state t).shared origin url stage stage' events) :
    e.ReadBy t url stage' := by
  cases hgoes with
  | noEngine | noText | refused | dropped | published => trivial
  | engine engine hengine => exact ⟨t, Nat.le_refl t, hengine⟩
  | text engine document hdocument =>
    obtain ⟨h, ht, hengine⟩ := h
    exact ⟨h, t, ht, Nat.le_refl t, hengine, document, hdocument, rfl⟩
  | settings engine text =>
    obtain ⟨h, i, hhi, hit, hengine, hdocument⟩ := h
    have hsourced : e.Sourced t url ⟨engine, text, (e.state t).shared.settings⟩ :=
      ⟨h, i, t, hhi, hit, Nat.le_refl t, hengine, hdocument, rfl⟩
    unfold Stage.afterReading
    split <;> exact hsourced
  | taken snapshot | confirmed snapshot finding => exact h
  | answered snapshot result =>
    cases result with
    | ok value => exact h
    | error error =>
      simp only [Finding.ofResult, Stage.afterAnswer]
      split
      · trivial
      · exact h

/-- **What a validation holds was in force when it was read**, in every run that
starts without validations. -/
theorem readBy_live (hstart : ∀ n v, ¬ start.Live n v) {t n : Nat} {v : Validation}
    (hv : (e.state t).Live n v) : e.ReadBy t v.url v.stage := by
  induction t generalizing n v with
  | zero => rw [e.initial_state] at hv; exact absurd hv (hstart n v)
  | succ t ih =>
    rcases e.live_succ hv with hold | hnew | ⟨stage, events, hold, hgoes⟩
    · exact (ih hold).mono (Nat.le_succ t)
    · rw [hnew]; trivial
    · exact ((ih hold).goes hgoes).mono (Nat.le_succ t)

/-! ## Who closes a document -/

theorem closing_of_withBatch {task next : Task} {b? : Option Batch} {url : Url}
    (h : task.withBatch b? = .inl next) : next ≠ .forget url ∧ next ≠ .clear url := by
  cases b? with
  | none => cases task <;> cases h; simp
  | some b => cases task <;> cases h <;> simp

theorem closing_of_resume {task next : Task} {flights : List Validation} {url : Url}
    (h : task.resume flights = .inl next) : next ≠ .forget url ∧ next ≠ .clear url := by
  have hbatch (h : task.withBatch (Batch.ofFlights flights) = .inl next) :
      next ≠ .forget url ∧ next ≠ .clear url := closing_of_withBatch h
  cases task with
  | validate v =>
    simp only [Task.resume, Task.afterValidate] at h
    split at h <;> cases h
    simp
  | single v =>
    simp only [Task.resume, Task.afterSingle] at h
    split at h <;> cases h <;> simp
  | _ => exact hbatch h

/-- A task goes on to clear a document only after it has forgotten it. -/
theorem closing_of_turns {shared : Shared} {number : Nat} {task next : Task} {turn : Task.Turn}
    {url : Url} (h : Task.Turns shared number task turn) (hnext : turn.next = .inl next)
    (hclosing : next = .forget url ∨ next = .clear url) : task = .forget url := by
  have hno (hne : next ≠ .forget url ∧ next ≠ .clear url) : task = .forget url :=
    absurd hclosing fun h => h.elim hne.1 hne.2
  cases h with
  | flight => exact hno (closing_of_resume hnext)
  | list | tell => exact hno (closing_of_withBatch hnext)
  | forget url' =>
    cases hnext
    rcases hclosing with h | h <;> cases h
    rfl
  | showFailure | store | clear | apply | spawnBatch => cases hnext
  | quiet _ _ hsettings hdocuments hphase htask hkind hquiet =>
    have hservice := (hquiet next hnext).1
    rcases hclosing with rfl | rfl <;> exact absurd hservice id

/-- A task that closes a document was started by a request to close it. -/
theorem closing_requested (hstart : start.tasks = []) {t n : Nat} {task : Task} {url : Url}
    (hmem : (n, task) ∈ (e.state t).tasks) (htask : task = .forget url ∨ task = .clear url) :
    ∃ r, r < t ∧ e.move r = some (.arrive (.closeDocument url)) ∧ (e.state r).fresh = n := by
  induction t generalizing task with
  | zero => rw [e.initial_state, hstart] at hmem; cases hmem
  | succ t ih =>
    have hearlier {old : Task} (hmem : (n, old) ∈ (e.state t).tasks)
        (hold : old = .forget url ∨ old = .clear url) :
        ∃ r, r < t + 1 ∧ e.move r = some (.arrive (.closeDocument url)) ∧
          (e.state r).fresh = n := by
      obtain ⟨r, hr, hrest⟩ := ih hmem hold
      exact ⟨r, Nat.lt_succ_of_lt hr, hrest⟩
    rcases e.next t with hidle | ⟨m, hm, hstep⟩
    · rw [hidle] at hmem
      exact hearlier hmem htask
    · cases m with
      | arrive request =>
        rw [step_arrive hstep] at hmem
        rcases mem_add.mp hmem with hold | ⟨rfl, rfl⟩
        · exact hearlier hold htask
        · cases request with
          | closeDocument u =>
            have hu : u = url := by rcases htask with h | h <;> cases h; rfl
            exact ⟨t, Nat.lt_succ_self t, hu ▸ hm, rfl⟩
          | changeDocument u texts version =>
            simp only [Task.ofRequest] at htask
            cases htext : texts.getLast? <;> rw [htext] at htask <;> simp at htask
          | _ => simp [Task.ofRequest] at htask
      | advance k place answer =>
        obtain ⟨old, turn, hold, hturn, hafter⟩ := step_advance hstep
        rw [hafter] at hmem
        rcases (mem_after hold).mp hmem with ⟨hother, _⟩ | ⟨rfl, hnext⟩ | ⟨spawn, _, rfl, rfl⟩
        · exact hearlier hother htask
        · have hforget := closing_of_turns (Task.turns_of_step hturn) hnext htask
          exact hearlier (mem_of_task? hold) (Or.inl hforget)
        · cases spawn <;> simp [Task.ofSpawn] at htask
      | fileChanged changed =>
        rw [step_fileChanged hstep] at hmem
        obtain ⟨old, hold, rfl | ⟨path, rfl⟩⟩ := mem_deliver hmem
        · exact hearlier hold htask
        · refine hearlier hold ?_
          cases old <;> simp_all [push]
      | abandon k =>
        rw [step_abandon hstep] at hmem
        exact hearlier (mem_remove.mp hmem).1 htask

/-! ## The source of a publication -/

/-- **Nothing is published that the engine did not say, and nothing twice.**  A set
of diagnostics comes from a task that a request to close the document started, and
is empty; or it comes from one validation.  That one read a text of the document
and, no earlier, settings with their generation, switch and options, all of them
in force.  With validation on, it called the engine once, with that text and those
options, and what it publishes is what that very call reported, or nothing if the
call failed; with validation off, it called no engine and publishes nothing.  From
then on nothing more is ever known of it: no second call, no second publication. -/
theorem publish_provenance {config : Config} (e : Run (.initial config)) {t : Nat}
    {sender : Option Origin} {url : Url} {ds : List Diagnostic}
    (h : .published sender url ds ∈ e.written t) :
    (sender = none ∧ ds = [] ∧ ∃ n r, (e.state t).task? n = some (.clear url) ∧
      r < t ∧ e.move r = some (.arrive (.closeDocument url)) ∧ (e.state r).fresh = n) ∨
    ∃ origin snapshot, sender = some origin ∧ e.Sourced t url snapshot ∧
      ((snapshot.settings.enabled = true ∧ ∃ value,
          ds = translate (some value) snapshot.engine.name ∧
          ∀ u, t < u → (e.state u).history origin =
            [.published (some origin) url ds, .answered origin (.report value),
              .called origin snapshot.engine snapshot.text snapshot.settings.options,
              .took origin url snapshot]) ∨
        (snapshot.settings.enabled = true ∧ ∃ error, error.isRaised = false ∧ ds = [] ∧
          ∀ u, t < u → (e.state u).history origin =
            [.published (some origin) url ds, .answered origin (.failure error),
              .called origin snapshot.engine snapshot.text snapshot.settings.options,
              .took origin url snapshot]) ∨
        (snapshot.settings.enabled = false ∧ ds = [] ∧
          ∀ u, t < u → (e.state u).history origin =
            [.published (some origin) url ds, .took origin url snapshot])) := by
  obtain ⟨n, turn, _, _,
      ⟨hclear, rfl, rfl⟩ | ⟨origin, snapshot, finding, hlive, rfl, hds⟩⟩ :=
    e.published_cases h
  · obtain ⟨r, hr⟩ := closing_requested rfl (mem_of_task? hclear) (Or.inr rfl)
    exact Or.inl ⟨rfl, rfl, n, r, hclear, hr⟩
  · have hread := readBy_live (fun _ _ => live_initial config) hlive
    have hrecorded := (e.kept t).live hlive
    refine Or.inr ⟨origin, snapshot, rfl, hread, ?_⟩
    -- what was known before the publication is what the last stage asks for
    have hhistory (u : Nat) (htu : t < u) := e.history_of_published h htu
    cases hrecorded with
    | publish _ _ entries hfound =>
      generalize (e.state t).history origin = entries at hfound hhistory
      cases hfound with
      | disabled hoff => exact Or.inr (Or.inr ⟨hoff, hds, hhistory⟩)
      | report value hon => exact Or.inl ⟨hon, value, hds, hhistory⟩
      | failure error hon hraised => exact Or.inr (Or.inl ⟨hon, error, hraised, hds, hhistory⟩)

/-- A document is opened and linted, and its one problem is published in the last
of these moves: the text and the settings it was found with were in force. -/
theorem publish_provenance_sample :
    let e := ofMoves (.initial .default)
      (Sample.linted ++ [.advance 2 0 .proceed, .advance 2 0 .proceed]) rfl
    let ds := translate (some Sample.problem) "standard"
    .published (some ⟨2, 0, 0⟩) Sample.page ds ∈ e.written 14 ∧ ds ≠ [] ∧
      ∃ snapshot, e.Sourced 14 Sample.page snapshot ∧ snapshot.settings.enabled = true := by
  intro e ds
  have hpublished : .published (some ⟨2, 0, 0⟩) Sample.page ds ∈ e.written 14 :=
    List.mem_cons_of_mem _ List.mem_cons_self
  have hds : ds ≠ [] := by decide
  refine ⟨hpublished, hds, ?_⟩
  rcases e.publish_provenance hpublished with ⟨hnone, _⟩ | ⟨_, snapshot, _, hsourced, hcases⟩
  · cases hnone
  · rcases hcases with ⟨hon, _⟩ | ⟨_, _, _, hnil, _⟩ | ⟨_, hnil, _⟩
    · exact ⟨snapshot, hsourced, hon⟩
    · exact absurd hnil hds
    · exact absurd hnil hds

end LintServer.Server.Run
