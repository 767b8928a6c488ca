import LintServer.Proofs.Server.Batches
import LintServer.Proofs.Server.Failures
import LintServer.Proofs.Server.Staleness

/-! # Superseded validations

New settings supersede a validation whose lint call has not ended: whatever the call
leads to is found under the old ones.  Such a validation publishes nothing.  What it
returns depends on its finding: a failure by which the engine never took the text
(`Finding.raised?`) is returned before the settings are looked at a second time, like
a refusal, and everything else is dropped (`superseded_silent`).

A validation that is to be dropped need not wait for anything (`Server.CanMove`).  In a
batch what follows a call waits until all calls have been made; but this one's call has
ended, so all have been made, and this stays so (`Server.Cleared`).
-/
namespace LintServer

/-- The failure of a finding, if the engine never took the text. -/
def Finding.raised? : Finding → Option EngineError
  | .failure e => if e.isRaised then some e else none
  | _ => none

namespace Stage

theorem afterAnswer_of_raised {snapshot : Snapshot} {finding : Finding} {error : EngineError}
    (h : finding.raised? = some error) : afterAnswer snapshot finding = .ended (some error) := by
  cases finding with
  | failure e =>
    simp only [Finding.raised?] at h
    split at h <;> cases h
    exact if_pos ‹_›
  | _ => cases h

theorem afterAnswer_of_not_raised {snapshot : Snapshot} {finding : Finding}
    (h : finding.raised? = none) :
    afterAnswer snapshot finding = .compareSettings snapshot finding := by
  cases finding with
  | failure e =>
    simp only [Finding.raised?] at h
    split at h
    · cases h
    · exact if_neg ‹_›
  | _ => rfl

variable {origin : Origin} {url : Url} {stage : Stage} {entries : List Event} {snapshot : Snapshot}
  {finding : Finding}

/-- What a validation has found after its lint call is in its history, and the engine
took the text. -/
theorem found_of_answered {snapshot' : Snapshot} {finding' : Finding}
    (h : snapshot'.Found origin url finding' entries) (hmem : .answered origin finding ∈ entries) :
    finding' = finding ∧ finding.raised? = none ∧ entries =
      [.answered origin finding, snapshot'.calledEvent origin, snapshot'.tookEvent origin url] := by
  cases h with
  | disabled h => simp [Snapshot.tookEvent] at hmem
  | report value h =>
    simp only [Snapshot.tookEvent, Snapshot.calledEvent, List.mem_cons, Event.answered.injEq,
      true_and, reduceCtorEq, List.not_mem_nil, or_false] at hmem
    subst hmem
    exact ⟨rfl, rfl, rfl⟩
  | failure error h hraised =>
    simp only [Snapshot.tookEvent, Snapshot.calledEvent, List.mem_cons, Event.answered.injEq,
      true_and, reduceCtorEq, List.not_mem_nil, or_false] at hmem
    subst hmem
    exact ⟨rfl, by simp [Finding.raised?, hraised], rfl⟩

theorem answered_of_found {result : Except EngineError Json}
    (h : snapshot.Found origin url (.ofResult result) entries) :
    .answered origin (.ofResult result) ∈ entries := by
  cases result <;> cases h <;> exact List.mem_cons_self

/-- Where a validation can stand whose lint call has ended. -/
theorem Recorded.after_answer (h : Recorded origin url stage entries)
    (hmem : .answered origin finding ∈ entries) :
    stage.isEnded = true ∨ ∃ snapshot, snapshot.Found origin url finding entries ∧
      (stage = .compareSettings snapshot finding ∨ stage = .publish snapshot finding) := by
  cases h with
  | findEngine | readText | readSettings => cases hmem
  | callEngine s | awaitReport s =>
    simp [Snapshot.tookEvent, Snapshot.calledEvent] at hmem
  | compareSettings s f _ hfound =>
    obtain ⟨rfl, _⟩ := found_of_answered hfound hmem
    exact Or.inr ⟨s, hfound, Or.inl rfl⟩
  | publish s f _ hfound =>
    obtain ⟨rfl, _⟩ := found_of_answered hfound hmem
    exact Or.inr ⟨s, hfound, Or.inr rfl⟩
  | skipped | dropped | concluded => exact Or.inl rfl

/-- A validation that fails writes what it failed with, or publishes. -/
theorem Goes.failure_event {shared : Shared} {events : List Event} {error : EngineError}
    (h : Goes shared origin url stage (.ended (some error)) events) :
    ∃ event ∈ events, event = .refused origin error ∨ (∃ f, event = .answered origin f) ∨
      ∃ ds, event = .published (some origin) url ds := by
  generalize hto : Stage.ended (some error) = stage' at h
  cases h with
  | refused s e => cases hto; exact ⟨_, List.mem_cons_of_mem _ List.mem_cons_self, Or.inl rfl⟩
  | answered s result => exact ⟨_, List.mem_cons_self, Or.inr (Or.inl ⟨_, rfl⟩)⟩
  | published s f => exact ⟨_, List.mem_cons_self, Or.inr (Or.inr ⟨_, rfl⟩)⟩
  | settings engine text =>
    unfold afterReading at hto
    split at hto <;> cases hto
  | _ => cases hto

theorem Goes.going {shared : Shared} {stage' : Stage} {events : List Event}
    (h : Goes shared origin url stage stage' events) : stage.isEnded = false := by
  cases h <;> rfl

/-- The step in which a lint call ends. -/
theorem Goes.of_answered {shared : Shared} {stage' : Stage} {events : List Event}
    (h : Goes shared origin url stage stage' events) (hmem : .answered origin finding ∈ events) :
    ∃ snapshot, stage = .awaitReport snapshot ∧ stage' = afterAnswer snapshot finding ∧
      events = [.answered origin finding] ∧ ∃ result, finding = .ofResult result := by
  cases h with
  | answered s result =>
    cases List.mem_singleton.mp hmem
    exact ⟨s, rfl, rfl, rfl, result, rfl⟩
  | _ => simp at hmem

/-- The step in which a validation reads the settings. -/
theorem Goes.of_took {shared : Shared} {stage' : Stage} {events : List Event} {url' : Url}
    (h : Goes shared origin url stage stage' events) (hmem : .took origin url' snapshot ∈ events) :
    url' = url ∧ snapshot.settings = shared.settings ∧ events = [snapshot.tookEvent origin url] ∧
      ∃ engine text, stage = .readSettings engine text := by
  cases h with
  | settings engine text =>
    cases List.mem_singleton.mp hmem
    exact ⟨rfl, rfl, rfl, engine, text, rfl⟩
  | _ => simp at hmem

end Stage

namespace Server

/-! ## Validations that wait for nothing -/

/-- Validation `v` can go on to `stage` at once: nobody has to answer, and nothing is
written. -/
def CanMove (s : Server) (v : Validation) (stage : Stage) : Prop :=
  ∃ task place, s.task? v.origin.task = some task ∧ task.flights[place]? = some v ∧
    s.step (.advance v.origin.task place .proceed) = some (s.after v.origin.task
      ⟨s.shared, task.resume (task.flights.set place { v with stage }), none, []⟩)

/-- Task `n` holds the validation `v`, and has made all its calls of the engine. -/
def Cleared (s : Server) (n : Nat) (v : Validation) : Prop :=
  ∃ task, (n, task) ∈ s.tasks ∧ v ∈ task.flights ∧ ∀ w ∈ task.flights, w.stage.isDispatched = true

/-- A validation of a task that has made all its calls need not wait for its turn. -/
theorem Cleared.canMove {s : Server} (hs : Numbered s) {v : Validation} {stage : Stage}
    (h : s.Cleared v.origin.task v)
    (hstep : v.step s.shared .proceed = some ({ v with stage }, [])) : s.CanMove v stage := by
  obtain ⟨task, hmem, hflight, hall⟩ := h
  obtain ⟨place, hplace⟩ := List.mem_iff_getElem?.mp hflight
  refine ⟨task, place, hs.task?_eq hmem, hplace, ?_⟩
  simp [step, hs.task?_eq hmem, Task.step_of_flight hplace hall hstep]

theorem dispatched_set {flights : List Validation} {place : Nat} {v' : Validation}
    (hall : ∀ w ∈ flights, w.stage.isDispatched = true) (hv' : v'.stage.isDispatched = true) :
    ∀ w ∈ flights.set place v', w.stage.isDispatched = true := by
  intro w hw
  rcases List.mem_or_eq_of_mem_set hw with hold | rfl
  · exact hall w hold
  · exact hv'

namespace Run

section Cleared
variable {config : Config} {e : Run (.initial config)} {t n : Nat} {v : Validation}

/-- A validation whose call has ended goes on only when its task has made all its calls. -/
theorem Moves.cleared {stage : Stage} {events : List Event} (h : e.Moves t v stage events)
    (hdispatched : v.stage.isDispatched = true) (hgoing : stage.isEnded = false) :
    (e.state (t + 1)).Cleared v.origin.task { v with stage } := by
  have hstage := (h.goes.isCompletion hdispatched).1
  obtain ⟨n, task, place, _, htask, hplace, hlets, _, hafter⟩ := h
  have hlt : place < task.flights.length := (List.getElem?_eq_some_iff.mp hplace).1
  have hmem : { v with stage } ∈ task.flights.set place { v with stage } :=
    List.mem_iff_getElem?.mpr ⟨place, List.getElem?_set_self hlt⟩
  obtain ⟨next, hresume, hholds⟩ := Task.resume_holds (List.length_set ..) hmem hgoing
  have hn : v.origin.task = n := by rw [(e.kept t).placed (mem_of_task? htask) hplace]
  rw [hn, hafter]
  refine ⟨next, (mem_after htask).mpr (Or.inr (Or.inl ⟨rfl, hresume⟩)), hholds ▸ hmem, ?_⟩
  rw [hholds]
  exact dispatched_set (hlets hdispatched) hstage

/-- A validation that has not ended moves, or is given up, or stays where it is, in a task
that has still made all its calls. -/
theorem cleared_or_moves (h : (e.state t).Cleared n v) (hgoing : v.stage.isEnded = false) :
    (e.state (t + 1)).Cleared n v ∨ (∃ stage events, e.Moves t v stage events) ∨
      e.move t = some (.abandon n) := by
  obtain ⟨task, hmem, hflight, hall⟩ := h
  rcases e.kept_succ hmem with ⟨at?, answer, hmove⟩ | habandon | ⟨next, hnext, hsame⟩
  · obtain ⟨task', turn, htask, hturn, hafter, _⟩ := e.advanced hmove
    cases (e.numbered t).unique hmem htask
    obtain ⟨place, answer', w, w', events, hplace, hlets, hstep, rfl⟩ :=
      (Task.turns_of_step hturn).flight_of_ne (List.ne_nil_of_mem hflight)
    obtain ⟨k, hk⟩ := List.mem_iff_getElem?.mp hflight
    by_cases hplaces : place = k
    · subst hplaces
      cases hplace.symm.trans hk
      exact Or.inr (Or.inl ⟨w'.stage, events,
        moves_of_turn hmove htask hafter hplace hlets hstep rfl⟩)
    · -- another validation of the task has moved, and the task holds on to this one
      have hstill : v ∈ task.flights.set place w' :=
        List.mem_iff_getElem?.mpr ⟨k, by rw [List.getElem?_set_ne hplaces, hk]⟩
      obtain ⟨next, hresume, hholds⟩ := Task.resume_holds (List.length_set ..) hstill hgoing
      have hw' : w'.stage.isDispatched = true :=
        ((Validation.goes hstep).2.2.isCompletion (hall w (List.mem_of_getElem? hplace))).1
      refine Or.inl ⟨next, ?_, hholds ▸ hstill, hholds ▸ dispatched_set hall hw'⟩
      rw [hafter]
      exact (mem_after htask).mpr (Or.inr (Or.inl ⟨rfl, hresume⟩))
  · exact Or.inr (Or.inr habandon)
  · refine Or.inl ⟨next, hnext, ?_⟩
    rcases hsame with rfl | ⟨path, rfl⟩
    · exact ⟨hflight, hall⟩
    · rw [(Task.flights_push path task).1]
      exact ⟨hflight, hall⟩

end Cleared

/-! ## Validations under old settings -/

theorem pushes_mono {start : Server} (e : Run start) (c : Nat) {d d' : Nat} (h : d ≤ d') :
    e.pushes c d ≤ e.pushes c d' := by
  induction h with
  | refl => exact Nat.le_refl _
  | step _ ih => exact Nat.le_trans ih (Nat.le_add_right _ _)

/-- **A validation is superseded.**  It took `snapshot` in tick `j`, its lint call ended in
tick `t`, and new settings came into force in between; and up to tick `u` the count of
generations has not gone round. -/
structure Superseded {start : Server} (e : Run start) (j t u : Nat) (origin : Origin) (url : Url)
    (snapshot : Snapshot) (finding : Finding) : Prop where
  took : .took origin url snapshot ∈ e.written j
  answered : .answered origin finding ∈ e.written t
  pushed : 0 < e.pushes j (t - j)
  few : e.pushes j (u - j) < UInt64.size

namespace Superseded
variable {config : Config} {e : Run (.initial config)} {j t u : Nat} {origin : Origin} {url : Url}
  {snapshot : Snapshot} {finding : Finding} (h : e.Superseded j t u origin url snapshot finding)
include h

theorem took_first : (e.state j).history origin = [] ∧
    (e.state (j + 1)).history origin = [snapshot.tookEvent origin url] ∧
    snapshot.settings = (e.state j).shared.settings := by
  obtain ⟨v, stage, events, hmoves, rfl, hevent⟩ := moves_of_written h.took rfl
  have hrecorded := (e.kept j).live hmoves.live
  have hhistory := hmoves.history
  obtain ⟨rfl, hsettings, rfl, engine, text, hstage⟩ := hmoves.goes.of_took hevent
  rw [hstage] at hrecorded
  generalize (e.state j).history v.origin = before at hrecorded hhistory
  cases hrecorded
  exact ⟨rfl, hhistory, hsettings⟩

/-- The lint call ends after the snapshot was taken, and it was made with that
snapshot. -/
theorem call_ends : j < t ∧
    (e.state t).history origin = [snapshot.calledEvent origin, snapshot.tookEvent origin url] ∧
    e.Moves t ⟨origin, url, .awaitReport snapshot⟩ (.afterAnswer snapshot finding)
      [.answered origin finding] ∧ ∃ result, finding = .ofResult result := by
  obtain ⟨hbefore, hafter, _⟩ := h.took_first
  obtain ⟨v, stage, events, hmoves, hv, hevent⟩ := moves_of_written h.answered rfl
  have hrecorded := (e.kept t).live hmoves.live
  obtain ⟨o, url', stage'⟩ := v
  cases hv
  obtain ⟨s, rfl, rfl, rfl, hresult⟩ := hmoves.goes.of_answered hevent
  have hhistory : (e.state t).history o = [s.calledEvent o, s.tookEvent o url'] := by
    generalize (e.state t).history o = entries at hrecorded
    cases hrecorded
    rfl
  -- the entries are those of a validation that has read before
  have hjt : j < t := by
    rcases Nat.lt_or_ge j t with hlt | hge
    · exact hlt
    · obtain ⟨later, hlater⟩ := e.history_mono hge o
      rw [hbefore, hhistory] at hlater
      simp at hlater
  obtain ⟨later, hlater⟩ := e.history_mono (Nat.succ_le_of_lt hjt) o
  rw [hafter, hhistory] at hlater
  have htook : s.tookEvent o url' = snapshot.tookEvent o url := by
    simpa using congrArg List.getLast? hlater
  cases htook
  exact ⟨hjt, hhistory, hmoves, hresult⟩

/-- Before its lint call ends, nothing but the snapshot and the call is known of the
validation. -/
theorem history_before {w : Nat} (hwt : w ≤ t) {event : Event}
    (hevent : event ∈ (e.state w).history origin) :
    event = snapshot.calledEvent origin ∨ event = snapshot.tookEvent origin url := by
  obtain ⟨_, hhistory, _⟩ := h.call_ends
  obtain ⟨later, hlater⟩ := e.history_mono hwt origin
  have hmem : event ∈ (e.state t).history origin := by
    rw [hlater]
    exact List.mem_append_right _ hevent
  simpa [hhistory] using hmem

theorem history_after {w : Nat} (htw : t < w) : ∃ later, (e.state w).history origin =
    later ++ [.answered origin finding, snapshot.calledEvent origin,
      snapshot.tookEvent origin url] := by
  obtain ⟨_, hhistory, hmoves, _⟩ := h.call_ends
  obtain ⟨later, hlater⟩ := e.history_mono (Nat.succ_le_of_lt htw) origin
  have hnext := hmoves.history
  rw [hhistory] at hnext
  exact ⟨later, hlater.trans (congrArg (later ++ ·) hnext)⟩

/-- Where the validation can stand after its lint call. -/
theorem live_after {w n : Nat} {url' : Url} {stage : Stage} (htw : t < w)
    (hlive : (e.state w).Live n ⟨origin, url', stage⟩) :
    stage.isEnded = true ∨ url' = url ∧ finding.raised? = none ∧
      (stage = .compareSettings snapshot finding ∨ stage = .publish snapshot finding) := by
  obtain ⟨later, hlater⟩ := h.history_after htw
  have hrecorded := (e.kept w).live hlive
  have hmem : .answered origin finding ∈ (e.state w).history origin := by rw [hlater]; simp
  rcases hrecorded.after_answer hmem with hended | ⟨s, hfound, hstage⟩
  · exact Or.inl hended
  · obtain ⟨_, hraised, hentries⟩ := Stage.found_of_answered hfound hmem
    have htook : s.tookEvent origin url' = snapshot.tookEvent origin url := by
      simpa using congrArg List.getLast? (hentries.symm.trans hlater)
    cases htook
    exact Or.inr ⟨rfl, hraised, hstage⟩

/-- The settings are not those of the snapshot any more. -/
theorem generation_ne {w : Nat} (htw : t < w) (hwu : w ≤ u) :
    (e.state w).shared.settings.generation ≠ snapshot.settings.generation := by
  intro hsame
  obtain ⟨hjt, _⟩ := h.call_ends
  obtain ⟨k, rfl⟩ := Nat.exists_eq_add_of_lt (Nat.lt_trans hjt htw)
  rw [h.took_first.2.2] at hsame
  have hround := (e.generation_eq_iff j (k + 1)).mp hsame
  have hmore : e.pushes j (t - j) ≤ e.pushes j (k + 1) := e.pushes_mono j (by omega)
  have hfew : e.pushes j (k + 1) ≤ e.pushes j (u - j) := e.pushes_mono j (by omega)
  have hsize := Nat.le_of_dvd (Nat.lt_of_lt_of_le h.pushed hmore) hround
  exact Nat.not_lt.mpr (Nat.le_trans hsize hfew) h.few

/-- **It never comes to publish**: the look at the settings would have to find the
generation of the snapshot again. -/
theorem not_publishing {w n : Nat} {url' : Url} {s : Snapshot} {f : Finding} (htw : t < w)
    (hwu : w ≤ u + 1) : ¬ (e.state w).Live n ⟨origin, url', .publish s f⟩ := by
  intro hlive
  rcases h.live_after htw hlive with hended | ⟨_, _, hstage | hstage⟩
  · cases hended
  · cases hstage
  · cases hstage
    obtain ⟨c, d, hd, rfl, hlook, hsame⟩ := e.looked (fun _ _ => live_initial config) hlive rfl
    obtain ⟨_, _, _, result, rfl⟩ := h.call_ends
    -- the look comes after the lint call, for it knows of the answer
    have htc : t < c := by
      rcases Nat.lt_or_ge t c with hlt | hct
      · exact hlt
      · have hrecorded := (e.kept c).live hlook
        generalize hentries : (e.state c).history origin = entries at hrecorded
        cases hrecorded with
        | compareSettings _ _ _ hfound =>
          have hmem := Stage.answered_of_found hfound
          rcases h.history_before hct (hentries ▸ hmem) with heq | heq <;> cases heq
    exact h.generation_ne htc (by omega) hsame

/-- What the validation writes by the time its lint call ends. -/
theorem event_early {w : Nat} {v : Validation} {stage : Stage} {events : List Event} {event : Event}
    (hmoves : e.Moves w v stage events) (hv : v.origin = origin) (hwt : w ≤ t)
    (hevent : event ∈ events) :
    event = snapshot.calledEvent origin ∨ event = snapshot.tookEvent origin url ∨
      event = .answered origin finding ∧ w = t := by
  subst hv
  rcases Nat.lt_or_eq_of_le hwt with hlt | rfl
  · have hmem : event ∈ (e.state (w + 1)).history v.origin := by
      rw [hmoves.history]
      exact List.mem_append_left _ (List.mem_reverse.mpr hevent)
    exact (h.history_before hlt hmem).imp_right Or.inl
  · have hsame : events.reverse ++ (e.state w).history v.origin =
        [.answered v.origin finding] ++ (e.state w).history v.origin :=
      hmoves.history.symm.trans h.call_ends.2.2.1.history
    have hmem := List.mem_reverse.mpr hevent
    rw [List.append_cancel_right hsame] at hmem
    exact Or.inr (Or.inr ⟨List.mem_singleton.mp hmem, rfl⟩)

theorem not_published {w : Nat} {url' : Url} {ds : List Diagnostic} (hwu : w ≤ u) :
    .published (some origin) url' ds ∉ e.written w := by
  intro hpublished
  rcases Nat.lt_or_ge t w with htw | hwt
  · obtain ⟨n, turn, _, _, ⟨_, hnone, _⟩ | ⟨_, s, f, hlive, hsender, _⟩⟩ :=
      e.published_cases hpublished
    · cases hnone
    · cases hsender
      exact h.not_publishing htw (Nat.le_succ_of_le hwu) hlive
  · obtain ⟨v, stage, events, hmoves, hv, hevent⟩ := moves_of_written hpublished rfl
    rcases h.event_early hmoves hv hwt hevent with heq | heq | ⟨heq, _⟩ <;> cases heq

/-- The step in which its lint call ends is the only one the validation makes then. -/
theorem stage_at_answer {v : Validation} {stage : Stage} {events : List Event}
    (hmoves : e.Moves t v stage events) (hv : v.origin = origin) :
    stage = .afterAnswer snapshot finding := by
  have hcall := h.call_ends.2.2.1
  have hsame := (e.kept t).live_unique hmoves.live hcall.live hv
  subst hsame
  have hearly (event : Event) (hevent : event ∈ events) :=
    h.event_early hmoves rfl (Nat.le_refl t) hevent
  have hgoes := hmoves.goes
  generalize hfrom : Stage.awaitReport snapshot = from? at hgoes
  cases hgoes with
  | answered s result =>
    cases hfrom
    rcases hearly _ List.mem_cons_self with heq | heq | ⟨heq, _⟩
    · cases heq
    · cases heq
    · cases heq
      rfl
  | _ => cases hfrom

/-- **Any step it makes after its lint call is its last**, and it returns no failure: the
second look at the settings does not find those the validation read. -/
theorem step_drops {w : Nat} {url' : Url} {stage stage' : Stage} {events : List Event}
    (htw : t < w) (hwu : w ≤ u) (hmoves : e.Moves w ⟨origin, url', stage⟩ stage' events) :
    finding.raised? = none ∧ stage' = .ended none := by
  rcases h.live_after htw hmoves.live with hended | ⟨_, hraised, rfl | rfl⟩
  · rw [hmoves.goes.going] at hended
    cases hended
  · refine ⟨hraised, ?_⟩
    have hgoes := hmoves.goes
    cases hgoes with
    | confirmed _ _ hsame => exact absurd hsame (h.generation_ne htw hwu)
    | dropped => rfl
  · exact absurd hmoves.live (h.not_publishing htw (Nat.le_succ_of_le hwu))

/-- From the end of its lint call on the validation returns a failure by which the engine
never took the text, if there is one, and nothing else. -/
theorem returns_raised {w : Nat} {url' : Url} {failure : Option EngineError} (htw : t ≤ w)
    (hwu : w ≤ u) (hreturns : e.Returns w origin url' failure) : failure = finding.raised? := by
  obtain ⟨stage, events, hmoves⟩ := hreturns
  rcases Nat.lt_or_eq_of_le htw with hlt | rfl
  · obtain ⟨hraised, hlast⟩ := h.step_drops hlt hwu hmoves
    cases hlast
    exact hraised.symm
  · have hstage := h.stage_at_answer hmoves rfl
    cases hraised : finding.raised? with
    | none => rw [Stage.afterAnswer_of_not_raised hraised] at hstage; cases hstage
    | some error => rw [Stage.afterAnswer_of_raised hraised] at hstage; cases hstage; rfl

/-- Nor has it returned another failure before. -/
theorem raised_of_returns {w : Nat} {url' : Url} {error : EngineError} (hwu : w ≤ u)
    (hreturns : e.Returns w origin url' (some error)) : finding.raised? = some error := by
  rcases Nat.lt_or_ge w t with hwt | htw
  · obtain ⟨stage, events, hmoves⟩ := hreturns
    obtain ⟨event, hevent, hkind⟩ := hmoves.goes.failure_event
    -- a failure is written, or what was found published
    rcases h.event_early hmoves rfl (Nat.le_of_lt hwt) hevent with rfl | rfl | ⟨_, hw⟩
    · simp [Snapshot.calledEvent] at hkind
    · simp [Snapshot.tookEvent] at hkind
    · exact absurd hw (Nat.ne_of_lt hwt)
  · exact (h.returns_raised htw hwu hreturns).symm

/-- Unless the engine never took the text, the validation stands before its second look at
the settings until it returns without a failure, or its task is given up. -/
theorem pending (hraised : finding.raised? = none) {w : Nat} (htw : t < w) (hwu : w ≤ u) :
    (e.state w).Cleared origin.task ⟨origin, url, .compareSettings snapshot finding⟩ ∨
      (∃ v, t < v ∧ v < w ∧ e.Returns v origin url none) ∨
      ∃ v, t < v ∧ v < w ∧ e.move v = some (.abandon origin.task) := by
  obtain ⟨d, rfl⟩ := Nat.exists_eq_add_of_lt htw
  clear htw
  induction d with
  | zero =>
    have hcall := h.call_ends.2.2.1
    rw [Stage.afterAnswer_of_not_raised hraised] at hcall
    exact Or.inl (hcall.cleared rfl rfl)
  | succ d ih =>
    rcases ih (Nat.le_of_succ_le hwu) with
      hcleared | ⟨v, htv, hv, hreturns⟩ | ⟨v, htv, hv, habandon⟩
    · rcases cleared_or_moves hcleared rfl with hstays | ⟨stage, events, hmoves⟩ | habandon
      · exact Or.inl hstays
      · cases (h.step_drops (by omega) (by omega) hmoves).2
        exact Or.inr (Or.inl ⟨t + d + 1, by omega, by omega, _, events, hmoves⟩)
      · exact Or.inr (Or.inr ⟨t + d + 1, by omega, by omega, habandon⟩)
    · exact Or.inr (Or.inl ⟨v, htv, Nat.lt_succ_of_lt hv, hreturns⟩)
    · exact Or.inr (Or.inr ⟨v, htv, Nat.lt_succ_of_lt hv, habandon⟩)

/-- **It is bound to be dropped.**  As long as it has not returned and is not given up, the
validation can return without a failure at once. -/
theorem can_return (hraised : finding.raised? = none) {w : Nat} (htw : t < w) (hwu : w ≤ u) :
    (e.state w).CanMove ⟨origin, url, .compareSettings snapshot finding⟩ (.ended none) ∨
      (∃ v, t < v ∧ v < w ∧ e.Returns v origin url none) ∨
      ∃ v, t < v ∧ v < w ∧ e.move v = some (.abandon origin.task) := by
  refine (h.pending hraised htw hwu).imp_left fun hcleared => ?_
  refine hcleared.canMove (e.numbered w) ?_
  simp [Validation.step, h.generation_ne htw hwu]

/-- What its task shows other validations have returned. -/
theorem shown_by_others (hraised : finding.raised? = none) {w : Nat} {message : String}
    (hwu : w ≤ u) (hshown : .shown origin.task message ∈ e.written w) :
    ∃ v < w, ∃ origin' url' error, origin' ≠ origin ∧ origin'.task = origin.task ∧
      e.Returns v origin' url' (some error) ∧ message = error.notice url' := by
  obtain ⟨v, hv, origin', url', error, htask, hreturns, hmessage⟩ := shown_source hshown
  refine ⟨v, hv, origin', url', error, ?_, htask, hreturns, hmessage⟩
  rintro rfl
  have hsome := h.raised_of_returns (Nat.le_trans (Nat.le_of_lt hv) hwu) hreturns
  rw [hraised] at hsome
  cases hsome

/-- A single validation shows nothing. -/
theorem single_shows_nothing (hraised : finding.raised? = none) {v : Validation}
    (hsingle : (e.state j).task? origin.task = some (.single v)) {w : Nat} {message : String}
    (hwu : w ≤ u) : .shown origin.task message ∉ e.written w := by
  intro hshown
  obtain ⟨c, _, origin', url', error, hother, htask, ⟨stage, events, hmoves⟩, _⟩ :=
    h.shown_by_others hraised hwu hshown
  have hmem := mem_of_task? hsingle
  have hcall := h.call_ends.2.2.1
  have horigin : origin = ⟨origin.task, 0, 0⟩ := origin_of_single hmem trivial hcall rfl
  have horigin' : origin' = ⟨origin.task, 0, 0⟩ := origin_of_single hmem trivial hmoves htask
  exact hother (horigin'.trans horigin.symm)

end Superseded

/-- **A superseded validation publishes nothing.**  From the end of its lint call on it
returns just the failure by which the engine never took the text, if that is what it has
found, and returns it at once.  Otherwise it is never held up: until it has returned without
a failure, or is given up, it can return so at once, and the next step it makes, if any, is
this return.  Its task then shows only what other validations have returned, and a single
validation shows nothing. -/
theorem superseded_silent {config : Config} (e : Run (.initial config)) {j t u : Nat}
    {origin : Origin} {url : Url} {snapshot : Snapshot} {finding : Finding}
    (h : e.Superseded j t u origin url snapshot finding) :
    (∀ w ≤ u, ∀ url' ds, .published (some origin) url' ds ∉ e.written w) ∧
    (∀ w url' failure, t ≤ w → w ≤ u → e.Returns w origin url' failure →
      failure = finding.raised?) ∧
    (∀ error, finding.raised? = some error → e.Returns t origin url (some error)) ∧
    (finding.raised? = none →
      (∀ w, t < w → w ≤ u →
        (e.state w).CanMove ⟨origin, url, .compareSettings snapshot finding⟩ (.ended none) ∨
          (∃ v, t < v ∧ v < w ∧ e.Returns v origin url none) ∨
          ∃ v, t < v ∧ v < w ∧ e.move v = some (.abandon origin.task)) ∧
      (∀ w url' stage stage' events, t < w → w ≤ u →
        e.Moves w ⟨origin, url', stage⟩ stage' events → stage' = .ended none) ∧
      (∀ w ≤ u, ∀ message, .shown origin.task message ∈ e.written w →
        ∃ v < w, ∃ origin' url' error, origin' ≠ origin ∧ origin'.task = origin.task ∧
          e.Returns v origin' url' (some error) ∧ message = error.notice url') ∧
      ((∃ v, (e.state j).task? origin.task = some (.single v)) →
        ∀ w ≤ u, ∀ message, .shown origin.task message ∉ e.written w)) := by
  refine ⟨fun w hwu url' ds => h.not_published hwu,
    fun w url' failure htw hwu hreturns => h.returns_raised htw hwu hreturns, ?_, ?_⟩
  · intro error hraised
    have hcall := h.call_ends.2.2.1
    rw [Stage.afterAnswer_of_raised hraised] at hcall
    exact ⟨_, _, hcall⟩
  · intro hraised
    refine ⟨fun w => h.can_return hraised,
      fun w url' stage stage' events htw hwu hmoves => (h.step_drops htw hwu hmoves).2,
      fun w hwu message => h.shown_by_others hraised hwu, ?_⟩
    rintro ⟨v, hsingle⟩ w hwu message
    exact h.single_shows_nothing hraised hsingle hwu

end Run

/-! ### New settings come while a text is linted

The validation takes its snapshot in tick 10, new settings come into force in tick 13, and
the lint call ends in tick 14, with a failure.  In the run `lintFails` the engine took the
text, in the run `engineThrows` it did not, and the failure is shown in tick 15. -/

namespace Sample

/-- The moves, with a failure. -/
def failing (error : EngineError) : List Move :=
  opened ++ [.advance 2 0 .proceed, .advance 2 0 .proceed, .advance 2 0 .proceed,
    .advance 2 0 .taken, .arrive (.configure .null), .advance 3 0 .proceed,
    .advance 2 0 (.linted (.error error)), .advance 2 0 .proceed]

/-- The run in which the engine took the text. -/
def lintFails : Run (.initial .default) :=
  .ofMoves (.initial .default) (failing (.lint (some "boom"))) rfl

/-- The run in which it did not. -/
def engineThrows : Run (.initial .default) :=
  .ofMoves (.initial .default) (failing (.raised (some "boom"))) rfl

/-- What the validation took. -/
def taken : Snapshot := ⟨⟨"standard", 0⟩, "a;", .default⟩

theorem lintFails_superseded :
    lintFails.Superseded 10 14 16 ⟨2, 0, 0⟩ page taken (.failure (.lint (some "boom"))) where
  took := List.mem_singleton.mpr rfl
  answered := List.mem_singleton.mpr rfl
  pushed := by decide
  few := by decide

theorem engineThrows_superseded :
    engineThrows.Superseded 10 14 16 ⟨2, 0, 0⟩ page taken (.failure (.raised (some "boom"))) where
  took := List.mem_singleton.mpr rfl
  answered := List.mem_singleton.mpr rfl
  pushed := by decide
  few := by decide

end Sample

namespace Run

/-- The failure of a text that the engine took is dropped, in tick 15, and not shown. -/
theorem superseded_silent_lintFails :
    Sample.lintFails.Superseded 10 14 16 ⟨2, 0, 0⟩ Sample.page Sample.taken
        (.failure (.lint (some "boom"))) ∧
      (Sample.lintFails.state 15).CanMove ⟨⟨2, 0, 0⟩, Sample.page,
        .compareSettings Sample.taken (.failure (.lint (some "boom")))⟩ (.ended none) ∧
      ∀ w ≤ 16, ∀ message, .shown 2 message ∉ Sample.lintFails.written w := by
  refine ⟨Sample.lintFails_superseded, ?_⟩
  obtain ⟨_, _, _, hdropped⟩ :=
    Sample.lintFails.superseded_silent Sample.lintFails_superseded
  obtain ⟨hreturn, _, _, hsingle⟩ := hdropped rfl
  refine ⟨?_, hsingle ⟨_, rfl⟩⟩
  -- there is no tick between the end of the call and this one
  rcases hreturn 15 (by decide) (by decide) with hcan | ⟨v, _, _, _⟩ | ⟨v, _, _, _⟩
  · exact hcan
  · omega
  · omega

/-- **A superseded failure can be shown**: it is not so that in every run a single
validation shows nothing once it is superseded. -/
theorem superseded_shown : ¬ ∀ (config : Config) (e : Run (.initial config)) (j t u : Nat)
    (origin : Origin) (url : Url) (snapshot : Snapshot) (finding : Finding),
    e.Superseded j t u origin url snapshot finding →
    (∃ v, (e.state j).task? origin.task = some (.single v)) →
    ∀ w ≤ u, ∀ message, .shown origin.task message ∉ e.written w := by
  intro hall
  refine hall .default Sample.engineThrows 10 14 16 _ _ _ _ Sample.engineThrows_superseded ⟨_, rfl⟩
    15 (by decide) ((EngineError.raised (some "boom")).notice Sample.page) ?_
  exact List.mem_cons_of_mem _ (List.mem_singleton.mpr rfl)

end Run

end Server

end LintServer
