import Mathlib.Algebra.GroupWithZero.Nat
import Mathlib.Data.List.Basic
import LintServer.Proofs.Notices
import LintServer.Proofs.Server.Alone

/-! # Batches

A batch on its own comes to the same as validating each open document on its own
(`batch_equals_each`), in whatever order the documents are listed and the lint calls end.
Until the batch is over it writes three things one after the other: what belongs to the
calls of the engine, what follows the calls, and the failures it shows.

The proof goes backward: `Batch.Leaves` says what is still to be written when a batch has
come to given validations, and a step of one of them puts its own events in front
(`Leaves.of_step`).
-/
namespace LintServer

/-! ## The two halves of a validation -/

/-- An entry about a validation up to the call of the engine. -/
def Event.IsDispatch : Event → Prop
  | .took _ _ _ | .called _ _ _ _ | .refused _ _ => True
  | _ => False

/-- An entry about what follows the call. -/
def Event.IsCompletion : Event → Prop
  | .answered _ _ | .published _ _ _ => True
  | _ => False

namespace Stage
variable {shared : Shared} {origin : Origin} {url : Url} {stage stage' : Stage}
  {events : List Event}

theorem Goes.isDispatch (h : Goes shared origin url stage stage' events)
    (hstage : stage.isDispatched = false) : ∀ event ∈ events, event.IsDispatch := by
  cases h with
  | answered | confirmed | dropped | published => cases hstage
  | _ => simp [Event.IsDispatch]

theorem Goes.isCompletion (h : Goes shared origin url stage stage' events)
    (hstage : stage.isDispatched = true) :
    stage'.isDispatched = true ∧ ∀ event ∈ events, event.IsCompletion := by
  cases h with
  | answered snapshot result =>
    refine ⟨?_, by simp [Event.IsCompletion]⟩
    unfold afterAnswer
    split
    · split <;> rfl
    · rfl
  | confirmed | dropped | published => exact ⟨rfl, by simp [Event.IsCompletion]⟩
  | _ => cases hstage

theorem going_of_not_dispatched (h : stage.isDispatched = false) : stage.isEnded = false := by
  cases stage with
  | ended => cases h
  | _ => rfl

end Stage

/-- What the user will be told of a validation. -/
def Validation.noticeDue (shared : Shared) (treat : Url → Treatment) (v : Validation) :
    Option String :=
  (v.outlook shared treat).failure.map fun error => error.notice v.url

theorem Validation.noticeDue_of_ended {shared : Shared} {treat : Url → Treatment} {v : Validation}
    (h : v.stage.isEnded = true) :
    v.noticeDue shared treat = v.notice? ∧ v.due shared treat = none := by
  cases hstage : v.stage with
  | ended failure =>
    rw [noticeDue, due, outlook_of_ended hstage, notice?, hstage]
    exact ⟨rfl, rfl⟩
  | _ => rw [hstage] at h; cases h

namespace Batch

/-- What a batch of some validations will show in the end. -/
def messagesDue (shared : Shared) (treat : Url → Treatment) (flights : List Validation) :
    List String :=
  ((flights.filterMap (·.noticeDue shared treat)).foldl Notices.add .empty).lines

theorem mem_messagesDue {shared : Shared} {treat : Url → Treatment} {flights : List Validation}
    {message : String} : message ∈ messagesDue shared treat flights ↔
      message ∈ flights.filterMap (·.noticeDue shared treat) := by
  simp [messagesDue, Notices.mem_foldl_add, Notices.empty]

theorem ascending_messagesDue (shared : Shared) (treat : Url → Treatment)
    (flights : List Validation) : (messagesDue shared treat flights).Pairwise (· < ·) :=
  Notices.ascending_foldl_add _ List.Pairwise.nil

/-- **What a batch writes from given validations on**: what belongs to the calls, what
follows them, with what is due to be published, and the failures.  When all calls have
been made there are none. -/
def Leaves (shared : Shared) (treat : Url → Treatment) (n : Nat) (flights : List Validation)
    (written : List Event) : Prop :=
  ∃ calls publishes,
    written = calls ++ publishes ++ (messagesDue shared treat flights).map (.shown n) ∧
    (∀ event ∈ calls, event.IsDispatch) ∧ (∀ event ∈ publishes, event.IsCompletion) ∧
    (flights.all (·.stage.isDispatched) = true → calls = []) ∧
    (publishes.filterMap Event.publication?).Perm (flights.filterMap (·.due shared treat))

theorem perm_set {α : Type} {l : List α} {i : Nat} {a : α} (b : α) (h : l[i]? = some a) :
    ∃ rest, l.Perm (a :: rest) ∧ (l.set i b).Perm (b :: rest) := by
  obtain ⟨hlt, rfl⟩ := List.getElem?_eq_some_iff.mp h
  refine ⟨l.take i ++ l.drop (i + 1), ?_, ?_⟩
  · have hsplit : l = l.take i ++ l[i] :: l.drop (i + 1) := by
      rw [List.getElem_cons_drop, List.take_append_drop]
    exact (List.Perm.of_eq hsplit).trans List.perm_middle
  · rw [List.set_eq_take_append_cons_drop, if_pos hlt]
    exact List.perm_middle

variable {config : Config} {shared : Shared} {n : Nat} {treat : Url → Treatment}
  {flights : List Validation}

theorem leaves_of_ended (h : flights.all (·.stage.isEnded) = true) :
    Leaves shared treat n flights ((messages flights).map (.shown n)) := by
  have hended (v : Validation) (hv : v ∈ flights) :
      v.noticeDue shared treat = v.notice? ∧ v.due shared treat = none :=
    Validation.noticeDue_of_ended (List.all_eq_true.mp h v hv)
  have hmessages : messagesDue shared treat flights = messages flights := by
    rw [messagesDue, messages, List.filterMap_congr fun v hv => (hended v hv).1]
  have hdue : flights.filterMap (·.due shared treat) = [] :=
    List.filterMap_eq_nil_iff.mpr fun v hv => (hended v hv).2
  refine ⟨[], [], by rw [hmessages]; rfl, by simp, by simp, fun _ => rfl, ?_⟩
  rw [hdue]
  exact List.Perm.refl _

theorem messagesDue_set {place : Nat} {v v' : Validation} (hplace : flights[place]? = some v)
    (hsame : v'.noticeDue shared treat = v.noticeDue shared treat) :
    messagesDue shared treat (flights.set place v') = messagesDue shared treat flights := by
  obtain ⟨others, hbefore, hafter⟩ := perm_set v' hplace
  refine Notices.lines_unique (ascending_messagesDue ..) (ascending_messagesDue ..) ?_
  intro message
  rw [mem_messagesDue, mem_messagesDue, (hafter.filterMap _).mem_iff, (hbefore.filterMap _).mem_iff,
    List.filterMap_cons, List.filterMap_cons, hsame]

theorem filterMap_cons_toList {α β : Type} (f : α → Option β) (a : α) (l : List α) :
    (a :: l).filterMap f = (f a).toList ++ l.filterMap f := by
  cases h : f a <;> simp [h]

/-- **A step of a validation puts its events in front.** -/
theorem Leaves.of_step {place : Nat} {answer : Answer} {v v' : Validation}
    {events rest : List Event} (hplace : flights[place]? = some v)
    (hmay : mayMove flights place v = true) (hallows : (treat v.url).Allows answer)
    (hstep : v.step shared answer = some (v', events))
    (h : Leaves shared treat n (flights.set place v') rest) :
    Leaves shared treat n flights (events ++ rest) := by
  obtain ⟨calls, publishes, rfl, hcalls, hpublishes, hnone, hperm⟩ := h
  obtain ⟨_, hurl, hgoes⟩ := Validation.goes hstep
  obtain ⟨hfailure, hdue⟩ := Validation.step_outlook hallows hstep
  have hnotice : v'.noticeDue shared treat = v.noticeDue shared treat := by
    rw [Validation.noticeDue, Validation.noticeDue, hfailure, hurl]
  -- what is due before the step is what it publishes and what is due after it
  have hpublished : (events.filterMap Event.publication? ++
      publishes.filterMap Event.publication?).Perm (flights.filterMap (·.due shared treat)) := by
    obtain ⟨others, hbefore, hafter⟩ := perm_set v' hplace
    have hrest := hperm.trans (hafter.filterMap (·.due shared treat))
    rw [filterMap_cons_toList] at hrest
    refine (hrest.append_left _).trans ?_
    rw [← List.append_assoc, hdue, ← filterMap_cons_toList]
    exact (hbefore.filterMap _).symm
  rw [messagesDue_set hplace hnotice]
  cases hv : v.stage.isDispatched with
  | false =>
    have hevents := hgoes.isDispatch hv
    refine ⟨events ++ calls, publishes, by simp, ?_, hpublishes, ?_, ?_⟩
    · intro event hmem
      rcases List.mem_append.mp hmem with hown | hlater
      · exact hevents event hown
      · exact hcalls event hlater
    · intro hall
      rw [List.all_eq_true.mp hall v (List.mem_of_getElem? hplace)] at hv
      cases hv
    · have hquiet : events.filterMap Event.publication? = [] := by
        refine List.filterMap_eq_nil_iff.mpr fun event hmem => ?_
        have hkind := hevents event hmem
        cases event with
        | published => exact absurd hkind id
        | _ => rfl
      rw [hquiet] at hpublished
      exact hpublished
  | true =>
    obtain ⟨hv', hevents⟩ := hgoes.isCompletion hv
    have hall : flights.all (·.stage.isDispatched) = true := by
      rw [mayMove, hv] at hmay
      exact hmay
    have hcalls : calls = [] := by
      refine hnone (List.all_eq_true.mpr fun w hw => ?_)
      rcases List.mem_or_eq_of_mem_set hw with hold | rfl
      · exact List.all_eq_true.mp hall w hold
      · exact hv'
    subst hcalls
    refine ⟨[], events ++ publishes, by simp, by simp, ?_, fun _ => rfl, ?_⟩
    · intro event hmem
      rcases List.mem_append.mp hmem with hown | hlater
      · exact hevents event hown
      · exact hpublishes event hlater
    · rw [List.filterMap_append]
      exact hpublished

/-! ## A batch alone -/

/-- However a batch goes on alone, it comes to an end, and `P` holds of what it writes.
A batch that is over writes nothing. -/
def Plays (config : Config) (shared : Shared) (n : Nat) (treat : Url → Treatment)
    (P : List Event → Prop) : Option Batch → Prop
  | none => P []
  | some b => (Task.batch b).Writes config shared n treat fun written outcome =>
      outcome = .done ∧ P written

theorem Plays.mono {P Q : List Event → Prop} {b? : Option Batch}
    (h : Plays config shared n treat P b?) (himp : ∀ written, P written → Q written) :
    Plays config shared n treat Q b? := by
  cases b? with
  | none => exact himp [] h
  | some b => exact Task.Writes.mono h fun written outcome hP => ⟨hP.1, himp written hP.2⟩

theorem plays_of_steps {b : Batch} {P : List Event → Prop}
    (hcan : ∃ place answer next events, (Task.batch b).Accepts treat place answer ∧
      b.step shared n 0 place answer = some (next, events))
    (hall : ∀ place answer next events, (Task.batch b).Accepts treat place answer →
      b.step shared n 0 place answer = some (next, events) →
      Plays config shared n treat (fun rest => P (events ++ rest)) next) :
    Plays config shared n treat P (some b) := by
  refine Task.Writes.of_steps ?_ ?_
  · obtain ⟨place, answer, next, events, haccepts, hstep⟩ := hcan
    exact ⟨place, answer, _, haccepts, by rw [Task.step, hstep]; rfl⟩
  · intro place answer turn haccepts hturn
    obtain ⟨⟨next, events⟩, hstep, rfl⟩ := Option.map_eq_some_iff.mp hturn
    have hrest := hall place answer next events haccepts hstep
    refine ⟨rfl, rfl, ?_⟩
    cases next with
    | none => exact ⟨rfl, by simpa [Plays] using hrest⟩
    | some b' => exact hrest

theorem plays_toShow (messages : List String) :
    Plays config shared n treat (· = messages.map (.shown n)) (toShow messages) := by
  induction messages with
  | nil => rfl
  | cons message more ih =>
    refine plays_of_steps ⟨0, .proceed, toShow more, [.shown n message], ?_, rfl⟩ ?_
    · intro v hv
      cases hv
    intro place answer next events _ hstep
    cases answer <;> cases hstep
    refine ih.mono ?_
    rintro rest rfl
    rfl

theorem exists_first {p : Validation → Bool} (h : flights.all p = false) :
    ∃ place v, flights[place]? = some v ∧ p v = false ∧ (flights.take place).all p = true := by
  induction flights with
  | nil => cases h
  | cons w more ih =>
    cases hw : p w with
    | false => exact ⟨0, w, rfl, hw, rfl⟩
    | true =>
      rw [List.all_cons, hw, Bool.true_and] at h
      obtain ⟨place, v, hplace, hv, hbefore⟩ := ih h
      exact ⟨place + 1, v, hplace, hv, by simp [hw, hbefore]⟩

/-- Unless all have ended, one of the validations of a batch may move. -/
theorem exists_mayMove (h : flights.all (·.stage.isEnded) = false) :
    ∃ place v, flights[place]? = some v ∧ v.stage.isEnded = false ∧
      mayMove flights place v = true := by
  cases hall : flights.all (·.stage.isDispatched) with
  | true =>
    obtain ⟨place, v, hplace, hgoing, _⟩ := exists_first h
    have hv := List.all_eq_true.mp hall v (List.mem_of_getElem? hplace)
    exact ⟨place, v, hplace, hgoing, by rw [mayMove, hv]; exact hall⟩
  | false =>
    -- the first that has not called the engine
    obtain ⟨place, v, hplace, hv, hbefore⟩ := exists_first hall
    exact ⟨place, v, hplace, Stage.going_of_not_dispatched hv, by rw [mayMove, hv]; exact hbefore⟩

/-- A step of one of its validations leaves fewer steps to a batch. -/
theorem rank_sum_set_lt {place : Nat} {answer : Answer} {v v' : Validation} {events : List Event}
    (hplace : flights[place]? = some v) (hstep : v.step shared answer = some (v', events)) :
    ((flights.set place v').map (·.stage.rank)).sum < (flights.map (·.stage.rank)).sum := by
  obtain ⟨others, hbefore, hafter⟩ := perm_set v' hplace
  rw [(hafter.map _).sum_nat, (hbefore.map _).sum_nat, List.map_cons, List.map_cons, List.sum_cons,
    List.sum_cons]
  exact Nat.add_lt_add_right (Validation.goes hstep).2.2.rank_lt _

/-- **What a batch of given validations writes.** -/
theorem plays_ofFlights (flights : List Validation) :
    Plays config shared n treat (Leaves shared treat n flights) (ofFlights flights) := by
  induction hrank : (flights.map (·.stage.rank)).sum using Nat.strongRecOn generalizing flights with
  | _ rank ih =>
    subst hrank
    unfold ofFlights
    cases hended : flights.all (·.stage.isEnded) with
    | true =>
      refine (plays_toShow (messages flights)).mono ?_
      rintro written rfl
      exact leaves_of_ended hended
    | false =>
      refine plays_of_steps ?_ ?_
      · obtain ⟨place, v, hplace, hgoing, hmay⟩ := exists_mayMove hended
        obtain ⟨answer, v', events, hallows, hstep⟩ := v.can_step shared (treat v.url) hgoing
        refine ⟨place, answer, ofFlights (flights.set place v'), events, ?_, ?_⟩
        · intro w hw
          cases hplace.symm.trans hw
          exact hallows
        · simp [step, hplace, hmay, hstep]
      · intro place answer next events haccepts hstep
        simp only [step] at hstep
        split at hstep
        · cases hstep
        · rename_i v hplace
          split at hstep
          · rename_i hmay
            obtain ⟨⟨v', events'⟩, hv, heq⟩ := Option.map_eq_some_iff.mp hstep
            cases heq
            refine (ih _ (rank_sum_set_lt hplace hv) (flights.set place v') rfl).mono ?_
            intro rest hrest
            exact hrest.of_step hplace hmay (haccepts v hplace) hv
          · cases hstep

/-- What a batch writes from the start: it lists the documents in some order first. -/
theorem plays_listing : Plays config shared n treat (fun written => ∃ urls,
    urls.Perm shared.documents.urls ∧ Leaves shared treat n (flightsFor n 0 urls) written)
    (some .listing) := by
  refine plays_of_steps ?_ ?_
  · refine ⟨0, .listed shared.documents.urls, ofFlights (flightsFor n 0 shared.documents.urls), [],
      ?_, by simp [step]⟩
    intro v hv
    cases hv
  · intro place answer next events _ hstep
    cases answer with
    | listed urls =>
      simp only [step] at hstep
      split at hstep
      · rename_i hurls
        cases hstep
        exact (plays_ofFlights _).mono fun rest hrest => ⟨urls, hurls, hrest⟩
      · cases hstep
    | _ => cases hstep

end Batch

/-! ## All documents -/

/-- What the engine makes of a document: a failure to take the text leaves nothing to
publish, and any other failure clears what was published. -/
def Treatment.outlook (engine : String) : Treatment → Outlook
  | .refuses error => ⟨none, some error⟩
  | .ends (.ok report) => ⟨some (translate (some report) engine), none⟩
  | .ends (.error error) =>
    if error.isRaised then ⟨none, some error⟩ else ⟨some (translate none engine), some error⟩

namespace Shared
variable {shared : Shared} {treat : Url → Treatment} {url : Url}

/-- What validating a document alone leads to. -/
def outlook (shared : Shared) (treat : Url → Treatment) (url : Url) : Outlook :=
  Stage.findEngine.outlook shared (treat url) url

theorem outlook_of_closed (h : shared.documents.get? url = none) :
    shared.outlook treat url = ⟨none, none⟩ := by
  rw [outlook, Stage.outlook]
  split
  · rfl
  · rw [Stage.outlook, h]

/-- An open document leads to what the engine makes of it, unless there is no engine or
nothing is to be validated. -/
theorem outlook_of_open {engine : Engine} {document : Document}
    (hengine : shared.phase.engine? = some engine)
    (hopen : shared.documents.get? url = some document)
    (henabled : shared.settings.enabled = true) :
    shared.outlook treat url = (treat url).outlook engine.name := by
  have hcall : shared.outlook treat url = Stage.outlook shared (treat url) url
      (.callEngine ⟨engine, document.text, shared.settings⟩) := by
    simp [outlook, Stage.outlook, hengine, hopen, Stage.afterReading, henabled]
  rw [hcall]
  generalize treat url = treatment
  cases treatment with
  | refuses error => rw [Stage.outlook, Treatment.outlook]
  | ends result =>
    rw [Stage.outlook, Stage.outlook, Treatment.result]
    cases result with
    | ok report =>
      simp [Finding.ofResult, Stage.afterAnswer, Stage.outlook, Treatment.outlook, Finding.report?,
        Finding.failure?]
    | error error =>
      cases hraised : error.isRaised <;>
        simp [Finding.ofResult, Stage.afterAnswer, hraised, Stage.outlook, Treatment.outlook,
          Finding.report?, Finding.failure?]

/-- Only an open document leads to anything. -/
theorem mem_urls_of_outlook (treat : Url → Treatment)
    (h : shared.outlook treat url ≠ ⟨none, none⟩) : url ∈ shared.documents.urls := by
  cases hget : shared.documents.get? url with
  | none => exact absurd (outlook_of_closed hget) h
  | some document => exact Documents.mem_urls hget

end Shared

namespace Batch
variable {shared : Shared} {treat : Url → Treatment} {urls : List Url}

theorem filterMap_flightsFor {β : Type} {f : Validation → Option β} {g : Url → Option β}
    (h : ∀ origin url, f (.start origin url) = g url) (task round : Nat) (urls : List Url) :
    (flightsFor task round urls).filterMap f = urls.filterMap g := by
  have hstart : f ∘ (fun e : Url × Nat => Validation.start ⟨task, round, e.2⟩ e.1) =
      g ∘ Prod.fst := funext fun e => h _ _
  rw [flightsFor, List.mapIdx_eq_zipIdx_map, List.filterMap_map, hstart, ← List.filterMap_map,
    List.zipIdx_map_fst]

/-- The messages of a batch of all documents. -/
theorem mem_messages_all (task round : Nat) (hurls : urls.Perm shared.documents.urls)
    {message : String} : message ∈ messagesDue shared treat (flightsFor task round urls) ↔
      ∃ url error, (shared.outlook treat url).failure = some error ∧
        message = error.notice url := by
  rw [mem_messagesDue, filterMap_flightsFor
    (g := fun url => (shared.outlook treat url).failure.map fun error => error.notice url)
    (fun _ _ => rfl), List.mem_filterMap]
  constructor
  · rintro ⟨url, _, hmessage⟩
    obtain ⟨error, hfailure, rfl⟩ := Option.map_eq_some_iff.mp hmessage
    exact ⟨url, error, hfailure, rfl⟩
  · rintro ⟨url, error, hfailure, rfl⟩
    have hopen : url ∈ shared.documents.urls :=
      Shared.mem_urls_of_outlook treat fun hnone => by simp [hnone] at hfailure
    exact ⟨url, hurls.mem_iff.mpr hopen, by rw [hfailure]; rfl⟩

theorem urls_sublist {β : Type} (f : Url → Option β) (urls : List Url) :
    ((urls.filterMap fun url => (f url).map fun b => (url, b)).map Prod.fst).Sublist urls := by
  induction urls with
  | nil => exact List.Sublist.refl _
  | cons url more ih =>
    rw [filterMap_cons_toList, List.map_append]
    cases f url with
    | none => exact ih.cons url
    | some b => exact ih.cons_cons url

/-- What a batch of all documents publishes: no document comes twice. -/
theorem publications_all (task round : Nat) (hurls : urls.Perm shared.documents.urls)
    (hdistinct : shared.documents.urls.Nodup) {published : List (Url × List Diagnostic)}
    (h : published.Perm ((flightsFor task round urls).filterMap (·.due shared treat))) :
    (published.map Prod.fst).Nodup ∧ ∀ url ds,
      (url, ds) ∈ published ↔ (shared.outlook treat url).published = some ds := by
  rw [filterMap_flightsFor
    (g := fun url => (shared.outlook treat url).published.map fun ds => (url, ds))
    (fun _ _ => rfl)] at h
  constructor
  · have hsub := urls_sublist (fun url => (shared.outlook treat url).published) urls
    exact (h.map _).nodup_iff.mpr ((hurls.nodup_iff.mpr hdistinct).sublist hsub)
  · intro url ds
    rw [h.mem_iff, List.mem_filterMap]
    constructor
    · rintro ⟨u, _, hu⟩
      obtain ⟨ds', hpublished, heq⟩ := Option.map_eq_some_iff.mp hu
      cases heq
      exact hpublished
    · intro hpublished
      have hopen : url ∈ shared.documents.urls :=
        Shared.mem_urls_of_outlook treat fun hnone => by simp [hnone] at hpublished
      exact ⟨url, hurls.mem_iff.mpr hopen, by rw [hpublished]; rfl⟩

end Batch

/-! ## The documents of a run -/

theorem Task.Turns.nodup_urls {shared : Shared} {number : Nat} {task : Task} {turn : Task.Turn}
    (h : Task.Turns shared number task turn) (hdistinct : shared.documents.urls.Nodup) :
    turn.shared.documents.urls.Nodup := by
  cases h with
  | store url document => exact Documents.nodup_urls_put hdistinct url document
  | forget url => exact Documents.nodup_urls_erase hdistinct url
  | quiet _ _ _ hdocuments => rw [hdocuments]; exact hdistinct
  | flight | list | tell | showFailure | clear | apply | spawnBatch => exact hdistinct

namespace Server

theorem nodup_urls_step {s s' : Server} {m : Move} (h : s.shared.documents.urls.Nodup)
    (hstep : s.step m = some s') : s'.shared.documents.urls.Nodup := by
  cases m with
  | arrive request => rw [step_arrive hstep]; exact h
  | fileChanged changed => rw [step_fileChanged hstep, (deliver_rest _ changed).1]; exact h
  | abandon n => rw [step_abandon hstep]; exact h
  | advance n place answer =>
    obtain ⟨task, turn, _, hturn, rfl⟩ := step_advance hstep
    rw [(shared_after s n turn).2.2]
    exact (Task.turns_of_step hturn).nodup_urls h

/-- No URL stands twice in a run. -/
theorem Run.nodup_urls {config : Config} (e : Run (.initial config)) (t : Nat) :
    (e.state t).shared.documents.urls.Nodup :=
  e.invariant List.nodup_nil nodup_urls_step t

end Server

/-! ## The batch and its documents -/

namespace Task

/-- **A batch equals validating each document on its own**, in whatever order it lists the
documents and its calls end.  Validating a document alone always leads to its outlook.  A
batch alone always comes to its end, and what it has written then is what belongs to the
calls of the engine, then what follows the calls, then the failures.  It has published once
for each document whose outlook is to publish, and the same; and it shows the failures of
the outlooks, each once, with their bytes ascending. -/
theorem batch_equals_each (config : Config) {shared : Shared} (treat : Url → Treatment)
    (hdistinct : shared.documents.urls.Nodup) :
    (∀ n url, (ofRequest n (.validate url)).Writes config shared n treat fun written outcome =>
      outcome = .validation (shared.outlook treat url).failure ∧
        written.filterMap Event.publication? =
          ((shared.outlook treat url).published.map fun ds => (url, ds)).toList) ∧
    ∃ messages : List String,
      messages.Pairwise (fun a b => Utf8.ofString a < Utf8.ofString b) ∧
      (∀ message, message ∈ messages ↔ ∃ url error,
        (shared.outlook treat url).failure = some error ∧ message = error.notice url) ∧
      ∀ n, (ofRequest n .validateAll).Writes config shared n treat fun written outcome =>
        outcome = .done ∧ ∃ calls publishes,
          written = calls ++ publishes ++ messages.map (.shown n) ∧
          (∀ event ∈ calls, event.IsDispatch) ∧ (∀ event ∈ publishes, event.IsCompletion) ∧
          ((publishes.filterMap Event.publication?).map Prod.fst).Nodup ∧
          ∀ url ds, (url, ds) ∈ publishes.filterMap Event.publication? ↔
            (shared.outlook treat url).published = some ds := by
  refine ⟨fun n url => writes_validate rfl, ?_⟩
  have hascending := Batch.ascending_messagesDue shared treat
  have hall := List.Perm.refl shared.documents.urls
  refine ⟨Batch.messagesDue shared treat (Batch.flightsFor 0 0 shared.documents.urls),
    (hascending _).imp Utf8.ofString_lt, fun message => Batch.mem_messages_all 0 0 hall, ?_⟩
  intro n
  refine Writes.mono Batch.plays_listing ?_
  rintro written outcome ⟨hdone, urls, hurls, calls, publishes, rfl, hcalls, hpublishes, -, hperm⟩
  have hmessages := Notices.lines_unique (hascending (Batch.flightsFor n 0 urls))
    (hascending (Batch.flightsFor 0 0 shared.documents.urls)) fun message =>
    (Batch.mem_messages_all n 0 hurls).trans (Batch.mem_messages_all 0 0 hall).symm
  obtain ⟨hnodup, hmem⟩ := Batch.publications_all n 0 hurls hdistinct hperm
  exact ⟨hdone, calls, publishes, by rw [hmessages], hcalls, hpublishes, hnodup, hmem⟩

end Task

namespace Server

namespace Sample

/-- A second document. -/
def script : Url := ⟨"file", "", "", some "", none, .rooted ["script.js"], none, none⟩

/-- Both documents are opened, without being validated. -/
def stored : Run (.initial .default) :=
  .ofMoves (.initial .default) (handshake ++
    [.arrive (.storeDocument page ⟨"a;", 1⟩), .advance 1 0 .proceed,
      .arrive (.storeDocument script ⟨"b;", 1⟩), .advance 2 0 .proceed]) rfl

/-- The engine does not take the first, and reports a problem in the second. -/
def halfway (url : Url) : Treatment :=
  if url = page then .refuses (.raised (some "boom")) else .ends (.ok problem)

theorem outlook_stored (url : Url) {document : Document}
    (h : (stored.state 10).shared.documents.get? url = some document) :
    (stored.state 10).shared.outlook halfway url = (halfway url).outlook "standard" := by
  have hengine : (stored.state 10).shared.phase.engine? = some ⟨"standard", 0⟩ := rfl
  exact Shared.outlook_of_open hengine h rfl

end Sample

end Server

/-- The failure of one document is shown, and the problem in the other is published. -/
theorem Task.batch_equals_each_stored :
    (Server.Sample.stored.state 10).shared.documents.urls.Nodup ∧
      ∃ messages : List String,
        (EngineError.raised (some "boom")).notice Server.Sample.page ∈ messages ∧
        ∀ n, (ofRequest n .validateAll).Writes .default (Server.Sample.stored.state 10).shared n
          Server.Sample.halfway fun written outcome =>
            outcome = .done ∧ ∃ calls publishes,
              written = calls ++ publishes ++ messages.map (.shown n) ∧
              (Server.Sample.script, translate (some Server.Sample.problem) "standard") ∈
                publishes.filterMap Event.publication? := by
  have hdistinct := Server.Sample.stored.nodup_urls 10
  refine ⟨hdistinct, ?_⟩
  obtain ⟨_, messages, _, hmem, hbatch⟩ :=
    batch_equals_each .default Server.Sample.halfway hdistinct
  refine ⟨messages, (hmem _).mpr ⟨Server.Sample.page, .raised (some "boom"), ?_, rfl⟩, fun n => ?_⟩
  · rw [Server.Sample.outlook_stored Server.Sample.page rfl]
    rfl
  · refine (hbatch n).mono ?_
    rintro written outcome ⟨hdone, calls, publishes, hwritten, _, _, _, hpublished⟩
    refine ⟨hdone, calls, publishes, hwritten, (hpublished _ _).mpr ?_⟩
    rw [Server.Sample.outlook_stored Server.Sample.script rfl]
    rfl

end LintServer
