import LintServer.Proofs.Notices
import LintServer.Proofs.Server.Amid
import LintServer.Proofs.Server.History
import LintServer.Proofs.Server.PushedOptions

/-! # Line endings in failures

A text can end its lines with a line feed, with or without a carriage return before it, and
what the user is told of a failure does not depend on which (`oneLine_of_joins`).  So two
documents of a batch whose failures differ in nothing else are told of once
(`Batch.line_endings_told_once`).

For this the failures a batch shows are found again in what it has written before.  A batch
carries all its entries along (`Batch.Logs`): the entries about each of its validations are
those of its stage (`Stage.Recorded`), and at the end the failures among them are what is
shown.
-/
namespace LintServer

/-! ## Lines put together -/

/-- **A text of given lines**, of which each but the last ends in either way. -/
inductive Joins : List String → String → Prop
  | last (line : String) : Joins [line] line
  | feed (line : String) {more : List String} {text : String} (h : Joins more text) :
    Joins (line :: more) (line ++ "\n" ++ text)
  | returnFeed (line : String) {more : List String} {text : String} (h : Joins more text) :
    Joins (line :: more) (line ++ "\r\n" ++ text)

theorem oneLine_cons {c : Char} {r : List Char} (hfeed : c ≠ '\n')
    (hreturn : c = '\r' → ∀ r', r ≠ '\n' :: r') : oneLine (c :: r) = c :: oneLine r := by
  rw [oneLine.eq_def]
  split
  · rename_i heq
    cases heq
  · rename_i heq
    cases heq
    exact absurd rfl (hreturn rfl _)
  · rename_i heq
    cases heq
    exact absurd rfl hfeed
  · rename_i heq
    cases heq
    rfl

/-- A line without breaks in it stays, whatever follows, unless a line feed would take its
last character along. -/
theorem oneLine_append {l r : List Char} (hfeed : '\n' ∉ l)
    (hreturn : l.getLast? = some '\r' → ∀ r', r ≠ '\n' :: r') :
    oneLine (l ++ r) = l ++ oneLine r := by
  induction l with
  | nil => rfl
  | cons c l ih =>
    rw [List.mem_cons, not_or] at hfeed
    obtain ⟨hc, hl⟩ := hfeed
    rw [List.cons_append, oneLine_cons (Ne.symm hc), ih hl, List.cons_append]
    · intro hlast
      refine hreturn ?_
      rw [List.getLast?_cons, hlast]
      rfl
    · rintro rfl r' heq
      cases l with
      | nil => exact hreturn rfl r' heq
      | cons d l =>
        cases heq
        exact hl List.mem_cons_self

theorem oneLine_append_feed {l : List Char} (hfeed : '\n' ∉ l) (hreturn : l.getLast? ≠ some '\r')
    (r : List Char) : oneLine (l ++ '\n' :: r) = l ++ ' ' :: oneLine r := by
  rw [oneLine_append hfeed fun hlast => absurd hlast hreturn]
  rfl

theorem oneLine_append_returnFeed {l : List Char} (hfeed : '\n' ∉ l) (r : List Char) :
    oneLine (l ++ '\r' :: '\n' :: r) = l ++ ' ' :: oneLine r := by
  rw [oneLine_append hfeed fun _ _ heq => absurd heq (by simp)]
  rfl

theorem Joins.ne_nil {lines : List String} {text : String} (h : Joins lines text) :
    lines ≠ [] := by
  cases h <;> simp

/-- **Either way, a line ending becomes a space.** -/
theorem oneLine_of_joins {lines : List String} {text : String} (h : Joins lines text)
    (hfeed : ∀ line ∈ lines, '\n' ∉ line.toList)
    (hreturn : ∀ line ∈ lines.dropLast, line.toList.getLast? ≠ some '\r') :
    oneLine text.toList = (" ".intercalate lines).toList := by
  induction h with
  | last line => rw [oneLine_eq_self (hfeed line List.mem_cons_self), String.intercalate_singleton]
  | feed line hmore ih | returnFeed line hmore ih =>
    obtain ⟨hline, hlines⟩ := List.forall_mem_cons.mp hfeed
    rw [List.dropLast_cons_of_ne_nil hmore.ne_nil] at hreturn
    obtain ⟨hlast, hreturns⟩ := List.forall_mem_cons.mp hreturn
    have hrest := ih hlines hreturns
    rw [String.intercalate_cons_of_ne_nil hmore.ne_nil]
    simp [← hrest, oneLine_append_feed hline hlast, oneLine_append_returnFeed hline]

/-- One mark in front is taken off, and nothing else. -/
theorem unmarked (text : String) :
    text = "CLI: " ++ String.ofList (withoutMark text.toList) ∨
      (∀ rest, text ≠ "CLI: " ++ rest) ∧ String.ofList (withoutMark text.toList) = text := by
  unfold withoutMark
  split
  · rename_i rest heq
    refine Or.inl ?_
    rw [← String.toList_inj, heq]
    simp
  · rename_i hnone
    refine Or.inr ⟨?_, String.ofList_toList⟩
    rintro rest rfl
    exact hnone rest.toList (by simp)

/-! ## Failures in the entries of a batch -/

/-- **The entries say that a validation has failed**: the engine did not take the text, or
its call ended in a failure, which then was not dropped. -/
def Origin.FailedIn (origin : Origin) (written : List Event) (error : EngineError) : Prop :=
  .refused origin error ∈ written ∨ .answered origin (.failure error) ∈ written ∧
    (error.isRaised = true ∨ ∃ url ds, .published (some origin) url ds ∈ written)

/-- A validation that has failed, by its entries, has ended so. -/
theorem Stage.Recorded.failure_of_failedIn {origin : Origin} {url : Url} {entries : List Event}
    {failure : Option EngineError} {error : EngineError}
    (h : Stage.Recorded origin url (.ended failure) entries)
    (hfailed : origin.FailedIn entries error) : failure = some error := by
  cases h with
  | skipped => simp [Origin.FailedIn] at hfailed
  | dropped snapshot finding _ hfound =>
    -- it found the failure, but did not publish
    cases hfound <;> simp [Origin.FailedIn, Snapshot.tookEvent, Snapshot.calledEvent] at hfailed
    obtain ⟨rfl, hraised⟩ := hfailed
    simp_all
  | concluded snapshot _ _ hconcluded =>
    cases hconcluded with
    | refused error' | raised error' =>
      simp only [Origin.FailedIn, Snapshot.tookEvent, Snapshot.calledEvent, List.mem_cons,
        Event.refused.injEq, Event.answered.injEq, Finding.failure.injEq] at hfailed
      simp_all
    | published finding _ hfound =>
      cases hfound <;> simp [Origin.FailedIn, Snapshot.tookEvent, Snapshot.calledEvent] at hfailed
      rw [hfailed]
      rfl

namespace Batch

/-- The entries about one validation, the latest first. -/
def own (origin : Origin) (written : List Event) : List Event :=
  (written.filter fun event => event.origin? = some origin).reverse

theorem own_append (origin : Origin) (written events : List Event) :
    own origin (written ++ events) = own origin events ++ own origin written := by
  simp [own]

theorem failedIn_own {origin : Origin} {written : List Event} {error : EngineError}
    (h : origin.FailedIn written error) : origin.FailedIn (own origin written) error := by
  have hmem {event : Event} (horigin : event.origin? = some origin) (hevent : event ∈ written) :
      event ∈ own origin written := by
    simp [own, hevent, horigin]
  rcases h with hrefused | ⟨hanswered, hkept⟩
  · exact Or.inl (hmem rfl hrefused)
  · refine Or.inr ⟨hmem rfl hanswered, hkept.imp_right ?_⟩
    rintro ⟨url, ds, hpublished⟩
    exact ⟨url, ds, hmem rfl hpublished⟩

/-- The validations of a batch, with what they have written so far. -/
structure Logs (task round : Nat) (flights : List Validation) (body : List Event) : Prop where
  origin : ∀ {place : Nat} {v : Validation}, flights[place]? = some v →
    v.origin = ⟨task, round, place⟩
  recorded : ∀ v ∈ flights, v.stage.Recorded v.origin v.url (own v.origin body)
  listed : ∀ event ∈ body, ∃ place < flights.length, event.origin? = some ⟨task, round, place⟩

variable {task round : Nat} {flights : List Validation} {body : List Event}

theorem logs_flightsFor (task round : Nat) (urls : List Url) :
    Logs task round (flightsFor task round urls) [] := by
  have hstart {place : Nat} {v : Validation} (h : (flightsFor task round urls)[place]? = some v) :
      ∃ url, v = .start ⟨task, round, place⟩ url := by
    rw [flightsFor, List.getElem?_mapIdx] at h
    obtain ⟨url, -, rfl⟩ := Option.map_eq_some_iff.mp h
    exact ⟨url, rfl⟩
  refine ⟨?_, ?_, by simp⟩
  · intro place v hplace
    obtain ⟨url, rfl⟩ := hstart hplace
    rfl
  · intro v hv
    obtain ⟨place, hplace⟩ := List.mem_iff_getElem?.mp hv
    obtain ⟨url, rfl⟩ := hstart hplace
    exact .findEngine

/-- **A step of one validation** leaves the entries of the others alone. -/
theorem Logs.set (h : Logs task round flights body) {shared : Shared} {place : Nat}
    {answer : Answer} {v v' : Validation} {events : List Event} (hplace : flights[place]? = some v)
    (hstep : v.step shared answer = some (v', events)) :
    Logs task round (flights.set place v') (body ++ events) := by
  obtain ⟨horigin, hurl, hgoes⟩ := Validation.goes hstep
  have hevents := hgoes.origin?_eq
  have hlt : place < flights.length := (List.getElem?_eq_some_iff.mp hplace).1
  have hcases {k : Nat} {w : Validation} (hw : (flights.set place v')[k]? = some w) :
      k = place ∧ w = v' ∨ k ≠ place ∧ flights[k]? = some w := by
    by_cases hk : place = k
    · subst hk
      rw [List.getElem?_set_self hlt] at hw
      exact Or.inl ⟨rfl, (Option.some.inj hw).symm⟩
    · rw [List.getElem?_set_ne hk] at hw
      exact Or.inr ⟨Ne.symm hk, hw⟩
  refine ⟨?_, ?_, ?_⟩
  · intro k w hw
    rcases hcases hw with ⟨rfl, rfl⟩ | ⟨_, hw⟩
    · rw [horigin, h.origin hplace]
    · exact h.origin hw
  · intro w hw
    obtain ⟨k, hk⟩ := List.mem_iff_getElem?.mp hw
    rcases hcases hk with ⟨rfl, rfl⟩ | ⟨hne, hk⟩
    · have hown : own v.origin events = events.reverse := by
        rw [own, List.filter_eq_self.mpr fun event hevent => by simp [hevents event hevent]]
      rw [own_append, horigin, hurl, hown]
      exact (h.recorded v (List.mem_of_getElem? hplace)).goes hgoes
    · have hother : own w.origin events = [] := by
        refine List.reverse_eq_nil_iff.mpr (List.filter_eq_nil_iff.mpr fun event hevent => ?_)
        rw [hevents event hevent, h.origin hplace, h.origin hk]
        simpa using Ne.symm hne
      rw [own_append, hother]
      exact h.recorded w (List.mem_of_getElem? hk)
  · intro event hevent
    rcases List.mem_append.mp hevent with hold | hnew
    · rw [List.length_set]
      exact h.listed event hold
    · exact ⟨place, by rwa [List.length_set], by rw [hevents event hnew, h.origin hplace]⟩

/-- A validation that has failed, by the entries, is told of at the end. -/
theorem Logs.mem_messages (h : Logs task round flights body)
    (hended : flights.all (·.stage.isEnded) = true) {origin : Origin} {error : EngineError}
    (hfailed : origin.FailedIn body error) :
    ∃ url, error.notice url ∈ messages flights := by
  have hone : ∃ event ∈ body, event.origin? = some origin := by
    rcases hfailed with hrefused | ⟨hanswered, _⟩
    · exact ⟨_, hrefused, rfl⟩
    · exact ⟨_, hanswered, rfl⟩
  obtain ⟨event, hevent, horigin⟩ := hone
  obtain ⟨place, hplace, hlisted⟩ := h.listed event hevent
  have hv := List.getElem?_eq_getElem hplace
  have hown : origin = (flights[place]).origin := by
    rw [h.origin hv]
    exact Option.some.inj (horigin.symm.trans hlisted)
  generalize flights[place] = v at hv hown
  have hmem := List.mem_of_getElem? hv
  have hrecorded := h.recorded v hmem
  rw [← hown] at hrecorded
  cases hstage : v.stage with
  | ended failure =>
    rw [hstage] at hrecorded
    have hfailure := hrecorded.failure_of_failedIn (failedIn_own hfailed)
    refine ⟨v.url, Batch.mem_messages.mpr ⟨v, hmem, ?_⟩⟩
    rw [Validation.notice?_eq_some]
    exact ⟨error, by rw [hstage, hfailure], rfl⟩
  | _ =>
    have hend := List.all_eq_true.mp hended v hmem
    rw [hstage] at hend
    cases hend

theorem nodup_messages (flights : List Validation) : (messages flights).Nodup := by
  refine (Notices.ascending_foldl_add _ List.Pairwise.nil).imp ?_
  rintro a _ hlt rfl
  exact String.lt_irrefl a hlt

/-- Before the failures are shown, none is. -/
theorem Logs.shown_eq_nil (h : Logs task round flights body) :
    body.filterMap Event.shown? = [] := by
  refine List.filterMap_eq_nil_iff.mpr fun event hevent => ?_
  obtain ⟨place, -, horigin⟩ := h.listed event hevent
  cases event with
  | shown => cases horigin
  | _ => rfl

/-! ## A batch to its end -/

/-- **However the batch goes on, it comes to an end, and `P` holds of what it writes until
then.**  Before each of its steps others may leave anything in the shared state. -/
inductive Ends (task round : Nat) : (List Event → Prop) → Option Batch → Prop
  | done {P : List Event → Prop} (h : P []) : Ends task round P none
  | steps {P : List Event → Prop} {b : Batch}
    (hcan : ∀ shared, ∃ place answer next events,
      b.step shared task round place answer = some (next, events))
    (hall : ∀ shared place answer next events,
      b.step shared task round place answer = some (next, events) →
      Ends task round (fun rest => P (events ++ rest)) next) : Ends task round P (some b)

/-- A batch carries its entries along, whatever others leave in the shared state. -/
theorem carried_logs (task round : Nat) :
    Carried (fun _ _ => True) (fun _ => True) task round (Logs task round) where
  start _ _ := logs_flightsFor task round _
  can {shared _ _ _} _ _ _ hgoing := by
    obtain ⟨answer, v', events, -, hstep⟩ :=
      Validation.can_step shared (.ends (.ok .null)) hgoing
    exact ⟨answer, v', events, trivial, hstep⟩
  step _ hlogs hplace _ hstep := hlogs.set hplace hstep

theorem Going.ends {C : List Validation → List Event → Prop} {P : List Event → Prop} {b : Batch}
    {written : List Event} (hcarried : Carried (fun _ _ => True) (fun _ => True) task round C)
    (h : Going C task b written) (hP : ∀ written, Finished C task written → P written) :
    Ends task round (fun rest => P (written ++ rest)) (some b) := by
  induction hless : b.remaining using WellFoundedLT.induction generalizing b written with
  | _ left ih =>
    subst hless
    refine .steps ?_ ?_
    · intro shared
      obtain ⟨place, answer, next, events, -, hstep⟩ := h.can hcarried trivial
      exact ⟨place, answer, next, events, hstep⟩
    · intro shared place answer next events hstep
      obtain ⟨hstands, hless⟩ := h.step hcarried trivial (fun _ _ => trivial) hstep
      cases next with
      | none => exact .done (by simpa using hP _ hstands)
      | some b' => simpa using ih b'.remaining (hless b' rfl) hstands rfl

/-- **A batch comes to its end**, and has written by then what its validations wrote, and
their failures. -/
theorem ends_listing {P : List Event → Prop}
    (hP : ∀ written, Finished (Logs task round) task written → P written) :
    Ends task round P (some .listing) :=
  Going.listing.ends (carried_logs task round) hP

/-- A failure that some validations of a batch ended with, by the entries, is shown once. -/
theorem count_shown_of_finished {written : List Event} {origin : Origin} {error : EngineError}
    {line : String} (h : Finished (Logs task round) task written)
    (hfailed : origin.FailedIn written error) (hnotice : ∀ url, error.notice url = line) :
    (written.filterMap Event.shown?).count line = 1 := by
  obtain ⟨flights, body, hlogs, hended, rfl⟩ := h
  have hbody : origin.FailedIn body error := by
    simpa [Origin.FailedIn] using hfailed
  obtain ⟨url, hmem⟩ := hlogs.mem_messages hended hbody
  rw [hnotice] at hmem
  have hshown : ((messages flights).map (Event.shown task)).filterMap Event.shown? =
      messages flights := by
    rw [List.filterMap_map]
    exact List.filterMap_some
  rw [List.filterMap_append, hlogs.shown_eq_nil, List.nil_append, hshown,
    (nodup_messages flights).count, if_pos hmem]

/-! ## Failures that differ in their line endings -/

/-- **What the user is told of a failure does not depend on how its lines end.**  Take lines
without line feeds in them, of which only the last may end in a carriage return.  A text of
these lines is told as the lines with spaces between them, without one mark in front.  So
two documents of a batch that fail with such texts are told of once. -/
theorem line_endings_told_once {lines : List String} (hfeed : ∀ line ∈ lines, '\n' ∉ line.toList)
    (hreturn : ∀ line ∈ lines.dropLast, line.toList.getLast? ≠ some '\r') :
    ∃ line,
      (" ".intercalate lines = "CLI: " ++ line ∨
        (∀ rest, " ".intercalate lines ≠ "CLI: " ++ rest) ∧ line = " ".intercalate lines) ∧
      (∀ text url, Joins lines text →
        (EngineError.lint (some text)).notice url = line ∧
          (EngineError.raised (some text)).notice url = line) ∧
      ∀ task round, Ends task round (fun written =>
        ∀ (origin origin' : Origin) (error error' : EngineError) (text text' : String),
          origin ≠ origin' → Joins lines text → Joins lines text' →
          error ∈ [.lint (some text), .raised (some text)] →
          error' ∈ [.lint (some text'), .raised (some text')] →
          origin.FailedIn written error → origin'.FailedIn written error' →
          (written.filterMap Event.shown?).count line = 1) (some .listing) := by
  have hnotice {text : String} (url : Url) (h : Joins lines text) {error : EngineError}
      (hmessage : error.message? = some text) : error.notice url =
        String.ofList (withoutMark (" ".intercalate lines).toList) := by
    rw [EngineError.notice, hmessage]
    dsimp only
    rw [oneLine_of_joins h hfeed hreturn]
  refine ⟨String.ofList (withoutMark (" ".intercalate lines).toList), unmarked _, ?_, ?_⟩
  · intro text url h
    exact ⟨hnotice url h rfl, hnotice url h rfl⟩
  · intro task round
    refine ends_listing fun written hwritten => ?_
    intro origin _ error _ text _ _ htext _ herror _ hfailed _
    refine count_shown_of_finished hwritten hfailed fun url => hnotice url htext ?_
    simp only [List.mem_cons, List.not_mem_nil, or_false] at herror
    rcases herror with rfl | rfl <;> rfl

/-! ### Two documents that fail alike -/

/-- A batch makes some steps in a row while the shared state stands: where it comes to, and
what it writes. -/
def play (shared : Shared) (task round : Nat) :
    List (Nat × Answer) → Option Batch → Option (Option Batch × List Event)
  | [], b? => some (b?, [])
  | _ :: _, none => none
  | (place, answer) :: more, some b =>
    (b.step shared task round place answer).bind fun (next, events) =>
      (play shared task round more next).map fun (last, rest) => (last, events ++ rest)

/-- What holds however a batch goes on holds if it goes on so. -/
theorem Ends.of_play {P : List Event → Prop} {b? : Option Batch} (h : Ends task round P b?)
    {shared : Shared} {steps : List (Nat × Answer)} {written : List Event}
    (hplay : play shared task round steps b? = some (none, written)) : P written := by
  induction steps generalizing b? written P with
  | nil =>
    cases hplay
    cases h with
    | done h => exact h
  | cons first more ih =>
    cases h with
    | done => cases hplay
    | steps _ hall =>
      obtain ⟨place, answer⟩ := first
      obtain ⟨⟨next, events⟩, hstep, hrest⟩ := Option.bind_eq_some_iff.mp hplay
      obtain ⟨⟨last, rest⟩, hlast, heq⟩ := Option.map_eq_some_iff.mp hrest
      cases heq
      exact ih (hall shared place answer next events hstep) hlast

end Batch

/-- The engine throws for one document and fails for the other, with the same lines. -/
def Server.Sample.alike : List (Nat × Answer) :=
  [(0, .listed [page, script]), (0, .proceed), (0, .proceed), (0, .proceed),
    (0, .refused (.raised (some "CLI:\na\r\n"))), (1, .proceed), (1, .proceed), (1, .proceed),
    (1, .taken), (1, .linted (.error (.lint (some "CLI:\r\na\n")))), (1, .proceed), (1, .proceed),
    (0, .proceed)]

/-- The mark in front only arises from the first line ending. -/
theorem Batch.line_endings_told_once_alike :
    (∀ line ∈ ["CLI:", "a", ""], '\n' ∉ line.toList) ∧
      (∀ line ∈ ["CLI:", "a", ""].dropLast, line.toList.getLast? ≠ some '\r') ∧
      ∃ written, Batch.play (Server.Sample.stored.state 10).shared 0 0 Server.Sample.alike
          (some .listing) = some (none, written) ∧
        (written.filterMap Event.shown?).count "a " = 1 := by
  have hfeed : ∀ line ∈ ["CLI:", "a", ""], '\n' ∉ line.toList := by decide
  have hreturn : ∀ line ∈ ["CLI:", "a", ""].dropLast, line.toList.getLast? ≠ some '\r' := by decide
  have hthrown : Joins ["CLI:", "a", ""] "CLI:\na\r\n" :=
    .feed "CLI:" (.returnFeed "a" (.last ""))
  have hfailed : Joins ["CLI:", "a", ""] "CLI:\r\na\n" :=
    .returnFeed "CLI:" (.feed "a" (.last ""))
  obtain ⟨line, -, hnotice, hends⟩ := line_endings_told_once hfeed hreturn
  have hline : line = "a " := (hnotice _ Server.Sample.page hthrown).1.symm
  have hplay : Batch.play (Server.Sample.stored.state 10).shared 0 0 Server.Sample.alike
      (some .listing) = some (none, _) := rfl
  have hcount := (hends 0 0).of_play hplay ⟨0, 0, 0⟩ ⟨0, 0, 1⟩ (.raised (some "CLI:\na\r\n"))
    (.lint (some "CLI:\r\na\n")) _ _ (by decide) hthrown hfailed (by simp) (by simp)
    (.inl (List.mem_of_getElem? (i := 2) rfl))
    (.inr ⟨List.mem_of_getElem? (i := 5) rfl, .inr ⟨_, _, List.mem_of_getElem? (i := 6) rfl⟩⟩)
  rw [hline] at hcount
  exact ⟨hfeed, hreturn, _, hplay, hcount⟩

end LintServer
