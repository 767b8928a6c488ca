import LintServer.Proofs.Server.Flight

/-! # Closing a document

A document is closed in two steps: it is taken out of the open documents, and the
editor is told to show nothing for it.  A validation that has read the text before
the first step knows nothing of the second.  It looks at the settings once more,
but not at the documents, and so it can publish after the document was cleared
(`late_publication`).

`shows_nothing_iff` says that this is the only way.  When nothing runs any more, the last
set of diagnostics published for a document that was closed is empty, unless a
validation that held the text when the document was taken out sent it.
-/
namespace LintServer

/-- What an event publishes for a document. -/
def Event.publishes? (url : Url) : Event → Option (List Diagnostic)
  | .published _ u ds => if u = url then some ds else none
  | _ => none

theorem Event.publishes?_eq_some {url : Url} {event : Event} {ds : List Diagnostic} :
    event.publishes? url = some ds ↔ ∃ sender, event = .published sender url ds := by
  constructor
  · intro h
    cases event with
    | published sender u ds' =>
      simp only [Event.publishes?] at h
      split at h
      · rename_i hu
        cases h
        exact ⟨sender, by rw [hu]⟩
      · cases h
    | _ => cases h
  · rintro ⟨sender, rfl⟩
    simp [Event.publishes?]

/-- The stages at which a validation holds a text and may still publish. -/
def Stage.HasText : Stage → Prop
  | .findEngine | .readText _ | .ended _ => False
  | .readSettings _ _ | .callEngine _ | .awaitReport _ | .compareSettings _ _ | .publish _ _ => True

/-- A text is read while the document is open. -/
theorem Stage.Goes.hasText {shared : Shared} {origin : Origin} {url : Url} {stage stage' : Stage}
    {events : List Event} (h : Stage.Goes shared origin url stage stage' events)
    (hafter : stage'.HasText) : stage.HasText ∨ shared.documents.get? url ≠ none := by
  cases h with
  | text engine document hdocument => exact Or.inr (by rw [hdocument]; simp)
  | settings | taken | refused | answered | confirmed | dropped | published => exact Or.inl trivial
  | noEngine | engine | noText => exact absurd hafter id

namespace Server

/-- What the editor shows for a document: what was published for it last. -/
def shown (s : Server) (url : Url) : Option (List Diagnostic) :=
  s.journal.findSome? (Event.publishes? url)

namespace Run
variable {start : Server} (e : Run start)

/-! ## The last publication -/

/-- Of what was published for a document before tick `t`, the last was sent in
tick `u`. -/
structure LastPublished (t : Nat) (url : Url) (u : Nat) (sender : Option Origin)
    (ds : List Diagnostic) : Prop where
  before : u < t
  sent : .published sender url ds ∈ e.written u
  last : ∀ w, u < w → w < t → ∀ sender ds, .published sender url ds ∉ e.written w

variable {e}

/-- Not more than one set is published in a tick. -/
theorem findSome?_written {t : Nat} {sender : Option Origin} {url : Url} {ds : List Diagnostic}
    (h : .published sender url ds ∈ e.written t) :
    (e.written t).findSome? (Event.publishes? url) = some ds := by
  obtain ⟨n, turn, hevents, hjournal, _⟩ := e.published_cases h
  rw [e.written_eq hjournal, entries, hevents]
  cases turn.next <;> simp [List.findSome?_cons, Event.publishes?]

theorem exists_published {t : Nat} {url : Url} {ds : List Diagnostic}
    (h : (e.written t).findSome? (Event.publishes? url) = some ds) :
    ∃ sender, .published sender url ds ∈ e.written t := by
  obtain ⟨event, hmem, hevent⟩ := List.exists_of_findSome?_eq_some h
  obtain ⟨sender, rfl⟩ := Event.publishes?_eq_some.mp hevent
  exact ⟨sender, hmem⟩

theorem shown_succ (t : Nat) (url : Url) : (e.state (t + 1)).shown url =
    ((e.written t).findSome? (Event.publishes? url)).or ((e.state t).shown url) := by
  unfold shown
  rw [e.journal_succ, List.findSome?_append]

/-- **The editor shows the last publication.** -/
theorem shown_eq_some_iff (hstart : start.journal = []) {t : Nat} {url : Url}
    {ds : List Diagnostic} :
    (e.state t).shown url = some ds ↔ ∃ u sender, e.LastPublished t url u sender ds := by
  induction t with
  | zero =>
    have hnone : (e.state 0).shown url = none := by rw [e.initial_state, shown, hstart]; rfl
    rw [hnone]
    constructor
    · intro h
      cases h
    · rintro ⟨u, _, hlast⟩
      exact absurd hlast.before (Nat.not_lt_zero u)
  | succ t ih =>
    rw [shown_succ]
    cases hw : (e.written t).findSome? (Event.publishes? url) with
    | some ds' =>
      obtain ⟨sender, hsent⟩ := exists_published hw
      rw [Option.some_or]
      constructor
      · intro h
        cases h
        exact ⟨t, sender, Nat.lt_succ_self t, hsent, fun w htw hw => absurd htw (by omega)⟩
      · rintro ⟨u, sender', hu, hsent', hlast⟩
        by_cases hut : u = t
        · subst hut
          rw [← hw, findSome?_written hsent']
        · exact absurd hsent (hlast t (by omega) (Nat.lt_succ_self t) sender ds')
    | none =>
      have hsilent (sender : Option Origin) (ds' : List Diagnostic) :
          .published sender url ds' ∉ e.written t := by
        intro hsent
        rw [findSome?_written hsent] at hw
        cases hw
      rw [Option.none_or, ih]
      constructor
      · rintro ⟨u, sender, hu, hsent, hlast⟩
        refine ⟨u, sender, Nat.lt_succ_of_lt hu, hsent, ?_⟩
        intro w huw hwt
        by_cases hw' : w = t
        · exact hw' ▸ hsilent
        · exact hlast w huw (by omega)
      · rintro ⟨u, sender, hu, hsent, hlast⟩
        have hut : u ≠ t := by
          rintro rfl
          exact hsilent sender ds hsent
        exact ⟨u, sender, by omega, hsent, fun w huw hwt => hlast w huw (Nat.lt_succ_of_lt hwt)⟩

/-! ## From the closing on -/

variable (e)

/-- In tick `u` a document is taken out of the open ones. -/
def Forgets (u : Nat) (url : Url) : Prop :=
  ∃ n place answer, e.move u = some (.advance n place answer) ∧
    (e.state u).task? n = some (.forget url)

/-- A document was taken out in tick `r`, and not opened again before tick `t`. -/
structure ClosedAt (r t : Nat) (url : Url) : Prop where
  before : r < t
  forgets : e.Forgets r url
  absent : ∀ u, r < u → u ≤ t → (e.state u).shared.documents.get? url = none

/-- In tick `u` a validation of a document holds its text. -/
def HoldsText (u : Nat) (url : Url) (origin : Origin) : Prop :=
  ∃ n stage, (e.state u).Live n ⟨origin, url, stage⟩ ∧ stage.HasText

variable {e}

theorem get?_of_turns {shared : Shared} {number : Nat} {task : Task} {turn : Task.Turn} {url : Url}
    (h : Task.Turns shared number task turn) (hne : task ≠ .forget url)
    (hopen : shared.documents.get? url ≠ none) : turn.shared.documents.get? url ≠ none := by
  cases h with
  | store u document validated =>
    simp only [Documents.get?_put]
    split
    · simp
    · exact hopen
  | forget u =>
    simp only [Task.Turn.goOn, Documents.get?_erase]
    split
    · rename_i hu
      exact absurd (by rw [hu]) hne
    · exact hopen
  | quiet _ _ _ hdocuments => rw [hdocuments]; exact hopen
  | flight | list | tell | showFailure | clear | apply | spawnBatch => exact hopen

/-- An open document stays open until it is taken out. -/
theorem open_succ {u : Nat} {url : Url} (hno : ¬ e.Forgets u url)
    (hopen : (e.state u).shared.documents.get? url ≠ none) :
    (e.state (u + 1)).shared.documents.get? url ≠ none := by
  rcases e.next u with hidle | ⟨m, hm, hstep⟩
  · rw [hidle]; exact hopen
  · cases m with
    | arrive request => rw [step_arrive hstep]; exact hopen
    | fileChanged changed => rw [step_fileChanged hstep, (deliver_rest _ changed).1]; exact hopen
    | abandon n => rw [step_abandon hstep]; exact hopen
    | advance n place answer =>
      obtain ⟨task, turn, htask, hturn, hafter, _⟩ := e.advanced hm
      have hne : task ≠ .forget url := by
        rintro rfl
        exact hno ⟨n, place, answer, hm, htask⟩
      rw [hafter, (shared_after _ n turn).2.2]
      exact get?_of_turns (Task.turns_of_step hturn) hne hopen

theorem open_mono {u t : Nat} {url : Url} (hut : u ≤ t)
    (hno : ∀ w, u ≤ w → w < t → ¬ e.Forgets w url)
    (hopen : (e.state u).shared.documents.get? url ≠ none) :
    (e.state t).shared.documents.get? url ≠ none := by
  obtain ⟨d, rfl⟩ := Nat.exists_eq_add_of_le hut
  clear hut
  induction d with
  | zero => exact hopen
  | succ d ih =>
    have hd := ih fun w huw hwd => hno w huw (Nat.lt_succ_of_lt hwd)
    exact open_succ (hno (u + d) (Nat.le_add_right u d) (Nat.lt_succ_self _)) hd

/-- A document that is absent in the end has been so since it was last taken out. -/
theorem closedAt_of_last {r t : Nat} {url : Url} (hforgets : e.Forgets r url) (hrt : r < t)
    (hlast : ∀ w, r < w → w < t → ¬ e.Forgets w url)
    (hgone : (e.state t).shared.documents.get? url = none) : e.ClosedAt r t url := by
  refine ⟨hrt, hforgets, ?_⟩
  intro u hru hut
  by_cases hopen : (e.state u).shared.documents.get? url = none
  · exact hopen
  · exact absurd hgone (open_mono hut (fun w huw hwt => hlast w (by omega) hwt) hopen)

/-- A validation that holds the text while the document is absent has held it since
the document was taken out. -/
theorem ClosedAt.holdsText {r t u : Nat} {url : Url} {origin : Origin} (h : e.ClosedAt r t url)
    (hru : r < u) (hut : u ≤ t) (hholds : e.HoldsText u url origin) :
    e.HoldsText (r + 1) url origin := by
  obtain ⟨d, rfl⟩ := Nat.exists_eq_add_of_lt hru
  clear hru
  induction d with
  | zero => exact hholds
  | succ d ih =>
    refine ih (by omega) ?_
    obtain ⟨n, stage, hlive, htext⟩ := hholds
    rcases e.live_succ hlive with hold | hnew | ⟨stage', events, hold, hgoes⟩
    · exact ⟨n, stage, hold, htext⟩
    · rw [show stage = .findEngine from hnew] at htext
      exact absurd htext id
    · -- the text cannot be read now, so it was held before
      have habsent := h.absent (r + d + 1) (by omega) (by omega)
      exact ⟨n, stage', hold, (hgoes.hasText htext).resolve_right (absurd habsent)⟩

/-- Unless tasks are given up, a task stays as it is until it moves. -/
theorem moves_or_stays (habandon : ∀ u n, e.move u ≠ some (.abandon n)) {u n : Nat} {task : Task}
    (hpush : ∀ path, push path task = task) (hmem : (n, task) ∈ (e.state u).tasks) {t : Nat}
    (hut : u ≤ t) :
    (∃ w place answer, u ≤ w ∧ w < t ∧ e.move w = some (.advance n place answer) ∧
      (n, task) ∈ (e.state w).tasks) ∨ (n, task) ∈ (e.state t).tasks := by
  obtain ⟨d, rfl⟩ := Nat.exists_eq_add_of_le hut
  clear hut
  induction d with
  | zero => exact Or.inr hmem
  | succ d ih =>
    rcases ih with ⟨w, place, answer, huw, hwd, hrest⟩ | hstill
    · exact Or.inl ⟨w, place, answer, huw, Nat.lt_succ_of_lt hwd, hrest⟩
    · rcases e.stays_succ hpush hstill with ⟨place, answer, hm⟩ | habandoned | hstays
      · exact Or.inl ⟨u + d, place, answer, Nat.le_add_right u d, Nat.lt_succ_self _, hm, hstill⟩
      · exact absurd habandoned (habandon (u + d) n)
      · exact Or.inr hstays

/-! ## What is shown in the end -/

theorem exists_last {P : Nat → Prop} {c t : Nat} (hct : c < t) (hc : P c) :
    ∃ u, c ≤ u ∧ u < t ∧ P u ∧ ∀ w, u < w → w < t → ¬ P w := by
  induction t with
  | zero => exact absurd hct (Nat.not_lt_zero c)
  | succ t ih =>
    by_cases ht : P t
    · exact ⟨t, by omega, Nat.lt_succ_self t, ht, fun w htw hwt => absurd htw (by omega)⟩
    · have hne : c ≠ t := fun he => ht (he ▸ hc)
      obtain ⟨u, hcu, hut, hu, hlast⟩ := ih (by omega)
      refine ⟨u, hcu, Nat.lt_succ_of_lt hut, hu, ?_⟩
      intro w huw hwt
      by_cases hw : w = t
      · exact hw ▸ ht
      · exact hlast w huw (by omega)

/-- After a publication there is a last one. -/
theorem exists_lastPublished {c t : Nat} {url : Url} {sender : Option Origin}
    {ds : List Diagnostic} (hct : c < t) (h : .published sender url ds ∈ e.written c) :
    ∃ u sender ds, c ≤ u ∧ e.LastPublished t url u sender ds := by
  obtain ⟨u, hcu, hut, ⟨sender', ds', hsent⟩, hlast⟩ :=
    exists_last (P := fun u => ∃ sender ds, .published sender url ds ∈ e.written u) hct ⟨_, _, h⟩
  refine ⟨u, sender', ds', hcu, hut, hsent, ?_⟩
  intro w huw hwt sender ds hsent
  exact hlast w huw hwt ⟨sender, ds, hsent⟩

section Settled
variable {config : Config} {e : Run (.initial config)}

/-- A request to close a document takes it out, if nothing runs in the end. -/
theorem forgets_of_close (habandon : ∀ u n, e.move u ≠ some (.abandon n)) {q t : Nat} {url : Url}
    (hclose : e.move q = some (.arrive (.closeDocument url))) (hqt : q < t)
    (hidle : (e.state t).tasks = []) : ∃ w, w < t ∧ e.Forgets w url := by
  have hmem : ((e.state q).fresh, Task.forget url) ∈ (e.state (q + 1)).tasks := by
    rw [step_arrive (e.moved q _ hclose)]
    exact mem_add.mpr (Or.inr ⟨rfl, rfl⟩)
  rcases moves_or_stays habandon (fun _ => rfl) hmem hqt with
    ⟨w, place, answer, _, hwt, hmove, hw⟩ | hstill
  · exact ⟨w, hwt, _, place, answer, hmove, (e.numbered w).task?_eq hw⟩
  · rw [hidle] at hstill
    cases hstill

/-- After a document is taken out, it is cleared, if nothing runs in the end. -/
theorem ClosedAt.clears (habandon : ∀ u n, e.move u ≠ some (.abandon n)) {r t : Nat} {url : Url}
    (h : e.ClosedAt r t url) (hidle : (e.state t).tasks = []) :
    ∃ c, r < c ∧ c < t ∧ .published none url [] ∈ e.written c := by
  obtain ⟨n, place, answer, hmove, hforget⟩ := h.forgets
  obtain ⟨task, turn, htask, hturn, hafter, _⟩ := e.advanced hmove
  cases hforget.symm.trans htask
  have hmem : (n, Task.clear url) ∈ (e.state (r + 1)).tasks := by
    rw [hafter]
    cases answer <;> cases hturn
    exact (mem_after hforget).mpr (Or.inr (Or.inl ⟨rfl, rfl⟩))
  rcases moves_or_stays habandon (fun _ => rfl) hmem h.before with
    ⟨c, place', answer', hrc, hct, hmove', hc⟩ | hstill
  · obtain ⟨task', turn', htask', hturn', _, hwritten⟩ := e.advanced hmove'
    cases ((e.numbered c).task?_eq hc).symm.trans htask'
    refine ⟨c, hrc, hct, ?_⟩
    rw [hwritten]
    cases answer' <;> cases hturn'
    exact List.mem_cons_of_mem _ List.mem_cons_self
  · rw [hidle] at hstill
    cases hstill

end Settled

/-- **What is shown for a closed document.**  Let a document be closed at some time,
and be absent when nothing runs any more.  Then it was taken out for the last time
in some tick `r`, and cleared in a later tick `c`; and nothing is shown for it just
if no validation has the last word with anything to show.  Such a validation would
publish after the clearing, and would have held the text already when the document
was taken out. -/
theorem shows_nothing_iff {config : Config} (e : Run (.initial config))
    (habandon : ∀ u n, e.move u ≠ some (.abandon n)) {q t : Nat} {url : Url}
    (hclose : e.move q = some (.arrive (.closeDocument url))) (hqt : q < t)
    (hgone : (e.state t).shared.documents.get? url = none) (hidle : (e.state t).tasks = []) :
    ∃ r c, e.ClosedAt r t url ∧ r < c ∧ .published none url [] ∈ e.written c ∧
      ((e.state t).shown url = some [] ↔
        ∀ u origin ds, c < u → e.HoldsText (r + 1) url origin →
          e.LastPublished t url u (some origin) ds → ds = []) := by
  -- of all the times the document was taken out, the last is the one that counts
  obtain ⟨w, hwt, hforgets⟩ := forgets_of_close habandon hclose hqt hidle
  obtain ⟨r, _, hrt, hr, hlast⟩ := exists_last (P := fun w => e.Forgets w url) hwt hforgets
  have hclosed := closedAt_of_last hr hrt hlast hgone
  obtain ⟨c, hrc, hct, hclear⟩ := hclosed.clears habandon hidle
  refine ⟨r, c, hclosed, hrc, hclear, ?_⟩
  constructor
  · intro hshown u origin ds _ _ hpublished
    rw [(shown_eq_some_iff rfl).mpr ⟨u, some origin, hpublished⟩] at hshown
    exact Option.some.inj hshown
  · intro hnothing
    obtain ⟨u, sender, ds, hcu, hpublished⟩ := exists_lastPublished hct hclear
    rw [shown_eq_some_iff rfl]
    suffices hds : ds = [] from ⟨u, sender, hds ▸ hpublished⟩
    obtain ⟨n, turn, _, _, ⟨_, _, hds⟩ | ⟨origin, snapshot, finding, hlive, hsender, _⟩⟩ :=
      e.published_cases hpublished.sent
    · exact hds
    · by_cases huc : u = c
      · -- the tick of the clearing has published one set only, the empty one
        subst huc
        have hone := findSome?_written hpublished.sent
        rw [findSome?_written hclear] at hone
        exact (Option.some.inj hone).symm
      · subst hsender
        have hholds : e.HoldsText u url origin := ⟨n, _, hlive, trivial⟩
        have hheld := hclosed.holdsText (by omega) (Nat.le_of_lt hpublished.before) hholds
        exact hnothing u origin ds (by omega) hheld hpublished

end Run

/-! ### A document is closed while the engine is at work

The document is opened, and its text given to the engine.  In tick 12 a request to
close it arrives, in ticks 13 and 14 it is taken out and cleared, and then the
engine's report comes and is published. -/

namespace Sample

/-- The moves. -/
def closingMoves : List Move :=
  opened ++ [.advance 2 0 .proceed, .advance 2 0 .proceed, .advance 2 0 .proceed,
    .advance 2 0 .taken, .arrive (.closeDocument page), .advance 3 0 .proceed,
    .advance 3 0 .proceed, .advance 2 0 (.linted (.ok problem)), .advance 2 0 .proceed,
    .advance 2 0 .proceed]

/-- The run. -/
def closing : Run (.initial .default) := .ofMoves (.initial .default) closingMoves rfl

theorem closing_keeps_on (u n : Nat) : closing.move u ≠ some (.abandon n) := by
  intro h
  have hmem : Move.abandon n ∈ closingMoves := List.mem_of_getElem? h
  simp [closingMoves, opened, handshake] at hmem

theorem closing_arrives : closing.move 12 = some (.arrive (.closeDocument page)) := rfl

theorem closing_last_request {w : Nat} (hw : 12 < w) (request : Request) :
    closing.move w ≠ some (.arrive request) := by
  intro h
  obtain ⟨k, rfl⟩ := Nat.exists_eq_add_of_lt hw
  have hdrop : (closingMoves.drop 13)[k]? = some (.arrive request) := by
    rw [List.getElem?_drop, show 13 + k = 12 + k + 1 by omega]
    exact h
  have hmem := List.mem_of_getElem? hdrop
  simp [closingMoves, opened, handshake] at hmem

theorem closing_shown :
    (closing.state 18).shown page = some (translate (some problem) "standard") := rfl

theorem closing_shows_something : (closing.state 18).shown page ≠ some [] := by
  rw [closing_shown]
  decide

end Sample

namespace Run

/-- In this run a validation has the last word, with a problem to show. -/
theorem shows_nothing_iff_closing :
    (Sample.closing.state 18).shared.documents.get? Sample.page = none ∧
      (Sample.closing.state 18).tasks = [] ∧
      ∃ r u origin ds, Sample.closing.ClosedAt r 18 Sample.page ∧
        Sample.closing.HoldsText (r + 1) Sample.page origin ∧
        Sample.closing.LastPublished 18 Sample.page u (some origin) ds ∧ ds ≠ [] := by
  have hgone : (Sample.closing.state 18).shared.documents.get? Sample.page = none := rfl
  have hidle : (Sample.closing.state 18).tasks = [] := rfl
  refine ⟨hgone, hidle, ?_⟩
  obtain ⟨r, c, hclosed, _, _, hiff⟩ := Sample.closing.shows_nothing_iff Sample.closing_keeps_on
    Sample.closing_arrives (by decide) hgone hidle
  have hnot := mt hiff.mpr Sample.closing_shows_something
  simp only [Classical.not_forall] at hnot
  obtain ⟨u, origin, ds, _, hheld, hpublished, hds⟩ := hnot
  exact ⟨r, u, origin, ds, hclosed, hheld, hpublished, hds⟩

/-- **A closed document can show something**: it is not so that, when nothing runs
any more and a request to close a document was the last request of all, the last
set published for the document is empty. -/
theorem late_publication :
    ¬ ∀ (config : Config) (e : Run (.initial config)) (q t : Nat) (url : Url),
    (∀ u n, e.move u ≠ some (.abandon n)) →
    e.move q = some (.arrive (.closeDocument url)) → q < t →
    (∀ w, q < w → ∀ request, e.move w ≠ some (.arrive request)) →
    (e.state t).shared.documents.get? url = none → (e.state t).tasks = [] →
    (e.state t).shown url = some [] := by
  intro hall
  have hnothing := hall .default Sample.closing 12 18 Sample.page Sample.closing_keeps_on
    Sample.closing_arrives (by decide) (fun _ hw => Sample.closing_last_request hw) rfl rfl
  exact Sample.closing_shows_something hnothing

end Run

end Server

end LintServer
