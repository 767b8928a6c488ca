import LintServer.Proofs.Bridge.Replies
import LintServer.Proofs.Bridge.Requests
import LintServer.Proofs.Server.Amid
import Mathlib.Tactic.IntervalCases

/-! # Validations by a child process

The engine of a package answers with what it finds out about a child: the options are no
object, or the child does not start, or it cannot be talked to, or it ends and leaves
something behind (`NodeEngine.Answers`).  While the settings stand, a validation then has
one course (`NodeEngine.Course`), whatever else happens in the server.

Whether old diagnostics are kept is decided at two places, when the engine refuses the
text and when a call ends with a failure.  `publishes_unless_raised` says that the two
agree: a validation that fails clears the diagnostics just if the failure is not raised,
and one that does not fail publishes the report.
-/
namespace LintServer
open Json Json.Reader Json.Grammar

/-! ## What comes of a child -/

namespace NodeEngine
open Bridge
variable {node : NodeEngine} {start : Command → Except StartError Location} {talk : Conversation}
  {text : String} {opts : Json}

/-- The engine takes texts with such options: they may stand in a request, and the child
starts. -/
def Takes (node : NodeEngine) (start : Command → Except StartError Location) (opts : Json) : Prop :=
  Acceptable opts ∧ ∃ place, start (node.command .lint) = .ok place

/-- **The bridge replied with a report**: a child was started, it ended, and what it wrote is
the reply. -/
structure Reports (node : NodeEngine) (start : Command → Except StartError Location)
    (talk : Conversation) (opts report : Json) : Prop where
  takes : node.Takes start opts
  replied : ∃ output, talk = .finished output ∧
    Sole "report" (fun w => Decodes (depthLimit - 1) w report) output.stdout

theorem exists_accept_iff :
    (∃ sent, node.accept start text opts = .ok sent) ↔ node.Takes start opts := by
  constructor
  · rintro ⟨⟨bytes, place⟩, h⟩
    obtain ⟨haccept, hstart, _⟩ := accept_eq_ok_iff.mp h
    exact ⟨haccept, place, hstart⟩
  · rintro ⟨haccept, place, hstart⟩
    exact ⟨_, accept_eq_ok_iff.mpr ⟨haccept, hstart, rfl⟩⟩

/-- A text that is not taken leaves what was shown before. -/
theorem isRaised_of_accept {error : EngineError} (h : node.accept start text opts = .error error) :
    error.isRaised = true ∧ ¬ node.Takes start opts := by
  refine ⟨?_, fun htakes => ?_⟩
  · unfold accept at h
    cases hopts : Bridge.options opts with
    | error error' =>
      rw [hopts] at h
      cases h
      cases opts <;> cases hopts <;> rfl
    | ok opts' =>
      rw [hopts] at h
      simp only [Except.bind] at h
      split at h <;> cases h
      rfl
  · obtain ⟨sent, hsent⟩ := exists_accept_iff.mpr htakes
    rw [hsent] at h
    cases h

/-- A call has a report just if the child wrote one. -/
theorem finish_eq_ok_iff {report : Json} : finish talk = .ok report ↔
    ∃ output, talk = .finished output ∧
      Sole "report" (fun w => Decodes (depthLimit - 1) w report) output.stdout := by
  have hparse (output : ChildOutput) : outcome output = .ok report ↔
      Sole "report" (fun w => Decodes (depthLimit - 1) w report) output.stdout := by
    have hreply : Reply.parse output.stdout = .ok (.report report) ↔ _ := Bridge.parse_eq_ok_iff
    refine Iff.trans ?_ hreply
    by_cases hsilent : output.stdout = []
    · rw [outcome_of_silent hsilent, hsilent]
      exact iff_of_false nofun nofun
    · exact (outcome_iff hsilent).1 report
  cases talk with
  | broken error => exact iff_of_false nofun (by rintro ⟨_, ⟨⟩, _⟩)
  | finished output =>
    refine (hparse output).trans ⟨fun h => ⟨output, rfl, h⟩, ?_⟩
    rintro ⟨_, ⟨⟩, h⟩
    exact h

theorem reports_iff {report : Json} : node.Reports start talk opts report ↔
    node.Takes start opts ∧ finish talk = .ok report := by
  rw [finish_eq_ok_iff]
  exact ⟨fun h => ⟨h.takes, h.replied⟩, fun h => ⟨h.1, h.2⟩⟩

/-! ## The course of a validation -/

/-- **How the engine answers a validation** at some stage. -/
def Answers (node : NodeEngine) (start : Command → Except StartError Location)
    (talk : Conversation) : Stage → Answer → Prop
  | .callEngine snapshot, .taken =>
    ∃ sent, node.accept start snapshot.text snapshot.settings.options = .ok sent
  | .callEngine snapshot, .refused error =>
    node.accept start snapshot.text snapshot.settings.options = .error error
  | .awaitReport _, .linted result => result = finish talk
  | _, _ => True

/-- The engine answers the validation of each document, with what becomes of the child
started for it. -/
def Serves (node : NodeEngine) (start : Url → Command → Except StartError Location)
    (talk : Url → Conversation) (v : Validation) (answer : Answer) : Prop :=
  node.Answers (start v.url) (talk v.url) v.stage answer

/-- The engine has an answer at every stage. -/
theorem exists_serves (node : NodeEngine) (start : Url → Command → Except StartError Location)
    (talk : Url → Conversation) (shared : Shared) {v : Validation}
    (h : v.stage.isEnded = false) : ∃ answer v' events, node.Serves start talk v answer ∧
      v.step shared answer = some (v', events) := by
  cases hstage : v.stage with
  | callEngine snapshot =>
    cases haccept : node.accept (start v.url) snapshot.text snapshot.settings.options with
    | error error =>
      exact ⟨.refused error, _, _, by rw [Serves, hstage]; exact haccept,
        by simp only [Validation.step, hstage]; rfl⟩
    | ok sent =>
      exact ⟨.taken, _, _, by rw [Serves, hstage]; exact ⟨sent, haccept⟩,
        by simp only [Validation.step, hstage]; rfl⟩
  | awaitReport snapshot =>
    exact ⟨.linted (finish (talk v.url)), _, _, by rw [Serves, hstage]; rfl,
      by simp only [Validation.step, hstage]; rfl⟩
  | _ =>
    -- at the other stages any answer will do
    obtain ⟨answer, v', events, _, hstep⟩ := v.can_step shared (.ends (.ok .null)) h
    exact ⟨answer, v', events, by rw [Serves, hstage]; trivial, hstep⟩

section Course
variable (node : NodeEngine) (start : Command → Except StartError Location) (talk : Conversation)
  (engine : Engine) (settings : Settings) (url : Url)

/-- No failure of the call is raised. -/
def Untroubled : Prop := ∀ error, finish talk = .error error → error.isRaised = false

/-- **The course of a validation** under settings that stand: the stage it has come to, and
what it has published. -/
inductive Course : Stage → List (Url × List Diagnostic) → Prop
  | findEngine : Course .findEngine []
  | readText : Course (.readText engine) []
  | readSettings (text : String) : Course (.readSettings engine text) []
  | callEngine (text : String) : Course (.callEngine ⟨engine, text, settings⟩) []
  | awaitReport (text : String) (htakes : node.Takes start settings.options) :
    Course (.awaitReport ⟨engine, text, settings⟩) []
  | compareSettings (text : String) (htakes : node.Takes start settings.options)
    (hcall : Untroubled talk) :
    Course (.compareSettings ⟨engine, text, settings⟩ (.ofResult (finish talk))) []
  | publish (text : String) (htakes : node.Takes start settings.options)
    (hcall : Untroubled talk) :
    Course (.publish ⟨engine, text, settings⟩ (.ofResult (finish talk))) []
  | refused (text : String) (error : EngineError)
    (h : node.accept start text settings.options = .error error) : Course (.ended (some error)) []
  | raised (error : EngineError) (htakes : node.Takes start settings.options)
    (h : finish talk = .error error) (hraised : error.isRaised = true) :
    Course (.ended (some error)) []
  | published (htakes : node.Takes start settings.options) (hcall : Untroubled talk) :
    Course (.ended (Finding.ofResult (finish talk)).failure?)
      [(url, translate (Finding.ofResult (finish talk)).report? engine.name)]

/-- What a validation may write on its course. -/
def Fits : Event → Prop
  | .took _ _ _ => True
  | .called _ _ _ opts => opts = settings.options
  | .refused _ error => ∃ text, node.accept start text settings.options = .error error
  | .answered _ finding =>
    node.Takes start settings.options ∧ finding = .ofResult (finish talk)
  | .published _ _ _ => node.Takes start settings.options
  | _ => False

end Course

end NodeEngine

/-- **What a validation relies on**: the settings stand, the engine is there when it looks
for one, and the document is open when it reads the text. -/
structure Validation.Relies (engine : Engine) (settings : Settings) (v : Validation)
    (shared : Shared) : Prop where
  stands : shared.settings = settings
  loaded : v.stage = .findEngine → shared.phase.engine? = some engine
  opened : ∀ engine', v.stage = .readText engine' → shared.documents.get? v.url ≠ none

namespace NodeEngine
variable {node : NodeEngine} {start : Command → Except StartError Location} {talk : Conversation}
  {engine : Engine} {settings : Settings} {shared : Shared}

/-- **A step keeps to the course**, and writes what fits it. -/
theorem Course.step (henabled : settings.enabled = true) {answer : Answer} {v v' : Validation}
    {events : List Event} {published : List (Url × List Diagnostic)}
    (h : Course node start talk engine settings v.url v.stage published)
    (hrelies : v.Relies engine settings shared) (hanswers : node.Answers start talk v.stage answer)
    (hstep : v.step shared answer = some (v', events)) :
    Course node start talk engine settings v.url v'.stage
        (published ++ events.filterMap Event.publication?) ∧
      ∀ event ∈ events, Fits node start talk settings event := by
  obtain ⟨origin, url, stage⟩ := v
  obtain ⟨hstands, hloaded, hopened⟩ := hrelies
  dsimp only at h hloaded hopened hanswers ⊢
  cases h with
  | findEngine =>
    cases answer <;> simp only [Validation.step, hloaded rfl] at hstep <;> cases hstep
    exact ⟨.readText, by simp⟩
  | readText =>
    obtain ⟨document, hdocument⟩ := Option.ne_none_iff_exists'.mp (hopened engine rfl)
    cases answer <;> simp only [Validation.step, hdocument] at hstep <;> cases hstep
    exact ⟨.readSettings document.text, by simp⟩
  | readSettings text =>
    cases answer <;> cases hstep
    simp only [Stage.afterReading, hstands, henabled, if_true]
    exact ⟨.callEngine text, by simp [Fits]⟩
  | callEngine text =>
    cases answer <;> cases hstep
    · exact ⟨.awaitReport text (exists_accept_iff.mp hanswers), by simp [Fits]⟩
    · rename_i error
      exact ⟨.refused text error hanswers, by simpa [Fits] using ⟨text, hanswers⟩⟩
  | awaitReport text htakes =>
    cases answer <;> cases hstep
    cases hanswers
    refine ⟨?_, by simpa [Fits] using htakes⟩
    -- a raised failure ends the validation, anything else is compared with the settings
    by_cases hcall : Untroubled talk
    · have hstage : Stage.afterAnswer ⟨engine, text, settings⟩ (.ofResult (finish talk)) =
          .compareSettings ⟨engine, text, settings⟩ (.ofResult (finish talk)) := by
        cases hresult : finish talk with
        | ok report => rfl
        | error error => simp [Finding.ofResult, Stage.afterAnswer, hcall error hresult]
      rw [hstage]
      exact .compareSettings text htakes hcall
    · obtain ⟨error, hresult, hraised⟩ : ∃ error, finish talk = .error error ∧
          error.isRaised = true := by
        simpa [Untroubled] using hcall
      simp only [hresult, Finding.ofResult, Stage.afterAnswer, hraised, if_true]
      exact .raised error htakes hresult hraised
  | compareSettings text htakes hcall =>
    cases answer <;> simp only [Validation.step, hstands, if_true] at hstep <;> cases hstep
    exact ⟨.publish text htakes hcall, by simp⟩
  | publish text htakes hcall =>
    cases answer <;> cases hstep
    exact ⟨.published htakes hcall, by simpa [Fits] using htakes⟩
  | refused | raised | published => cases answer <;> cases hstep

/-- **Where the course ends**: without failure there is a report and it is published; a
failure clears what was published before, unless it is raised. -/
theorem Course.ended {url : Url} {failure : Option EngineError}
    {published : List (Url × List Diagnostic)}
    (h : Course node start talk engine settings url (.ended failure) published) :
    (failure = none ↔ ∃ report, node.Reports start talk settings.options report) ∧
    (∀ report, node.Reports start talk settings.options report →
      published = [(url, translate (some report) engine.name)]) ∧
    ∀ error, failure = some error → published = if error.isRaised then [] else [(url, [])] := by
  simp only [reports_iff]
  cases h with
  | refused text error haccept =>
    obtain ⟨hraised, hnot⟩ := isRaised_of_accept haccept
    refine ⟨by simp [hnot], fun report hreport => absurd hreport.1 hnot, ?_⟩
    rintro _ ⟨⟩
    rw [hraised, if_pos rfl]
  | raised error htakes hresult hraised =>
    refine ⟨by simp [hresult], fun report hreport => ?_, ?_⟩
    · rw [hresult] at hreport
      cases hreport.2
    · rintro _ ⟨⟩
      rw [hraised, if_pos rfl]
  | published htakes hcall =>
    cases hresult : finish talk with
    | ok report =>
      refine ⟨by simp [Finding.ofResult, Finding.failure?, htakes], ?_, fun _ h => by cases h⟩
      rintro _ ⟨_, ⟨⟩⟩
      rfl
    | error error =>
      refine ⟨by simp [Finding.ofResult, Finding.failure?], (fun _ h => by cases h.2), ?_⟩
      rintro _ ⟨⟩
      rw [hcall error hresult]
      rfl

end NodeEngine

/-! ## The two places agree -/

/-- What a task relies on for its validations. -/
def Task.Undisturbed (engine : Engine) (settings : Settings) (task : Task) (shared : Shared) :
    Prop :=
  ∀ v ∈ task.flights, v.Relies engine settings shared

namespace NodeEngine
variable {node : NodeEngine} {start : Command → Except StartError Location} {talk : Conversation}
  {engine : Engine} {settings : Settings} {url : Url}

/-- A task that validates a document is on its course, so many steps before its end. -/
def Validates (node : NodeEngine) (start : Command → Except StartError Location)
    (talk : Conversation) (engine : Engine) (settings : Settings) (url : Url) (rank : Nat)
    (task : Task) (written : List Event) : Prop :=
  ∃ v : Validation, task = .validate v ∧ v.url = url ∧ v.stage.rank = rank ∧
    v.stage.isEnded = false ∧
    Course node start talk engine settings url v.stage (written.filterMap Event.publication?)

/-- The course leads a validation to its end. -/
theorem Course.led (henabled : settings.enabled = true) (n : Nat) :
    Task.Led n (node.Serves (fun _ => start) fun _ => talk) (Task.Undisturbed engine settings)
      (fun written outcome => ∃ failure, outcome = .validation failure ∧
        Course node start talk engine settings url (.ended failure)
          (written.filterMap Event.publication?))
      (Validates node start talk engine settings url) where
  unreached := by
    rintro rank task written ⟨v, rfl, _⟩ path
    rfl
  can := by
    rintro rank task written ⟨v, rfl, _, _, hgoing, _⟩ config shared _
    obtain ⟨answer, v', events, hserves, hstep⟩ :=
      node.exists_serves (fun _ => start) (fun _ => talk) shared hgoing
    refine ⟨0, answer, ⟨shared, Task.afterValidate v', none, events⟩, ?_, ?_⟩
    · rintro _ ⟨⟩
      exact hserves
    · rw [Task.step, hstep]
      rfl
  step := by
    rintro rank task written ⟨v, rfl, rfl, rfl, _, hcourse⟩ config shared place answer turn hrely
      hagrees hturn
    obtain ⟨⟨v', events⟩, hstep, rfl⟩ := Option.map_eq_some_iff.mp hturn
    have hrelies : v.Relies engine settings shared := hrely v (List.mem_singleton_self v)
    obtain ⟨hcourse', _⟩ := hcourse.step henabled hrelies (hagrees v rfl) hstep
    rw [← List.filterMap_append] at hcourse'
    obtain ⟨_, hurl, hgoes⟩ := Validation.goes hstep
    dsimp only
    rcases Task.afterValidate_cases v' with ⟨failure, hended, hnext⟩ | ⟨hgoing, hnext⟩
    · rw [hnext]
      rw [hended] at hcourse'
      exact ⟨failure, rfl, hcourse'⟩
    · rw [hnext]
      exact ⟨v'.stage.rank, hgoes.rank_lt, v', rfl, hurl, rfl, hgoing, hcourse'⟩

end NodeEngine

namespace Server.Run

/-- **A failed validation clears the diagnostics just if the failure is not raised.**

A document is validated by a child process, under settings that have validation switched
on and stand meanwhile; others may open, change and close documents.  However starting
the child and talking to it go, the validation ends.  It does so without failure just if
the bridge replied with a report, and then it publishes what the report says, and nothing
else.  If it fails it publishes the empty set, once, or nothing at all when the failure is
raised: no matter whether the engine refused the text or the call ended so. -/
theorem publishes_unless_raised {config : Config} (e : Run (.initial config)) {t n : Nat}
    {url : Url} {node : NodeEngine} {start : Command → Except StartError Location}
    {talk : Conversation} {engine : Engine} {settings : Settings} (hname : engine.name = node.name)
    (henabled : settings.enabled = true)
    (htask : (e.state t).task? n = some (.ofRequest n (.validate url)))
    (hamid : e.Amid t n (node.Serves (fun _ => start) fun _ => talk)
      (Task.Undisturbed engine settings)) :
    e.Completes t n fun written outcome => ∃ failure, outcome = .validation failure ∧
      (failure = none ↔ ∃ report, node.Reports start talk settings.options report) ∧
      (∀ report, node.Reports start talk settings.options report →
        written.filterMap Event.publication? = [(url, translate (some report) node.name)]) ∧
      ∀ error, failure = some error →
        written.filterMap Event.publication? = if error.isRaised then [] else [(url, [])] := by
  have hstart : node.Validates start talk engine settings url 7 (.ofRequest n (.validate url)) [] :=
    ⟨.start ⟨n, 0, 0⟩ url, rfl, rfl, rfl, rfl, .findEngine⟩
  refine (hamid.completes (NodeEngine.Course.led henabled n) htask hstart).mono ?_
  rintro written outcome ⟨failure, rfl, hcourse⟩
  rw [← hname]
  exact ⟨failure, rfl, hcourse.ended⟩

end Server.Run

/-! ### A document is closed while it is validated

The validation is task 2.  It has read the text when the document is closed by task 3, and
the child's report is published all the same. -/

namespace Server

namespace Sample

/-- The engine of a package. -/
def packaged : NodeEngine := ⟨"node", ⟨"standard", .ofString "/m/standard", none⟩⟩

/-- What a child wrote that found one problem. -/
def replied : Conversation :=
  .finished ⟨.code 0, [123, 34, 114, 101, 112, 111, 114, 116, 34, 58, 123, 34, 114, 101, 115, 117,
    108, 116, 115, 34, 58, 91, 123, 34, 109, 101, 115, 115, 97, 103, 101, 115, 34, 58, 91, 123, 125,
    93, 125, 93, 125, 125], []⟩

/-- Whether a call has found that problem. -/
def foundProblem : Except EngineError Json → Bool
  | .ok (.object [("results", .array [.object [("messages", .array [.object []])]])]) => true
  | _ => false

theorem finish_replied : NodeEngine.finish replied = .ok problem := by
  -- results cannot be compared as a whole, so what is decided is the shape of the result
  have hshape : foundProblem (NodeEngine.finish replied) = true := by decide +kernel
  unfold foundProblem at hshape
  split at hshape
  next h => exact h
  next => cases hshape

/-- The moves. -/
def interleavedMoves : List Move :=
  handshake ++ [.arrive (.storeDocument page ⟨"a;", 1⟩), .advance 1 0 .proceed,
    .arrive (.validate page), .advance 2 0 .proceed, .advance 2 0 .proceed,
    .arrive (.closeDocument page), .advance 3 0 .proceed, .advance 2 0 .proceed,
    .advance 2 0 .taken, .advance 3 0 .proceed, .advance 2 0 (.linted (.ok problem)),
    .advance 2 0 .proceed, .advance 2 0 .proceed]

/-- The run. -/
def interleaved : Run (.initial .default) := .ofMoves (.initial .default) interleavedMoves rfl

theorem interleaved_undisturbed {u : Nat} {task : Task} (hlow : 9 ≤ u) (hhigh : u < 19)
    (htask : (interleaved.state u).task? 2 = some task) :
    task.Undisturbed ⟨"standard", 0⟩ .default (interleaved.state u).shared := by
  intro v hv
  interval_cases u
  all_goals
    cases htask
    cases List.mem_singleton.mp hv
    refine ⟨rfl, fun _ => rfl, ?_⟩
    rintro _ ⟨⟩
  -- the text is read in tick 10, when the document is open
  exact nofun

theorem interleaved_answers {u place : Nat} {answer : Answer} {task : Task} (hlow : 9 ≤ u)
    (hhigh : u < 19) (hmove : interleaved.move u = some (.advance 2 place answer))
    (htask : (interleaved.state u).task? 2 = some task) :
    task.Agrees (packaged.Serves (fun _ _ => .ok []) fun _ => replied) place answer := by
  interval_cases u
  all_goals cases hmove
  all_goals
    cases htask
    rintro v ⟨⟩
  case «14».refl.refl => exact ⟨_, rfl⟩
  case «16».refl.refl => exact finish_replied.symm
  all_goals trivial

theorem interleaved_amid :
    interleaved.Amid 9 2 (packaged.Serves (fun _ _ => .ok []) fun _ => replied)
      (Task.Undisturbed ⟨"standard", 0⟩ .default) := by
  have hgone : (interleaved.state 19).task? 2 = none := rfl
  refine .of_ended (by decide) hgone fun u task hlow hhigh htask => ⟨?_, ?_, ?_⟩
  · exact interleaved_undisturbed hlow hhigh htask
  · interval_cases u <;> nofun
  · intro place answer hmove
    exact interleaved_answers hlow hhigh hmove htask

end Sample

/-- The report is published, though the document is closed by then. -/
theorem Run.publishes_unless_raised_closed :
    (Sample.interleaved.state 9).task? 2 = some (.ofRequest 2 (.validate Sample.page)) ∧
    (Sample.interleaved.state 13).shared.documents.get? Sample.page = none ∧
    Sample.packaged.Reports (fun _ => .ok []) Sample.replied .empty Sample.problem ∧
    Sample.interleaved.Completes 9 2 fun written outcome =>
      outcome = .validation none ∧ written.filterMap Event.publication? =
        [(Sample.page, translate (some Sample.problem) "standard")] := by
  have htask : (Sample.interleaved.state 9).task? 2 =
    some (.ofRequest 2 (.validate Sample.page)) := rfl
  have hreports : Sample.packaged.Reports (fun _ => .ok []) Sample.replied .empty Sample.problem :=
    NodeEngine.reports_iff.mpr ⟨⟨Or.inr rfl, [], rfl⟩, Sample.finish_replied⟩
  refine ⟨htask, rfl, hreports, ?_⟩
  refine (publishes_unless_raised Sample.interleaved rfl rfl htask Sample.interleaved_amid).mono ?_
  rintro written outcome ⟨failure, rfl, hnone, hpublished, _⟩
  cases hnone.mpr ⟨Sample.problem, hreports⟩
  exact ⟨rfl, hpublished Sample.problem hreports⟩

end Server

end LintServer
