import LintServer.Proofs.Bridge.Replies
import LintServer.Proofs.SearchDirs

/-! # Loading an engine

An engine is loaded from the package that is found (`NodeLoader.Picks`), if its probe says
that it can lint texts.  A probe `Replies` only if it ended well and all it wrote is one
answer; whatever else may happen to it is a `Reason` why the package does not load, and a
reason is never blank.  `NodeLoader.Loads` lists what loading can come to, and
`NodeLoader.loads_load` says that there is nothing else.
-/
namespace LintServer

namespace Text

theorem trim_ne_empty {s : String} {c : Char} (hmem : c ∈ s.toList) (hc : isBlank c = false) :
    trim s ≠ "" := by
  rw [Ne, trim_eq_empty_iff, isBlankText, List.all_eq_true]
  intro hall
  rw [hall c hmem] at hc
  cases hc

end Text

/-! ## Probes -/

namespace NodeEngine
open Json Json.Grammar Bridge

/-- **The answer to a probe**: a record whose field `lintText` is a truth value, with nothing
but blanks around it. -/
def Attests (stdout : List UInt8) (b : Bool) : Prop :=
  Entire (probeReply.Written fun w b => Scalar w (.bool b)) stdout b

theorem parse_probeReply_eq_ok_iff {stdout : List UInt8} {b : Bool} :
    probeReply.parse stdout = .ok b ↔ Attests stdout b :=
  Record.parse_eq_ok_iff reads_truth

/-- **A probe that says whether the package can lint texts**: it ended well, and all it wrote
is its answer. -/
def Replies (outcome : Except StartError ChildOutput) (b : Bool) : Prop :=
  ∃ output, outcome = .ok output ∧ output.status = .code 0 ∧ Attests output.stdout b

/-- **Why a package does not load**: its probe did not start, or it failed and complained, or
it failed without a word, or what it wrote is no answer. -/
inductive Reason : Except StartError ChildOutput → String → Prop
  | start (error : StartError) : Reason (.error error) error.text
  | complaint {output : ChildOutput} {reason : String} (hstatus : output.status ≠ .code 0)
    (hwords : Trimmed (Utf8.lossy output.stderr).toList (some reason)) : Reason (.ok output) reason
  | status {output : ChildOutput} (hstatus : output.status ≠ .code 0)
    (hblank : Trimmed (Utf8.lossy output.stderr).toList none) :
    Reason (.ok output) ("node exited with " ++ output.status.text)
  | reply {output : ChildOutput} {fault : Fault} (hstatus : output.status = .code 0)
    (hfault : probeReply.parse output.stdout = .error fault) :
    Reason (.ok output) ("unexpected probe reply: " ++ fault.text output.stdout)

theorem Replies.unique {outcome : Except StartError ChildOutput} {b b' : Bool}
    (h : Replies outcome b) (h' : Replies outcome b') : b = b' := by
  obtain ⟨output, rfl, -, hanswer⟩ := h
  obtain ⟨_, heq, -, hanswer'⟩ := h'
  cases heq
  rw [← parse_probeReply_eq_ok_iff] at hanswer hanswer'
  cases hanswer.symm.trans hanswer'
  rfl

/-- A probe that replies gives no reason. -/
theorem Reason.not_replies {outcome : Except StartError ChildOutput} {reason : String} {b : Bool}
    (h : Reason outcome reason) : ¬ Replies outcome b := by
  rintro ⟨output, rfl, hended, hanswer⟩
  cases h with
  | complaint hstatus _ => exact hstatus hended
  | status hstatus _ => exact hstatus hended
  | reply _ hfault => cases hfault.symm.trans (parse_probeReply_eq_ok_iff.mpr hanswer)

/-- **A reason is never blank.** -/
theorem Reason.trim_ne_empty {outcome : Except StartError ChildOutput} {reason : String}
    (h : Reason outcome reason) : Text.trim reason ≠ "" := by
  cases h with
  | start error =>
    cases error with
    | zeroByte => decide +kernel
    | system error =>
      refine Text.trim_ne_empty (c := ')') ?_ (by decide)
      simp [StartError.text, SystemError.text]
  | complaint _ hwords =>
    generalize (Utf8.lossy _).toList = cs at hwords
    cases hwords with
    | words _ _ hne hhead _ =>
      cases hchars : reason.toList with
      | nil => exact absurd (String.toList_eq_nil_iff.mp hchars) hne
      | cons c more =>
        have hmem : c ∈ reason.toList := by rw [hchars]; exact List.mem_cons_self
        exact Text.trim_ne_empty hmem (hhead c (by rw [hchars]; rfl))
  | status => exact Text.trim_ne_empty (c := 'n') (by simp) (by decide)
  | reply => exact Text.trim_ne_empty (c := 'u') (by simp) (by decide)

/-- What comes of a probe. -/
theorem judge_cases (engine : NodeEngine) (outcome : Except StartError ChildOutput) :
    (Replies outcome true ∧ engine.judge outcome = .ok ()) ∨
    (Replies outcome false ∧ engine.judge outcome = .error (.missingLintText engine.name)) ∨
    ∃ reason, Reason outcome reason ∧
      engine.judge outcome = .error (.unloadable engine.name engine.node reason) := by
  cases outcome with
  | error error => exact .inr (.inr ⟨_, .start error, rfl⟩)
  | ok output =>
    by_cases hstatus : output.status = .code 0
    · have hsuccess : output.status.success = true := by rw [hstatus]; rfl
      cases hparse : probeReply.parse output.stdout with
      | error fault =>
        refine .inr (.inr ⟨_, .reply hstatus hparse, ?_⟩)
        simp [judge, hsuccess, hparse]
      | ok b =>
        have hreplies : Replies (.ok output) b :=
          ⟨output, rfl, hstatus, parse_probeReply_eq_ok_iff.mp hparse⟩
        cases b with
        | true => exact .inl ⟨hreplies, by simp [judge, hsuccess, hparse]⟩
        | false => exact .inr (.inl ⟨hreplies, by simp [judge, hsuccess, hparse]⟩)
    · have hjudge : engine.judge (.ok output) = .error (.unloadable engine.name engine.node
          ((complaint output).getD ("node exited with " ++ output.status.text))) := by
        simp [judge, ExitStatus.success, hstatus]
      have hwords := trimmed_complaint output
      refine .inr (.inr ⟨_, ?_, hjudge⟩)
      cases hcomplaint : complaint output with
      | none => exact .status hstatus (hcomplaint ▸ hwords)
      | some reason => exact .complaint hstatus (hcomplaint ▸ hwords)

end NodeEngine

/-! ## Loads -/

namespace NodeLoader
open NodeEngine

variable {loader : NodeLoader} {files : Files} {root : Option Path} {engine : NodeEngine}

theorem Picks.name_eq (h : loader.Picks files root engine) : engine.name = loader.name :=
  (Package.map_find?_eq_some_iff.mp h.1).name

theorem Picks.unique {engine' : NodeEngine} (h : loader.Picks files root engine)
    (h' : loader.Picks files root engine') : engine = engine' := by
  rw [← engine?_eq_some_iff] at h h'
  exact Option.some.inj (h.symm.trans h')

variable {probe : NodeEngine → Except StartError ChildOutput}

/-- **What loading can come to**, and when. -/
inductive Loads (loader : NodeLoader) (files : Files) (root : Option Path)
    (probe : NodeEngine → Except StartError ChildOutput) : Except LoadError NodeEngine → Prop
  | nothing (hnone : Package.find? files loader.name root loader.dirs = none) :
    Loads loader files root probe (.error (.notFound loader.name))
  | able {engine : NodeEngine} (hpicks : loader.Picks files root engine)
    (hreplies : Replies (probe engine) true) : Loads loader files root probe (.ok engine)
  | unable {engine : NodeEngine} (hpicks : loader.Picks files root engine)
    (hreplies : Replies (probe engine) false) :
    Loads loader files root probe (.error (.missingLintText loader.name))
  | failed {engine : NodeEngine} {reason : String} (hpicks : loader.Picks files root engine)
    (hreason : Reason (probe engine) reason) :
    Loads loader files root probe (.error (.unloadable loader.name loader.node reason))

theorem loads_load (loader : NodeLoader) (files : Files) (root : Option Path)
    (probe : NodeEngine → Except StartError ChildOutput) :
    Loads loader files root probe (loader.load files root probe) := by
  rw [load]
  cases hengine : loader.engine? files root with
  | none => exact .nothing (Option.map_eq_none_iff.mp hengine)
  | some engine =>
    have hpicks := engine?_eq_some_iff.mp hengine
    obtain ⟨hreplies, hjudge⟩ | ⟨hreplies, hjudge⟩ | ⟨reason, hreason, hjudge⟩ :=
      engine.judge_cases (probe engine)
    · simp only [hjudge]
      exact .able hpicks hreplies
    · simp only [hjudge, hpicks.name_eq]
      exact .unable hpicks hreplies
    · simp only [hjudge, hpicks.name_eq, hpicks.2]
      exact .failed hpicks hreason

/-- A probe that replies decides. -/
theorem Picks.load_of_replies (hpicks : loader.Picks files root engine) {b : Bool}
    (hreplies : Replies (probe engine) b) : loader.load files root probe =
      if b then .ok engine else .error (.missingLintText loader.name) := by
  have hloads := loads_load loader files root probe
  generalize loader.load files root probe = result at hloads
  cases hloads with
  | nothing hnone => cases hnone.symm.trans hpicks.1
  | able hpicks' hreplies' =>
    cases hpicks.unique hpicks'
    cases hreplies.unique hreplies'
    rfl
  | unable hpicks' hreplies' =>
    cases hpicks.unique hpicks'
    cases hreplies.unique hreplies'
    rfl
  | failed hpicks' hreason =>
    cases hpicks.unique hpicks'
    exact absurd hreplies hreason.not_replies

/-- **An engine is loaded** just if the package that is found can lint texts. -/
theorem load_eq_ok_iff : loader.load files root probe = .ok engine ↔
    loader.Picks files root engine ∧ Replies (probe engine) true := by
  constructor
  · intro hload
    have hloads := loads_load loader files root probe
    rw [hload] at hloads
    cases hloads with
    | able hpicks hreplies => exact ⟨hpicks, hreplies⟩
  · rintro ⟨hpicks, hreplies⟩
    exact hpicks.load_of_replies hreplies

theorem load_eq_notFound_iff {name : String} :
    loader.load files root probe = .error (.notFound name) ↔
      name = loader.name ∧ Package.find? files loader.name root loader.dirs = none := by
  have hloads := loads_load loader files root probe
  constructor
  · intro hload
    rw [hload] at hloads
    cases hloads with
    | nothing hnone => exact ⟨rfl, hnone⟩
  · rintro ⟨rfl, hnone⟩
    generalize loader.load files root probe = result at hloads
    cases hloads with
    | nothing _ => rfl
    | able hpicks _ => cases hnone.symm.trans hpicks.1
    | unable hpicks _ => cases hnone.symm.trans hpicks.1
    | failed hpicks _ => cases hnone.symm.trans hpicks.1

theorem load_eq_missingLintText_iff {name : String} :
    loader.load files root probe = .error (.missingLintText name) ↔
      name = loader.name ∧ ∃ engine, loader.Picks files root engine ∧
        Replies (probe engine) false := by
  constructor
  · intro hload
    have hloads := loads_load loader files root probe
    rw [hload] at hloads
    cases hloads with
    | unable hpicks hreplies => exact ⟨rfl, _, hpicks, hreplies⟩
  · rintro ⟨rfl, engine, hpicks, hreplies⟩
    exact hpicks.load_of_replies hreplies

/-- What is said of a package that does not load. -/
theorem reason_of_load {name program reason : String}
    (hload : loader.load files root probe = .error (.unloadable name program reason)) :
    name = loader.name ∧ program = loader.node ∧
      ∃ engine, loader.Picks files root engine ∧ Reason (probe engine) reason := by
  have hloads := loads_load loader files root probe
  rw [hload] at hloads
  cases hloads with
  | failed hpicks hreason => exact ⟨rfl, rfl, _, hpicks, hreason⟩

/-- The package does not load in every other case. -/
theorem load_eq_unloadable_iff :
    (∃ name program reason,
      loader.load files root probe = .error (.unloadable name program reason)) ↔
      ∃ engine, loader.Picks files root engine ∧ ∀ b, ¬ Replies (probe engine) b := by
  constructor
  · rintro ⟨name, program, reason, hload⟩
    obtain ⟨-, -, engine, hpicks, hreason⟩ := reason_of_load hload
    exact ⟨engine, hpicks, fun b => hreason.not_replies⟩
  · rintro ⟨engine, hpicks, hnone⟩
    have hloads := loads_load loader files root probe
    generalize loader.load files root probe = result at hloads
    cases hloads with
    | nothing hmissing => cases hmissing.symm.trans hpicks.1
    | able hpicks' hreplies =>
      cases hpicks.unique hpicks'
      exact absurd hreplies (hnone true)
    | unable hpicks' hreplies =>
      cases hpicks.unique hpicks'
      exact absurd hreplies (hnone false)
    | failed _ _ => exact ⟨_, _, _, rfl⟩

end NodeLoader
end LintServer
