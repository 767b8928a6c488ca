import LintServer.Proofs.Server.Flight
import LintServer.Proofs.Settings

/-! # Stale diagnostics

A validation looks at the settings a second time before it publishes, and drops
what it has found if their generation is no longer the one it read.  The look and
the publication are two steps, and other tasks may move between them.  So new
settings can come into force after the look, and what was found under the old ones
is published all the same (`stale_publication`).

How it can happen is said exactly by `publication_current_iff`: generations are
counted from the look on, push by push (`generation_add`), and a set of
diagnostics is out of date when it is sent unless the number of pushes since the
look is a multiple of `UInt64.size`, where the count of generations starts again.
-/
namespace LintServer

/-- A validation comes to publish from a look at the settings, which had the
generation it read. -/
theorem Stage.Goes.to_publish {shared : Shared} {origin : Origin} {url : Url} {stage : Stage}
    {snapshot : Snapshot} {finding : Finding} {events : List Event}
    (h : Stage.Goes shared origin url stage (.publish snapshot finding) events) :
    stage = .compareSettings snapshot finding ∧
      shared.settings.generation = snapshot.settings.generation := by
  generalize hto : Stage.publish snapshot finding = stage' at h
  cases h with
  | confirmed snapshot' finding' hsame =>
    cases hto
    exact ⟨rfl, hsame⟩
  | settings engine text =>
    unfold Stage.afterReading at hto
    split at hto <;> cases hto
  | answered snapshot' result =>
    cases result with
    | ok value => cases hto
    | error error =>
      simp only [Finding.ofResult, Stage.afterAnswer] at hto
      split at hto <;> cases hto
  | _ => cases hto

namespace Server

/-! ## Counting pushes -/

/-- Whether a move puts new settings into force. -/
def applies (s : Server) : Move → Bool
  | .advance n _ _ =>
    match s.task? n with
    | some (.apply _ _) => true
    | _ => false
  | _ => false

/-- Only a task that applies a push changes the settings. -/
theorem settings_of_turns {shared : Shared} {number : Nat} {task : Task} {turn : Task.Turn}
    (h : Task.Turns shared number task turn)
    (hno : ∀ push validated, task ≠ .apply push validated) :
    turn.shared.settings = shared.settings := by
  cases h with
  | apply push validated => exact absurd rfl (hno push validated)
  | quiet _ _ hsettings => exact hsettings
  | _ => rfl

/-- **A push is a new generation**, and nothing else is. -/
theorem generation_step {s s' : Server} {m : Move} (h : s.step m = some s') :
    s'.shared.settings.generation =
      s.shared.settings.generation + if s.applies m then 1 else 0 := by
  cases m with
  | arrive request => rw [step_arrive h]; simp [add, applies]
  | fileChanged changed => rw [step_fileChanged h, (deliver_rest s changed).1]; simp [applies]
  | abandon n => rw [step_abandon h]; simp [remove, applies]
  | advance n place answer =>
    obtain ⟨task, turn, htask, hturn, rfl⟩ := step_advance h
    rw [(shared_after s n turn).2.1]
    by_cases hpush : ∃ push validated, task = .apply push validated
    · obtain ⟨push, validated, rfl⟩ := hpush
      cases answer <;> cases hturn
      simp [applies, htask]
    · have hno : s.applies (.advance n place answer) = false := by
        simp only [applies, htask]
        cases task with
        | apply push validated => exact absurd ⟨push, validated, rfl⟩ hpush
        | _ => rfl
      have hsame := settings_of_turns (Task.turns_of_step hturn) fun push validated he =>
        hpush ⟨push, validated, he⟩
      rw [hno, hsame]
      simp

namespace Run

/-- How many of the `d` ticks from `c` on put new settings into force. -/
def pushes {start : Server} (e : Run start) (c : Nat) : Nat → Nat
  | 0 => 0
  | d + 1 => e.pushes c d + if (e.move (c + d)).any (e.state (c + d)).applies then 1 else 0

variable {start : Server} (e : Run start)

theorem generation_succ (t : Nat) : (e.state (t + 1)).shared.settings.generation =
    (e.state t).shared.settings.generation +
      if (e.move t).any (e.state t).applies then 1 else 0 := by
  cases hm : e.move t with
  | none => rw [e.idle t hm]; simp
  | some m => rw [generation_step (e.moved t m hm)]; rfl

/-- The generation counts the pushes. -/
theorem generation_add (c d : Nat) : (e.state (c + d)).shared.settings.generation =
    (e.state c).shared.settings.generation + UInt64.ofNat (e.pushes c d) := by
  induction d with
  | zero => simp [pushes]
  | succ d ih =>
    rw [← Nat.add_assoc, e.generation_succ, ih, pushes, UInt64.ofNat_add, UInt64.add_assoc]
    split <;> rfl

/-- The generation is the same again when the count of generations has gone round. -/
theorem generation_eq_iff (c d : Nat) :
    (e.state (c + d)).shared.settings.generation = (e.state c).shared.settings.generation ↔
      UInt64.size ∣ e.pushes c d := by
  rw [e.generation_add, UInt64.add_eq_left, ← UInt64.toNat_inj, UInt64.toNat_ofNat']
  exact Nat.dvd_iff_mod_eq_zero.symm

/-! ## The look at the settings -/

/-- A validation that is about to publish has looked at the settings before, and
they had the generation it read. -/
theorem looked (hstart : ∀ n v, ¬ start.Live n v) {t n : Nat} {v : Validation} {snapshot : Snapshot}
    {finding : Finding} (hv : (e.state t).Live n v) (hstage : v.stage = .publish snapshot finding) :
    ∃ c d, 0 < d ∧ c + d = t ∧
      (e.state c).Live n ⟨v.origin, v.url, .compareSettings snapshot finding⟩ ∧
      (e.state c).shared.settings.generation = snapshot.settings.generation := by
  induction t generalizing v with
  | zero => rw [e.initial_state] at hv; exact absurd hv (hstart n v)
  | succ t ih =>
    have hearlier (hold : (e.state t).Live n v) : ∃ c d, 0 < d ∧ c + d = t + 1 ∧
        (e.state c).Live n ⟨v.origin, v.url, .compareSettings snapshot finding⟩ ∧
        (e.state c).shared.settings.generation = snapshot.settings.generation := by
      obtain ⟨c, d, _, rfl, hrest⟩ := ih hold hstage
      exact ⟨c, d + 1, Nat.succ_pos d, rfl, hrest⟩
    rcases e.live_succ hv with hold | hnew | ⟨stage, events, hold, hgoes⟩
    · exact hearlier hold
    · rw [hstage] at hnew
      cases hnew
    · -- this is the look: the only way to the stage leads through it
      rw [hstage] at hgoes
      obtain ⟨rfl, hsame⟩ := Stage.Goes.to_publish hgoes
      exact ⟨t, 1, Nat.one_pos, rfl, hold, hsame⟩

/-! ## What is out of date when it is sent -/

/-- **When a published set is up to date.**  The validation that publishes has looked
at the settings in an earlier tick `c`, and they had the generation it read.  They
have it in the tick of the publication just if no settings have been pushed from
`c` on, or so many that the count of generations has gone round. -/
theorem publication_current_iff {config : Config} (e : Run (.initial config)) {t : Nat}
    {origin : Origin} {url : Url} {ds : List Diagnostic}
    (h : .published (some origin) url ds ∈ e.written t) :
    ∃ n snapshot finding c d, 0 < d ∧ c + d = t ∧
      (e.state c).Live n ⟨origin, url, .compareSettings snapshot finding⟩ ∧
      (e.state c).shared.settings.generation = snapshot.settings.generation ∧
      (e.state t).Live n ⟨origin, url, .publish snapshot finding⟩ ∧
      ds = translate finding.report? snapshot.engine.name ∧
      ((e.state t).shared.settings.generation = snapshot.settings.generation ↔
        UInt64.size ∣ e.pushes c d) := by
  obtain ⟨n, turn, _, _, ⟨_, hnone, _⟩ | ⟨_, snapshot, finding, hlive, hsender, hds⟩⟩ :=
    e.published_cases h
  · cases hnone
  · cases hsender
    obtain ⟨c, d, hd, rfl, hlook, hsame⟩ := e.looked (fun _ _ => live_initial config) hlive rfl
    refine ⟨n, snapshot, finding, c, d, hd, rfl, hlook, hsame, hlive, hds, ?_⟩
    rw [← hsame]
    exact e.generation_eq_iff c d

end Run

/-! ### The settings change between the look and the publication

The document's one problem is found under the settings of generation 0.  The look
at the settings is made in tick 13, then new settings arrive and come into force,
and the last of these moves publishes the problem. -/

namespace Sample

/-- What the validation has found. -/
def flight : Validation :=
  ⟨⟨2, 0, 0⟩, page, .publish ⟨⟨"standard", 0⟩, "a;", .default⟩ (.report problem)⟩

/-- The run. -/
def overtaken : Run (.initial .default) :=
  .ofMoves (.initial .default) (linted ++ [.advance 2 0 .proceed, .arrive (.configure .null),
    .advance 3 0 .proceed, .advance 2 0 .proceed]) rfl

theorem overtaken_publishes : .published (some ⟨2, 0, 0⟩) page
    (translate (some problem) "standard") ∈ overtaken.written 16 :=
  List.mem_cons_of_mem _ List.mem_cons_self

theorem overtaken_tasks :
    (overtaken.state 16).tasks = [(2, .single flight), (4, .batch .listing)] := rfl

theorem overtaken_generation : (overtaken.state 16).shared.settings.generation = 1 := rfl

/-- The validation in the last tick is the one whose settings had generation 0. -/
theorem overtaken_live {n : Nat} {v : Validation} (h : (overtaken.state 16).Live n v) :
    v = flight := by
  obtain ⟨task, hmem, hv⟩ := h
  rw [overtaken_tasks] at hmem
  simp only [List.mem_cons, Prod.mk.injEq, List.not_mem_nil, or_false] at hmem
  rcases hmem with ⟨_, rfl⟩ | ⟨_, rfl⟩
  · exact List.mem_singleton.mp hv
  · cases hv

end Sample

namespace Run

/-- Between the look and the publication lies a push, so the set is out of date. -/
theorem publication_overtaken :
    .published (some ⟨2, 0, 0⟩) Sample.page (translate (some Sample.problem) "standard") ∈
        Sample.overtaken.written 16 ∧
      ∃ c d, c + d = 16 ∧ ¬ UInt64.size ∣ Sample.overtaken.pushes c d := by
  obtain ⟨n, snapshot, finding, c, d, _, ht, _, _, hlive, _, hiff⟩ :=
    Sample.overtaken.publication_current_iff Sample.overtaken_publishes
  refine ⟨Sample.overtaken_publishes, c, d, ht, ?_⟩
  rw [← hiff, Sample.overtaken_generation]
  cases Sample.overtaken_live hlive
  decide

/-- **A stale set can be published**: it is not so that in every run the settings
have, in the tick of a publication, the generation under which the published set
was found. -/
theorem stale_publication : ¬ ∀ (config : Config) (e : Run (.initial config)) (t n : Nat)
    (origin : Origin) (url : Url) (snapshot : Snapshot) (finding : Finding),
    (e.state t).Live n ⟨origin, url, .publish snapshot finding⟩ →
    .published (some origin) url (translate finding.report? snapshot.engine.name) ∈ e.written t →
    (e.state t).shared.settings.generation = snapshot.settings.generation := by
  intro hall
  have hlive : (Sample.overtaken.state 16).Live 2 Sample.flight :=
    ⟨.single Sample.flight, List.mem_cons_self, List.mem_cons_self⟩
  have hstill := hall .default Sample.overtaken 16 2 ⟨2, 0, 0⟩ Sample.page _ _ hlive
    Sample.overtaken_publishes
  rw [Sample.overtaken_generation] at hstill
  cases hstill

end Run

end Server

end LintServer
