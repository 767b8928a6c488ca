import LintServer.Proofs.Server.Batches
import Mathlib.Data.Prod.Lex
import Mathlib.Order.WellFounded

/-! # A task amid others

Between two steps of a task others move, and what it reads next may not be what it
would have read before.  `Run.Amid` says what is known of a run from a tick on: what the
task can rely on in the shared state as long as it runs, how its validations are
answered, and that it is neither given up nor passed over for ever.

To see a task through (`Task.Led`) takes an invariant that each of its steps keeps,
whatever has happened since the last one, and something that each step makes less.
`Amid.completes` draws the conclusion: the task comes to an end, and what was to hold of
all it has written holds.  `Amid.completes_batch` does this for a batch, from what is
known of single validations.
-/
namespace LintServer

/-- An answer to a task agrees with how validations are answered. -/
def Task.Agrees (accepts : Validation → Answer → Prop) (task : Task) (place : Nat)
    (answer : Answer) : Prop :=
  ∀ v, task.mover place = some v → accepts v answer

namespace Server

/-- Task `n` can make a step, with an answer that agrees. -/
def MayAdvance (s : Server) (n : Nat) (accepts : Validation → Answer → Prop) : Prop :=
  ∃ task place answer turn, s.task? n = some task ∧ task.Agrees accepts place answer ∧
    task.step s.config s.shared n place answer = some turn

/-- What has become of a task that made a step. -/
theorem task?_after {s : Server} {n : Nat} {old : Task} {turn : Task.Turn} (hs : Numbered s)
    (hs' : Numbered (s.after n turn)) (hold : s.task? n = some old) :
    (s.after n turn).task? n = turn.next.elim some fun _ => none := by
  cases hnext : turn.next with
  | inl next => exact hs'.task?_eq ((mem_after hold).mpr (Or.inr (Or.inl ⟨rfl, hnext⟩)))
  | inr outcome =>
    refine Option.eq_none_iff_forall_ne_some.mpr fun task htask => ?_
    rcases (mem_after hold).mp (mem_of_task? htask) with ⟨_, hne⟩ | ⟨_, heq⟩ | ⟨_, _, hfresh, _⟩
    · exact hne rfl
    · rw [hnext] at heq
      cases heq
    · have hgiven := hs.given _ (mem_of_task? hold)
      omega

namespace Run

/-! ## What one task writes -/

section Own
variable {start : Server} (e : Run start)

/-- What task `n` writes in a tick, in its order. -/
def own (n t : Nat) : List Event :=
  match e.move t with
  | some (.advance k _ _) => if k = n then (e.written t).reverse else []
  | _ => []

/-- **What task `n` writes** in `d` ticks from tick `t` on. -/
def wrote (n t d : Nat) : List Event := (List.range' t d).flatMap (e.own n)

variable {e}

theorem own_of_move {n t place : Nat} {answer : Answer}
    (h : e.move t = some (.advance n place answer)) : e.own n t = (e.written t).reverse := by
  simp [own, h]

theorem own_of_not_moved {n t : Nat}
    (h : ∀ place answer, e.move t ≠ some (.advance n place answer)) : e.own n t = [] := by
  unfold own
  split
  · rename_i k place answer hmove
    have hne : k ≠ n := by
      rintro rfl
      exact h place answer hmove
    exact if_neg hne
  · rfl

theorem wrote_add (n t d d' : Nat) :
    e.wrote n t (d + d') = e.wrote n t d ++ e.wrote n (t + d) d' := by
  rw [wrote, ← List.range'_append_1, List.flatMap_append]
  rfl

theorem wrote_succ (n t d : Nat) : e.wrote n t (d + 1) = e.wrote n t d ++ e.own n (t + d) := by
  rw [wrote_add]
  simp [wrote]

variable (e)

/-- **Task `n` comes to an end after tick `t`**, and `P` holds of what it writes until then
and of its outcome. -/
def Completes (t n : Nat) (P : List Event → Outcome → Prop) : Prop :=
  ∃ d written outcome, P written outcome ∧ e.wrote n t d = written ++ [.ended n outcome] ∧
    (e.state (t + d)).task? n = none

variable {e} in
theorem Completes.mono {t n : Nat} {P Q : List Event → Outcome → Prop} (h : e.Completes t n P)
    (himp : ∀ written outcome, P written outcome → Q written outcome) : e.Completes t n Q := by
  obtain ⟨d, written, outcome, hP, hrest⟩ := h
  exact ⟨d, written, outcome, himp _ _ hP, hrest⟩

end Own

/-! ## What is known of a run from a tick on -/

/-- **From tick `t` on, task `n` moves amid others.** -/
structure Amid {start : Server} (e : Run start) (t n : Nat)
    (accepts : Validation → Answer → Prop) (rely : Task → Shared → Prop) : Prop where
  /-- The task can rely on the shared state as long as it runs. -/
  relies : ∀ {u : Nat} {task : Task}, t ≤ u → (e.state u).task? n = some task →
    rely task (e.state u).shared
  /-- Its validations are answered so. -/
  answers : ∀ {u place : Nat} {answer : Answer} {task : Task}, t ≤ u →
    e.move u = some (.advance n place answer) → (e.state u).task? n = some task →
    task.Agrees accepts place answer
  /-- It is not given up. -/
  kept : ∀ {u : Nat}, t ≤ u → e.move u ≠ some (.abandon n)
  /-- If from some tick on it can always move, it moves. -/
  fair : ∀ {u : Nat}, t ≤ u → (∀ w, u ≤ w → (e.state w).MayAdvance n accepts) →
    ∃ w place answer, u ≤ w ∧ e.move w = some (.advance n place answer)

namespace Amid
variable {config : Config} {e : Run (.initial config)} {t n : Nat}
  {accepts : Validation → Answer → Prop} {rely : Task → Shared → Prop} {task : Task}

theorem later (h : e.Amid t n accepts rely) {u : Nat} (htu : t ≤ u) : e.Amid u n accepts rely where
  relies hu := h.relies (Nat.le_trans htu hu)
  answers hu := h.answers (Nat.le_trans htu hu)
  kept hu := h.kept (Nat.le_trans htu hu)
  fair hu := h.fair (Nat.le_trans htu hu)

/-- A task that has ended was neither given up nor passed over. -/
theorem of_ended {l : Nat} (hgiven : n < (e.state l).fresh) (hgone : (e.state l).task? n = none)
    (hticks : ∀ u task, t ≤ u → u < l → (e.state u).task? n = some task →
      rely task (e.state u).shared ∧ e.move u ≠ some (.abandon n) ∧
        ∀ place answer, e.move u = some (.advance n place answer) →
          task.Agrees accepts place answer) : e.Amid t n accepts rely := by
  have hnone {u : Nat} (hu : l ≤ u) : (e.state u).task? n = none := by
    have hall : n < (e.state u).fresh ∧ ∀ task, (n, task) ∉ (e.state u).tasks := by
      induction hu with
      | refl =>
        refine ⟨hgiven, fun task hmem => ?_⟩
        rw [(e.numbered l).task?_eq hmem] at hgone
        cases hgone
      | step _ ih => exact gone_succ ih.1 ih.2
    exact Option.eq_none_iff_forall_ne_some.mpr fun task h => hall.2 task (mem_of_task? h)
  -- before tick `l` it is as was said, and afterwards there is no task
  have hrunning {u : Nat} {task : Task} (htask : (e.state u).task? n = some task) : u < l := by
    by_contra hu
    rw [hnone (Nat.le_of_not_lt hu)] at htask
    cases htask
  refine ⟨?_, ?_, ?_, ?_⟩
  · intro u task hu htask
    exact (hticks u task hu (hrunning htask) htask).1
  · intro u place answer task hu hmove htask
    exact (hticks u task hu (hrunning htask) htask).2.2 place answer hmove
  · intro u hu hmove
    have hstep := e.moved u _ hmove
    obtain ⟨task, htask, _⟩ := Option.map_eq_some_iff.mp hstep
    exact (hticks u task hu (hrunning htask) htask).2.1 hmove
  · intro u hu hmay
    obtain ⟨task, _, _, _, htask, _⟩ := hmay (u + l) (Nat.le_add_right u l)
    have hlt := hrunning htask
    omega

/-- The task has moved before, and stood as it was until then, or it still does. -/
theorem moves_or_stands (h : e.Amid t n accepts rely) (hpush : ∀ path, push path task = task)
    (htask : (e.state t).task? n = some task) (d : Nat) :
    (∃ k place answer, e.move (t + k) = some (.advance n place answer) ∧
      (e.state (t + k)).task? n = some task ∧ e.wrote n t k = []) ∨
    ((e.state (t + d)).task? n = some task ∧ e.wrote n t d = []) := by
  induction d with
  | zero => exact Or.inr ⟨htask, rfl⟩
  | succ d ih =>
    rcases ih with hmoved | ⟨hstands, hwrote⟩
    · exact Or.inl hmoved
    · by_cases hmove : ∃ place answer, e.move (t + d) = some (.advance n place answer)
      · obtain ⟨place, answer, hmove⟩ := hmove
        exact Or.inl ⟨d, place, answer, hmove, hstands, hwrote⟩
      · refine Or.inr ⟨?_, ?_⟩
        · rcases e.stays_succ hpush (mem_of_task? hstands) with hmoves | habandon | hmem
          · exact absurd hmoves hmove
          · exact absurd habandon (h.kept (Nat.le_add_right t d))
          · exact (e.numbered (t + d + 1)).task?_eq hmem
        · rw [wrote_succ, hwrote, own_of_not_moved fun place answer heq => hmove ⟨place, answer, heq⟩]
          rfl

/-- **The next step of a task**, which comes sooner or later if the task can always make
one. -/
theorem next_step (h : e.Amid t n accepts rely) (hpush : ∀ path, push path task = task)
    (hcan : ∀ config shared, rely task shared → ∃ place answer turn,
      task.Agrees accepts place answer ∧ task.step config shared n place answer = some turn)
    (htask : (e.state t).task? n = some task) :
    ∃ d place answer turn, task.Agrees accepts place answer ∧ rely task (e.state (t + d)).shared ∧
      task.step (e.state (t + d)).config (e.state (t + d)).shared n place answer = some turn ∧
      e.wrote n t (d + 1) = (entries n turn).reverse ∧
      (e.state (t + (d + 1))).task? n = turn.next.elim some fun _ => none := by
  -- the tick in which it moves
  have hmoves : ∃ k place answer, e.move (t + k) = some (.advance n place answer) ∧
      (e.state (t + k)).task? n = some task ∧ e.wrote n t k = [] := by
    by_contra hnever
    have hstands (d : Nat) := (h.moves_or_stands hpush htask d).resolve_left hnever
    obtain ⟨w, place, answer, hw, hmove⟩ := h.fair (Nat.le_refl t) fun w hw => by
      obtain ⟨d, rfl⟩ := Nat.exists_eq_add_of_le hw
      obtain ⟨place, answer, turn, hagrees, hturn⟩ :=
        hcan (e.state (t + d)).config _ (h.relies hw (hstands d).1)
      exact ⟨task, place, answer, turn, (hstands d).1, hagrees, hturn⟩
    obtain ⟨d, rfl⟩ := Nat.exists_eq_add_of_le hw
    exact hnever ⟨d, place, answer, hmove, hstands d⟩
  obtain ⟨k, place, answer, hmove, hstands, hwrote⟩ := hmoves
  obtain ⟨task', turn, htask', hturn, hafter, hwritten⟩ := e.advanced hmove
  cases hstands.symm.trans htask'
  have htk := Nat.le_add_right t k
  refine ⟨k, place, answer, turn, h.answers htk hmove hstands, h.relies htk hstands, hturn, ?_, ?_⟩
  · rw [wrote_succ, hwrote, own_of_move hmove, hwritten]
    rfl
  · have hnumbered := e.numbered (t + k + 1)
    rw [hafter] at hnumbered
    rw [← Nat.add_assoc, hafter]
    exact task?_after (e.numbered (t + k)) hnumbered hstands

end Amid

end Run

end Server

/-! ## Seeing a task through -/

/-- **What it takes to see task `n` through to `P`**: an invariant of the task and of what
it has written, with something that each step makes less. -/
structure Task.Led {α : Type} [LT α] (n : Nat) (accepts : Validation → Answer → Prop)
    (rely : Task → Shared → Prop) (P : List Event → Outcome → Prop)
    (I : α → Task → List Event → Prop) : Prop where
  /-- No change of a file reaches the task. -/
  unreached : ∀ {a task written}, I a task written → ∀ path, Server.push path task = task
  /-- The task is never stuck. -/
  can : ∀ {a task written}, I a task written → ∀ config shared, rely task shared →
    ∃ place answer turn, task.Agrees accepts place answer ∧
      task.step config shared n place answer = some turn
  /-- A step keeps the invariant, with less before the task than it was, or ends the task. -/
  step : ∀ {a task written}, I a task written → ∀ {config shared place answer turn},
    rely task shared → task.Agrees accepts place answer →
    task.step config shared n place answer = some turn →
    turn.next.elim (fun next => ∃ a', a' < a ∧ I a' next (written ++ turn.events))
      (fun outcome => P (written ++ turn.events) outcome)

namespace Server.Run.Amid
variable {config : Config} {e : Run (.initial config)} {t n : Nat}
  {accepts : Validation → Answer → Prop} {rely : Task → Shared → Prop}
  {P : List Event → Outcome → Prop}

/-- **A task that can be seen through comes to its end**, whatever others do meanwhile. -/
theorem completes {α : Type} [LT α] [WellFoundedLT α] {I : α → Task → List Event → Prop}
    (h : e.Amid t n accepts rely) (hled : Task.Led n accepts rely P I) {a : α} {task : Task}
    (htask : (e.state t).task? n = some task) {before : List Event} (hI : I a task before) :
    e.Completes t n fun written => P (before ++ written) := by
  -- on what is still before the task
  induction a using WellFoundedLT.induction generalizing t task before with
  | _ a ih =>
    obtain ⟨d, place, answer, turn, hagrees, hrely, hturn, hwrote, hnext⟩ :=
      h.next_step (hled.unreached hI) (hled.can hI) htask
    have hstep := hled.step hI hrely hagrees hturn
    cases hcase : turn.next with
    | inl next =>
      rw [hcase] at hstep hnext
      obtain ⟨a', hless, hI'⟩ := hstep
      obtain ⟨d', written, outcome, hP, hrest, hgone⟩ :=
        ih a' hless (h.later (Nat.le_add_right t (d + 1))) hnext hI'
      refine ⟨d + 1 + d', turn.events ++ written, outcome, ?_, ?_, ?_⟩
      · have hall := (List.append_assoc before turn.events written).symm
        exact (congrArg (P · outcome) hall).mpr hP
      · rw [wrote_add, hwrote, hrest, entries, hcase, List.reverse_reverse, List.append_assoc]
      · rw [← Nat.add_assoc]
        exact hgone
    | inr outcome =>
      rw [hcase] at hstep hnext
      refine ⟨d + 1, turn.events, outcome, hstep, ?_, hnext⟩
      rw [hwrote, entries, hcase]
      simp

end Server.Run.Amid

/-! ## Batches amid others -/

namespace Batch

/-! ### What a batch carries along -/

/-- **What a batch carries along**: `C` holds of its validations and of what they have
written from the time the documents are listed, each step of a validation keeps it, and
under it a validation that has not ended can go on. -/
structure Carried (accepts : Validation → Answer → Prop) (rely : Shared → Prop) (task round : Nat)
    (C : List Validation → List Event → Prop) : Prop where
  start : ∀ {shared : Shared} {urls : List Url}, rely shared →
    urls.Perm shared.documents.urls → C (flightsFor task round urls) []
  can : ∀ {shared : Shared} {flights : List Validation} {body : List Event} {v : Validation},
    rely shared → C flights body → v ∈ flights → v.stage.isEnded = false →
    ∃ answer v' events, accepts v answer ∧ v.step shared answer = some (v', events)
  step : ∀ {shared : Shared} {flights : List Validation} {body : List Event} {place : Nat}
    {answer : Answer} {v v' : Validation} {events : List Event}, rely shared → C flights body →
    flights[place]? = some v → accepts v answer → v.step shared answer = some (v', events) →
    C (flights.set place v') (body ++ events)

section Going
variable (C : List Validation → List Event → Prop) (n : Nat)

/-- **What a batch has written in the end**: what its validations wrote, all of which have
ended, and their failures. -/
def Finished (written : List Event) : Prop :=
  ∃ flights body, C flights body ∧ flights.all (·.stage.isEnded) = true ∧
    written = body ++ (messages flights).map (.shown n)

/-- How far a batch has come, and what it has written. -/
inductive Going : Batch → List Event → Prop
  | listing : Going .listing []
  | validating {flights : List Validation} {body : List Event} (hcarries : C flights body)
    (hgoing : flights.all (·.stage.isEnded) = false) : Going (.validating flights) body
  | showing {flights : List Validation} {body : List Event} {told more : List String}
    {message : String} (hcarries : C flights body)
    (hended : flights.all (·.stage.isEnded) = true)
    (hmessages : messages flights = told ++ message :: more) :
    Going (.showing (message :: more)) (body ++ told.map (.shown n))

/-- Where a batch stands that may be over. -/
def Stands : Option Batch → List Event → Prop
  | none => Finished C n
  | some b => Going C n b

end Going

/-- What is still before a batch. -/
def remaining : Batch → Nat ×ₗ Nat
  | .listing => toLex (2, 0)
  | .validating flights => toLex (1, (flights.map (·.stage.rank)).sum)
  | .showing messages => toLex (0, messages.length)

theorem remaining_toShow {messages : List String} {b : Batch} (h : toShow messages = some b) :
    b.remaining = toLex (0, messages.length) := by
  unfold toShow at h
  split at h <;> cases h
  rfl

theorem remaining_ofFlights {flights : List Validation} {b : Batch}
    (h : ofFlights flights = some b) :
    b.remaining ≤ toLex (1, (flights.map (·.stage.rank)).sum) := by
  unfold ofFlights at h
  split at h
  · rw [remaining_toShow h]
    exact (Prod.Lex.toLex_lt_toLex.mpr (Or.inl Nat.zero_lt_one)).le
  · cases h
    exact le_refl _

section Steps
variable {C : List Validation → List Event → Prop} {accepts : Validation → Answer → Prop}
  {rely : Shared → Prop} {n round : Nat} {shared : Shared} {flights : List Validation}
  {body : List Event}

theorem stands_toShow (h : C flights body) (hended : flights.all (·.stage.isEnded) = true)
    {told more : List String} (hmessages : messages flights = told ++ more) :
    Stands C n (toShow more) (body ++ told.map (.shown n)) := by
  cases more with
  | nil =>
    rw [List.append_nil] at hmessages
    exact ⟨flights, body, h, hended, by rw [hmessages]⟩
  | cons message more => exact .showing h hended hmessages

theorem stands_ofFlights (h : C flights body) : Stands C n (ofFlights flights) body := by
  unfold ofFlights
  split
  · rename_i hended
    have hstands := stands_toShow (n := n) h hended (List.nil_append (messages flights)).symm
    rw [List.map_nil, List.append_nil] at hstands
    exact hstands
  · rename_i hgoing
    exact .validating h (Bool.eq_false_iff.mpr hgoing)

/-- **A step of a batch** leaves it where a batch can stand, with less before it. -/
theorem Going.step (hcarried : Carried accepts rely n round C) (hrely : rely shared) {b : Batch}
    {written events : List Event} {place : Nat} {answer : Answer} {next : Option Batch}
    (h : Going C n b written) (haccepts : ∀ v, b.flights[place]? = some v → accepts v answer)
    (hstep : b.step shared n round place answer = some (next, events)) :
    Stands C n next (written ++ events) ∧ ∀ b', next = some b' → b'.remaining < b.remaining := by
  cases h with
  | listing =>
    cases answer with
    | listed urls =>
      simp only [Batch.step] at hstep
      split at hstep
      · rename_i hurls
        cases hstep
        refine ⟨stands_ofFlights (hcarried.start hrely hurls), fun b' hb' => ?_⟩
        exact lt_of_le_of_lt (remaining_ofFlights hb')
          (Prod.Lex.toLex_lt_toLex.mpr (Or.inl Nat.one_lt_two))
      · cases hstep
    | _ => cases hstep
  | @validating flights _ hcarries hgoing =>
    simp only [Batch.step] at hstep
    split at hstep
    · cases hstep
    · rename_i v hplace
      split at hstep
      · obtain ⟨⟨v', moved⟩, hv, heq⟩ := Option.map_eq_some_iff.mp hstep
        cases heq
        refine ⟨stands_ofFlights (hcarried.step hrely hcarries hplace (haccepts v hplace) hv), ?_⟩
        intro b' hb'
        refine lt_of_le_of_lt (remaining_ofFlights hb') ?_
        refine Prod.Lex.toLex_lt_toLex.mpr (Or.inr ⟨rfl, ?_⟩)
        exact rank_sum_set_lt hplace hv
      · cases hstep
  | @showing flights body told more message hcarries hended hmessages =>
    cases answer with
    | proceed =>
      cases hstep
      have hmessages' : messages flights = (told ++ [message]) ++ more := by
        rw [hmessages, List.append_assoc]
        rfl
      refine ⟨?_, fun b' hb' => ?_⟩
      · simpa using stands_toShow (n := n) hcarries hended hmessages'
      · rw [remaining_toShow hb']
        exact Prod.Lex.toLex_lt_toLex.mpr (Or.inr ⟨rfl, Nat.lt_succ_self _⟩)
    | _ => cases hstep

/-- A batch that is not over can go on. -/
theorem Going.can (hcarried : Carried accepts rely n round C) (hrely : rely shared) {b : Batch}
    {written : List Event} (h : Going C n b written) :
    ∃ place answer next events, (∀ v, b.flights[place]? = some v → accepts v answer) ∧
      b.step shared n round place answer = some (next, events) := by
  cases h with
  | listing =>
    refine ⟨0, .listed shared.documents.urls, ofFlights (flightsFor n round shared.documents.urls),
      [], ?_, if_pos (List.Perm.refl _)⟩
    rintro v ⟨⟩
  | @validating flights _ hcarries hgoing =>
    obtain ⟨place, v, hplace, hv, hmay⟩ := exists_mayMove hgoing
    obtain ⟨answer, v', events, haccepts, hstep⟩ :=
      hcarried.can hrely hcarries (List.mem_of_getElem? hplace) hv
    refine ⟨place, answer, ofFlights (flights.set place v'), events, ?_, ?_⟩
    · intro w hw
      cases hplace.symm.trans hw
      exact haccepts
    · simp [Batch.step, hplace, hmay, hstep]
  | @showing flights body told more message =>
    exact ⟨0, .proceed, toShow more, [.shown n message], by rintro v ⟨⟩, rfl⟩

/-- What a batch carries along sees it through. -/
theorem Carried.led (hcarried : Carried accepts rely n 0 C) :
    Task.Led n accepts (fun _ => rely)
      (fun written outcome => outcome = .done ∧ Finished C n written)
      fun a task written => ∃ b, task = .batch b ∧ b.remaining = a ∧ Going C n b written where
  unreached := by
    rintro a task written ⟨b, rfl, _⟩ path
    rfl
  can := by
    rintro a task written ⟨b, rfl, _, hgoing⟩ config shared hrely
    obtain ⟨place, answer, next, events, haccepts, hstep⟩ := hgoing.can hcarried hrely
    exact ⟨place, answer, _, haccepts, by rw [Task.step, hstep]; rfl⟩
  step := by
    rintro a task written ⟨b, rfl, rfl, hgoing⟩ config shared place answer turn hrely hagrees hturn
    obtain ⟨⟨next, events⟩, hstep, rfl⟩ := Option.map_eq_some_iff.mp hturn
    obtain ⟨hstands, hless⟩ := hgoing.step hcarried hrely hagrees hstep
    cases next with
    | none => exact ⟨rfl, hstands⟩
    | some b' => exact ⟨b'.remaining, hless b' rfl, b', rfl, rfl, hstands⟩

end Steps

/-! ### Batches of validations that each keep an invariant -/

/-- **What is known of the validations of a batch**: an invariant that each has from the
start, keeps with every step and can go on with, and what its steps write. -/
structure Flying (accepts : Validation → Answer → Prop) (rely : Shared → Prop)
    (Inv : Validation → Prop) (Q : Event → Prop) : Prop where
  start : ∀ {shared : Shared} {url : Url} (origin : Origin), rely shared →
    url ∈ shared.documents.urls → Inv (.start origin url)
  can : ∀ {shared : Shared} {v : Validation}, rely shared → Inv v → v.stage.isEnded = false →
    ∃ answer v' events, accepts v answer ∧ v.step shared answer = some (v', events)
  step : ∀ {shared : Shared} {answer : Answer} {v v' : Validation} {events : List Event},
    rely shared → Inv v → accepts v answer → v.step shared answer = some (v', events) →
    Inv v' ∧ ∀ event ∈ events, Q event

/-- The validations a batch has, and what they have written so far. -/
structure Carries (rely : Shared → Prop) (Inv : Validation → Prop) (Q : Event → Prop)
    (flights : List Validation) (body : List Event) : Prop where
  listed : ∃ shared, rely shared ∧ (flights.map (·.url)).Perm shared.documents.urls
  holds : ∀ v ∈ flights, Inv v
  events : ∀ event ∈ body, Q event

section Flying
variable {accepts : Validation → Answer → Prop} {rely : Shared → Prop} {Inv : Validation → Prop}
  {Q : Event → Prop} {shared : Shared} {flights : List Validation} {body : List Event}

theorem carries_flightsFor (hflying : Flying accepts rely Inv Q) (hrely : rely shared)
    {urls : List Url} (hurls : urls.Perm shared.documents.urls) (task round : Nat) :
    Carries rely Inv Q (flightsFor task round urls) [] where
  listed := by
    have hmap : (flightsFor task round urls).map (·.url) = urls := by
      refine List.ext_getElem? fun place => ?_
      rw [flightsFor, List.getElem?_map, List.getElem?_mapIdx, Option.map_map]
      exact Option.map_id_apply
    exact ⟨shared, hrely, (List.Perm.of_eq hmap).trans hurls⟩
  holds v hv := by
    obtain ⟨place, hplace⟩ := List.mem_iff_getElem?.mp hv
    rw [flightsFor, List.getElem?_mapIdx] at hplace
    obtain ⟨url, hurl, rfl⟩ := Option.map_eq_some_iff.mp hplace
    exact hflying.start _ hrely (hurls.mem_iff.mp (List.mem_of_getElem? hurl))
  events := by simp

theorem Carries.set (hflying : Flying accepts rely Inv Q) (hrely : rely shared)
    (h : Carries rely Inv Q flights body) {place : Nat} {answer : Answer} {v v' : Validation}
    {events : List Event} (hplace : flights[place]? = some v) (haccepts : accepts v answer)
    (hstep : v.step shared answer = some (v', events)) :
    Carries rely Inv Q (flights.set place v') (body ++ events) := by
  obtain ⟨hinv, hevents⟩ :=
    hflying.step hrely (h.holds v (List.mem_of_getElem? hplace)) haccepts hstep
  refine ⟨?_, ?_, ?_⟩
  · obtain ⟨listed, hlisted, hperm⟩ := h.listed
    have hsame : (flights.set place v').map (·.url) = flights.map (·.url) := by
      refine List.ext_getElem? fun k => ?_
      rw [List.getElem?_map, List.getElem?_map]
      by_cases hk : place = k
      · subst hk
        have hlt : place < flights.length := (List.getElem?_eq_some_iff.mp hplace).1
        rw [List.getElem?_set_self hlt, hplace, Option.map_some, Option.map_some,
          (Validation.goes hstep).2.1]
      · rw [List.getElem?_set_ne hk]
    exact ⟨listed, hlisted, hsame ▸ hperm⟩
  · intro w hw
    rcases List.mem_or_eq_of_mem_set hw with hold | rfl
    · exact h.holds w hold
    · exact hinv
  · intro event hevent
    rcases List.mem_append.mp hevent with hold | hnew
    · exact h.events event hold
    · exact hevents event hnew

/-- A batch carries along what is known of its validations. -/
theorem Flying.carried (hflying : Flying accepts rely Inv Q) (task round : Nat) :
    Carried accepts rely task round (Carries rely Inv Q) where
  start hrely hurls := carries_flightsFor hflying hrely hurls task round
  can hrely hcarries hv hgoing := hflying.can hrely (hcarries.holds _ hv) hgoing
  step hrely hcarries hplace haccepts hstep := hcarries.set hflying hrely hplace haccepts hstep

end Flying

end Batch

end LintServer
