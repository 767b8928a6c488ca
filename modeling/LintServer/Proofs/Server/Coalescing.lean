import LintServer.Proofs.Server.Run
import Mathlib.Data.Nat.Count

/-! # Batches for bursts of changes

The loop that follows a file watch takes one change from its queue, throws away all that
have arrived by then, and starts a batch.  Changes may be sent to it at any time
(`Run.Sends`): while it waits, while it drains its queue, and while a batch runs.  Still
none is lost, no two batches of a loop run at once, and there are never more batches than
changes (`Run.coalesced`).

`WatchLoop.Goes` lists the steps of a loop, and `Run.LoopTick` what a tick can do to it.
Every change that was sent is accounted for (`Run.Accounted`): a batch that began after it
has finished, or such a batch is running, or the loop is bound to begin one.
-/
namespace LintServer

namespace WatchLoop

/-- **The steps of a loop that goes on**, as task `task`: while it validates, they are those
of its batch. -/
inductive Goes (shared : Shared) (task place : Nat) (answer : Answer) :
    WatchLoop → WatchLoop → Prop
  | receive (path : Path) (queue : List Path) (round : Nat) :
    Goes shared task place answer ⟨path :: queue, .waiting, round⟩ ⟨queue, .draining, round⟩
  | discard (path : Path) (queue : List Path) (round : Nat) :
    Goes shared task place answer ⟨path :: queue, .draining, round⟩ ⟨queue, .draining, round⟩
  | start (round : Nat) :
    Goes shared task place answer ⟨[], .draining, round⟩ ⟨[], .validating .listing, round⟩
  | validate (queue : List Path) (b b' : Batch) (round : Nat) (events : List Event)
    (h : b.step shared task round place answer = some (some b', events)) :
    Goes shared task place answer ⟨queue, .validating b, round⟩ ⟨queue, .validating b', round⟩
  | finish (queue : List Path) (b : Batch) (round : Nat) (events : List Event)
    (h : b.step shared task round place answer = some (none, events)) :
    Goes shared task place answer ⟨queue, .validating b, round⟩ ⟨queue, .waiting, round + 1⟩

theorem goes_of_step {shared : Shared} {task place : Nat} {answer : Answer} {alive : Bool}
    {loop next : WatchLoop} {events : List Event}
    (h : loop.step shared task place answer alive = some (some next, events)) :
    Goes shared task place answer loop next := by
  obtain ⟨queue, stage, round⟩ := loop
  cases stage with
  | waiting =>
    cases queue with
    | nil =>
      cases answer <;> simp only [step] at h <;> try cases h
      split at h <;> cases h
    | cons path queue =>
      cases answer <;> cases h
      exact .receive path queue round
  | draining =>
    cases queue with
    | nil =>
      cases answer <;> cases h
      exact .start round
    | cons path queue =>
      cases answer <;> cases h
      exact .discard path queue round
  | validating b =>
    obtain ⟨⟨next?, events'⟩, hbatch, heq⟩ := Option.map_eq_some_iff.mp h
    cases next? with
    | none => cases heq; exact .finish queue b round _ hbatch
    | some b' => cases heq; exact .validate queue b b' round _ hbatch

/-- How many batches a loop may still begin for what has been sent to it: one when it
drains, and one for each change in its queue. -/
def owed (loop : WatchLoop) : Nat :=
  loop.queue.length + match loop.stage with
    | .draining => 1
    | _ => 0

theorem owed_push (loop : WatchLoop) (path : Path) : (loop.push path).owed = loop.owed + 1 := by
  simp only [owed, push, List.length_append, List.length_singleton]
  omega

end WatchLoop

namespace Task

/-- Only a loop becomes a loop. -/
theorem follow_of_step {config : Config} {shared : Shared} {number place : Nat} {answer : Answer}
    {task : Task} {turn : Turn} {next : WatchLoop}
    (h : task.step config shared number place answer = some turn)
    (hnext : turn.next = .inl (.follow next)) :
    ∃ loop, task = .follow loop ∧ WatchLoop.Goes shared number place answer loop next := by
  cases task with
  | follow loop =>
    obtain ⟨⟨next?, events⟩, hstep, rfl⟩ := Option.map_eq_some_iff.mp h
    cases next? with
    | none => cases hnext
    | some loop' =>
      cases hnext
      exact ⟨loop, rfl, WatchLoop.goes_of_step hstep⟩
  | handshake shake =>
    obtain ⟨⟨shared', next', events⟩, _, rfl⟩ := Option.map_eq_some_iff.mp h
    cases next' <;> cases hnext
  | announce announcement =>
    obtain ⟨⟨next', events⟩, _, rfl⟩ := Option.map_eq_some_iff.mp h
    cases next' <;> cases hnext
  | validate v =>
    obtain ⟨⟨v', events⟩, _, rfl⟩ := Option.map_eq_some_iff.mp h
    simp only [afterValidate] at hnext
    split at hnext <;> cases hnext
  | single v =>
    obtain ⟨⟨v', events⟩, _, rfl⟩ := Option.map_eq_some_iff.mp h
    simp only [afterSingle] at hnext
    split at hnext <;> cases hnext
  | batch b =>
    obtain ⟨⟨next?, events⟩, _, rfl⟩ := Option.map_eq_some_iff.mp h
    cases next? <;> cases hnext
  | _ =>
    cases answer <;> cases h
    cases hnext

/-- A task gives the kept watch up, or leaves it alone. -/
theorem kept_of_step {config : Config} {shared : Shared} {number place : Nat} {answer : Answer}
    {task : Task} {turn : Turn} (h : task.step config shared number place answer = some turn) :
    turn.shared.kept = shared.kept ∨ turn.shared.kept = none := by
  cases task with
  | stop =>
    cases answer <;> cases h
    exact Or.inr rfl
  | handshake shake =>
    obtain ⟨⟨shared', next, events⟩, hstep, rfl⟩ := Option.map_eq_some_iff.mp h
    have hsame : shared'.kept = shared.kept := by
      unfold Handshake.step at hstep
      split at hstep <;> split at hstep <;> (try split at hstep) <;> cases hstep <;> rfl
    cases next <;> exact Or.inl hsame
  | announce announcement =>
    obtain ⟨⟨next, events⟩, _, rfl⟩ := Option.map_eq_some_iff.mp h
    cases next <;> exact Or.inl rfl
  | validate v | single v | batch b | follow loop =>
    obtain ⟨_, _, rfl⟩ := Option.map_eq_some_iff.mp h
    exact Or.inl rfl
  | _ =>
    cases answer <;> cases h
    exact Or.inl rfl

end Task

namespace Server

/-! ## The loops of a server -/

/-- The loop of a number. -/
def loop? (s : Server) (n : Nat) : Option WatchLoop :=
  match s.task? n with
  | some (.follow loop) => some loop
  | _ => none

theorem loop?_eq_some {s : Server} {n : Nat} {loop : WatchLoop} :
    s.loop? n = some loop ↔ s.task? n = some (.follow loop) := by
  unfold loop?
  split <;> simp_all

/-- The loop a move sends a change to, and the path the change goes by. -/
def sent? (s : Server) : Move → Option (Nat × Path)
  | .fileChanged changed =>
    s.shared.kept.bind fun kept =>
      (kept.watch.report? s.config.watch changed).map fun path => (kept.follower, path)
  | _ => none

theorem deliver_of_sent {s : Server} {changed : Location} {k : Nat} {path : Path}
    (h : s.sent? (.fileChanged changed) = some (k, path)) : s.deliver changed =
      { s with tasks := s.tasks.map fun e => if e.1 = k then (e.1, push path e.2) else e } := by
  obtain ⟨kept, hkept, h⟩ := Option.bind_eq_some_iff.mp h
  obtain ⟨_, hpath, heq⟩ := Option.map_eq_some_iff.mp h
  cases heq
  simp only [deliver, hkept, hpath]

theorem deliver_of_not_sent {s : Server} {changed : Location}
    (h : s.sent? (.fileChanged changed) = none) : s.deliver changed = s := by
  unfold deliver
  split
  · rfl
  · rename_i kept hkept
    simp only [sent?, hkept, Option.bind_some, Option.map_eq_none_iff] at h
    rw [h]

/-- A loop after a change has been sent to loop `k`. -/
theorem loop?_of_sent {s : Server} {changed : Location} {k n : Nat} {path : Path}
    {loop : WatchLoop} (hs : Numbered s) (hsent : s.sent? (.fileChanged changed) = some (k, path))
    (h : (s.deliver changed).loop? n = some loop) :
    ∃ old, s.loop? n = some old ∧ loop = if n = k then old.push path else old := by
  have hmem := mem_of_task? (loop?_eq_some.mp h)
  rw [deliver_of_sent hsent] at hmem
  obtain ⟨⟨m, task⟩, hold, heq⟩ := List.mem_map.mp hmem
  split at heq
  · rename_i hm
    obtain ⟨rfl, hpush⟩ := Prod.mk.inj heq
    cases task with
    | follow old =>
      cases hpush
      exact ⟨old, loop?_eq_some.mpr (hs.task?_eq hold), (if_pos hm).symm⟩
    | _ => cases hpush
  · rename_i hm
    cases heq
    exact ⟨loop, loop?_eq_some.mpr (hs.task?_eq hold), (if_neg hm).symm⟩

/-- The loop that follows the kept watch has been given its number. -/
def Followed (s : Server) : Prop :=
  ∀ kept, s.shared.kept = some kept → kept.follower < s.fresh

theorem Followed.step {s s' : Server} {m : Move} (hs : s.Followed) (h : s.step m = some s') :
    s'.Followed := by
  cases m with
  | arrive request =>
    rw [step_arrive h]
    exact fun kept hkept => Nat.lt_succ_of_lt (hs kept hkept)
  | fileChanged changed =>
    rw [step_fileChanged h, Followed, (deliver_rest s changed).1, (deliver_rest s changed).2.2]
    exact hs
  | abandon n =>
    rw [step_abandon h]
    exact hs
  | advance n place answer =>
    obtain ⟨task, turn, _, hturn, rfl⟩ := step_advance h
    have hold (kept : KeptWatch) (hkept : turn.shared.kept = some kept) :
        kept.follower < s.fresh := by
      rcases Task.kept_of_step hturn with hsame | hnone
      · exact hs kept (hsame ▸ hkept)
      · rw [hnone] at hkept
        cases hkept
    rw [after_eq]
    cases turn.spawned with
    | none =>
      intro kept hkept
      rw [Option.elim_none] at hkept ⊢
      rw [shared_settled] at hkept
      rw [fresh_settled]
      exact hold kept hkept
    | some spawn =>
      intro kept hkept
      rw [Option.elim_some] at hkept ⊢
      rw [fresh_start, fresh_settled]
      cases spawn with
      | follow watch =>
        -- the new watch is followed by the task that starts with it
        cases hkept
        exact Nat.lt_succ_of_le (Nat.le_of_eq (fresh_settled s n turn))
      | single | batch =>
        refine Nat.lt_succ_of_lt (hold kept ?_)
        rw [← shared_settled s n turn]
        exact hkept

namespace Run
variable {config : Config} (e : Run (.initial config))

theorem followed (t : Nat) : (e.state t).Followed :=
  e.invariant (fun _ h => nomatch h) (fun hs h => hs.step h) t

/-- In tick `t` a change is sent to loop `n`. -/
def Sends (t n : Nat) : Prop := ∃ path, (e.move t).bind (e.state t).sent? = some (n, path)

/-- In tick `t` loop `n` begins its batch of number `round`: its queue is drained. -/
def Begins (t n round : Nat) : Prop :=
  (e.state t).loop? n = some ⟨[], .draining, round⟩ ∧
    (e.state (t + 1)).loop? n = some ⟨[], .validating .listing, round⟩

/-- In tick `t` the batch of number `round` of loop `n` makes its last step, and the loop
waits again. -/
def Finishes (t n round : Nat) : Prop :=
  ∃ queue b place answer events, (e.state t).loop? n = some ⟨queue, .validating b, round⟩ ∧
    e.move t = some (.advance n place answer) ∧
    b.step (e.state t).shared n round place answer = some (none, events) ∧
    (e.state (t + 1)).loop? n = some ⟨queue, .waiting, round + 1⟩

/-! ## What a tick does to a loop -/

/-- **What tick `t` can do to loop `n`**, if it is there afterwards. -/
inductive LoopTick (t n : Nat) : WatchLoop → Prop
  | begins (hfresh : n = (e.state t).fresh) : LoopTick t n .start
  | stays (loop : WatchLoop) (hloop : (e.state t).loop? n = some loop) (hsends : ¬ e.Sends t n) :
    LoopTick t n loop
  | sent (loop : WatchLoop) (path : Path) (hloop : (e.state t).loop? n = some loop)
    (hsends : e.Sends t n) : LoopTick t n (loop.push path)
  | goes (loop next : WatchLoop) (place : Nat) (answer : Answer)
    (hloop : (e.state t).loop? n = some loop) (hmove : e.move t = some (.advance n place answer))
    (hgoes : WatchLoop.Goes (e.state t).shared n place answer loop next)
    (hsends : ¬ e.Sends t n) : LoopTick t n next

variable {e}

theorem loop_succ {t n : Nat} {loop : WatchLoop} (h : (e.state (t + 1)).loop? n = some loop) :
    e.LoopTick t n loop := by
  have hsilent {m : Move} (hm : e.move t = some m) (hnone : (e.state t).sent? m = none) :
      ¬ e.Sends t n := by
    rintro ⟨path, hpath⟩
    simp [hm, hnone] at hpath
  have hstays (hmem : (n, Task.follow loop) ∈ (e.state t).tasks) (hsends : ¬ e.Sends t n) :
      e.LoopTick t n loop :=
    .stays loop (loop?_eq_some.mpr ((e.numbered t).task?_eq hmem)) hsends
  have hafter := mem_of_task? (loop?_eq_some.mp h)
  cases hm : e.move t with
  | none =>
    refine .stays loop (e.idle t hm ▸ h) ?_
    rintro ⟨path, hpath⟩
    simp [hm] at hpath
  | some m =>
    have hstep := e.moved t m hm
    cases m with
    | arrive request =>
      rw [step_arrive hstep] at hafter
      rcases mem_add.mp hafter with hold | ⟨_, hnew⟩
      · exact hstays hold (hsilent hm rfl)
      · cases request with
        | changeDocument url texts version =>
          cases hlast : texts.getLast? <;> simp [Task.ofRequest, hlast] at hnew
        | _ => cases hnew
    | advance k place answer =>
      obtain ⟨task, turn, htask, hturn, hstate, _⟩ := e.advanced hm
      rw [hstate] at hafter
      rcases (mem_after htask).mp hafter with ⟨hother, _⟩ | ⟨rfl, hnext⟩ | ⟨spawn, _, hfresh, hnew⟩
      · exact hstays hother (hsilent hm rfl)
      · obtain ⟨old, rfl, hgoes⟩ := Task.follow_of_step hturn hnext
        exact .goes old loop place answer (loop?_eq_some.mpr htask) hm hgoes (hsilent hm rfl)
      · cases spawn with
        | follow watch =>
          cases hnew
          exact .begins hfresh
        | single | batch => cases hnew
    | fileChanged changed =>
      rw [step_fileChanged hstep] at h
      cases hsent : (e.state t).sent? (.fileChanged changed) with
      | none =>
        rw [deliver_of_not_sent hsent] at h
        exact .stays loop h (hsilent hm hsent)
      | some sent =>
        obtain ⟨k, path⟩ := sent
        obtain ⟨old, hold, rfl⟩ := loop?_of_sent (e.numbered t) hsent h
        split
        · rename_i hk
          subst hk
          exact .sent old path hold ⟨path, by simp [hm, hsent]⟩
        · rename_i hk
          refine .stays old hold ?_
          rintro ⟨path', hpath'⟩
          simp only [hm, Option.bind_some, hsent, Option.some.injEq, Prod.mk.injEq] at hpath'
          exact hk hpath'.1.symm
    | abandon k =>
      rw [step_abandon hstep] at hafter
      exact hstays (mem_remove.mp hafter).1 (hsilent hm rfl)

theorem lt_fresh_of_loop {t n : Nat} {loop : WatchLoop} (h : (e.state t).loop? n = some loop) :
    n < (e.state t).fresh :=
  (e.numbered t).given _ (mem_of_task? (loop?_eq_some.mp h))

theorem lt_fresh_of_sends {t n : Nat} (h : e.Sends t n) : n < (e.state t).fresh := by
  obtain ⟨path, hpath⟩ := h
  obtain ⟨m, _, hsent⟩ := Option.bind_eq_some_iff.mp hpath
  cases m with
  | fileChanged changed =>
    obtain ⟨kept, hkept, hreport⟩ := Option.bind_eq_some_iff.mp hsent
    obtain ⟨_, _, heq⟩ := Option.map_eq_some_iff.mp hreport
    cases heq
    exact e.followed t kept hkept
  | _ => cases hsent

/-! ## No change is lost -/

variable (e)

/-- A batch of loop `n` that began after tick `i` has finished before tick `t`. -/
def Served (i t n : Nat) : Prop :=
  ∃ round j f, i < j ∧ j < f ∧ f < t ∧ e.Begins j n round ∧ e.Finishes f n round

/-- **What has become of a change** that was sent in tick `i`, when the loop has come to
`loop` by tick `t`. -/
inductive Accounted (i t n : Nat) (loop : WatchLoop) : Prop
  | served (h : e.Served i t n)
  | running (j : Nat) (b : Batch) (hstage : loop.stage = .validating b) (hij : i < j) (hjt : j < t)
    (hbegins : e.Begins j n loop.round)
  /-- The loop is bound to begin another batch. -/
  | pending (h : loop.queue ≠ [] ∨ loop.stage = .draining)

variable {e}

theorem Served.succ {i t n : Nat} (h : e.Served i t n) : e.Served i (t + 1) n := by
  obtain ⟨round, j, f, hij, hjf, hft, hrest⟩ := h
  exact ⟨round, j, f, hij, hjf, Nat.lt_succ_of_lt hft, hrest⟩

theorem Accounted.succ {i t n : Nat} {loop : WatchLoop} (h : e.Accounted i t n loop) :
    e.Accounted i (t + 1) n loop := by
  cases h with
  | served h => exact .served h.succ
  | running j b hstage hij hjt hbegins =>
    exact .running j b hstage hij (Nat.lt_succ_of_lt hjt) hbegins
  | pending h => exact .pending h

/-- A step of the loop keeps account of a change that was sent before. -/
theorem Accounted.goes {i t n place : Nat} {answer : Answer} {loop next : WatchLoop}
    (h : e.Accounted i t n loop) (hit : i < t) (hloop : (e.state t).loop? n = some loop)
    (hnext : (e.state (t + 1)).loop? n = some next)
    (hmove : e.move t = some (.advance n place answer))
    (hgoes : WatchLoop.Goes (e.state t).shared n place answer loop next) :
    e.Accounted i (t + 1) n next := by
  cases hgoes with
  | receive | discard => exact .pending (Or.inr rfl)
  | start round => exact .running t .listing rfl hit (Nat.lt_succ_self t) ⟨hloop, hnext⟩
  | validate queue b b' round events hbatch =>
    cases h with
    | served h => exact .served h.succ
    | running j _ _ hij hjt hbegins =>
      exact .running j b' rfl hij (Nat.lt_succ_of_lt hjt) hbegins
    | pending h => exact .pending (Or.inl (h.resolve_right (by simp)))
  | finish queue b round events hbatch =>
    cases h with
    | served h => exact .served h.succ
    | running j _ _ hij hjt hbegins =>
      exact .served ⟨round, j, t, hij, hjt, Nat.lt_succ_self t, hbegins,
        queue, b, place, answer, events, hloop, hmove, hbatch, hnext⟩
    | pending h => exact .pending (Or.inl (h.resolve_right (by simp)))

theorem accounted {i t n : Nat} {loop : WatchLoop} (hloop : (e.state t).loop? n = some loop)
    (hit : i < t) (hsends : e.Sends i n) : e.Accounted i t n loop := by
  induction t generalizing loop with
  | zero => exact absurd hit (Nat.not_lt_zero i)
  | succ t ih =>
    have hbefore (hnot : ¬ e.Sends t n) : i < t := by
      refine Nat.lt_of_le_of_ne (Nat.le_of_lt_succ hit) ?_
      rintro rfl
      exact hnot hsends
    cases loop_succ hloop with
    | begins hfresh =>
      -- nothing can have been sent to a loop before it has its number
      have hgiven := lt_fresh_of_sends hsends
      have hmono := e.fresh_mono (Nat.le_of_lt_succ hit)
      omega
    | stays _ hold hnot => exact (ih hold (hbefore hnot)).succ
    | sent old path hold _ => exact .pending (Or.inl (by simp [WatchLoop.push]))
    | goes old _ place answer hold hmove hgoes hnot =>
      exact (ih hold (hbefore hnot)).goes (hbefore hnot) hold hloop hmove hgoes

/-! ## One batch at a time -/

/-- A batch that has begun is running, or has finished. -/
theorem Begins.running_or_finished {j u n round : Nat} (h : e.Begins j n round) (hju : j < u)
    {loop : WatchLoop} (hloop : (e.state u).loop? n = some loop) :
    (∃ queue b, loop = ⟨queue, .validating b, round⟩) ∨
      ∃ f, j < f ∧ f < u ∧ e.Finishes f n round := by
  induction u, hju using Nat.le_induction generalizing loop with
  | base =>
    cases h.2.symm.trans hloop
    exact Or.inl ⟨[], .listing, rfl⟩
  | succ u hju ih =>
    have hlater (hfinished : ∃ f, j < f ∧ f < u ∧ e.Finishes f n round) :
        ∃ f, j < f ∧ f < u + 1 ∧ e.Finishes f n round := by
      obtain ⟨f, hjf, hfu, hfinishes⟩ := hfinished
      exact ⟨f, hjf, Nat.lt_succ_of_lt hfu, hfinishes⟩
    cases loop_succ hloop with
    | begins hfresh =>
      have hgiven := lt_fresh_of_loop h.1
      have hmono := e.fresh_mono (Nat.le_of_lt hju)
      omega
    | stays _ hold _ => exact (ih hold).imp_right hlater
    | sent old path hold _ =>
      rcases ih hold with ⟨queue, b, rfl⟩ | hfinished
      · exact Or.inl ⟨queue ++ [path], b, rfl⟩
      · exact Or.inr (hlater hfinished)
    | goes old _ place answer hold hmove hgoes _ =>
      rcases ih hold with ⟨queue, b, rfl⟩ | hfinished
      · cases hgoes with
        | validate _ _ b' => exact Or.inl ⟨queue, b', rfl⟩
        | finish _ _ _ events hbatch =>
          exact Or.inr ⟨u, hju, Nat.lt_succ_self u, queue, b, place, answer, events, hold, hmove,
            hbatch, hloop⟩
      · exact Or.inr (hlater hfinished)

/-! ## Counting batches and changes -/

open Classical in
/-- The batches that have begun and those that are owed are not more than the changes. -/
theorem count_begins_add_owed_le (n t : Nat) :
    Nat.count (fun j => ∃ round, e.Begins j n round) t +
        ((e.state t).loop? n).elim 0 WatchLoop.owed ≤
      Nat.count (fun i => e.Sends i n) t := by
  induction t with
  | zero =>
    rw [e.initial_state]
    exact Nat.le_refl 0
  | succ t ih =>
    rw [Nat.count_succ, Nat.count_succ]
    have hquiet {old loop : WatchLoop} (hold : (e.state t).loop? n = some old)
        (hloop : (e.state (t + 1)).loop? n = some loop)
        (hne : ∀ round, old = ⟨[], .draining, round⟩ → loop ≠ ⟨[], .validating .listing, round⟩) :
        ¬ ∃ round, e.Begins t n round := by
      rintro ⟨round, hbefore, hafter⟩
      rw [hold] at hbefore
      rw [hloop] at hafter
      exact hne round (Option.some.inj hbefore) (Option.some.inj hafter)
    cases hloop : (e.state (t + 1)).loop? n with
    | none =>
      have hnot : ¬ ∃ round, e.Begins t n round := by
        rintro ⟨round, _, hafter⟩
        rw [hloop] at hafter
        cases hafter
      rw [if_neg hnot, Option.elim_none]
      omega
    | some loop =>
      rw [Option.elim_some]
      cases loop_succ hloop with
      | begins hfresh =>
        have hnot : ¬ ∃ round, e.Begins t n round := by
          rintro ⟨round, hbefore, _⟩
          have hgiven := lt_fresh_of_loop hbefore
          omega
        rw [if_neg hnot]
        simp only [WatchLoop.owed, WatchLoop.start, List.length_nil]
        omega
      | stays _ hold hnot =>
        rw [hold, Option.elim_some] at ih
        rw [if_neg hnot, if_neg (hquiet hold hloop (by rintro round rfl; simp))]
        exact ih
      | sent old path hold hsends =>
        rw [hold, Option.elim_some] at ih
        rw [if_pos hsends, if_neg (hquiet hold hloop (by rintro round rfl; simp [WatchLoop.push])),
          WatchLoop.owed_push]
        omega
      | goes old _ place answer hold hmove hgoes hnot =>
        rw [hold, Option.elim_some] at ih
        rw [if_neg hnot]
        cases hgoes with
        | start round =>
          rw [if_pos ⟨round, hold, hloop⟩]
          exact ih
        | receive path queue round | discard path queue round =>
          rw [if_neg (hquiet hold hloop (by simp))]
          simp only [WatchLoop.owed, List.length_cons] at ih ⊢
          omega
        | validate | finish =>
          rw [if_neg (hquiet hold hloop (by simp))]
          exact ih

open Classical in
/-- **Coalescing changes loses none.**  Whenever a loop waits with an empty queue, each
change that was ever sent to it has been followed by a batch that began after it and has
made its last step.  A loop begins a batch only when the one before has finished, and has
never begun more batches than changes were sent to it. -/
theorem coalesced {config : Config} (e : Run (.initial config)) (n : Nat) :
    (∀ t round, (e.state t).loop? n = some ⟨[], .waiting, round⟩ →
      ∀ i < t, e.Sends i n → e.Served i t n) ∧
    (∀ j j' round round', j < j' → e.Begins j n round → e.Begins j' n round' →
      ∃ f, j < f ∧ f < j' ∧ e.Finishes f n round) ∧
    ∀ t, Nat.count (fun j => ∃ round, e.Begins j n round) t ≤
      Nat.count (fun i => e.Sends i n) t := by
  refine ⟨?_, ?_, fun t => Nat.le_trans (Nat.le_add_right _ _) (count_begins_add_owed_le n t)⟩
  · intro t round hloop i hit hsends
    cases accounted hloop hit hsends with
    | served h => exact h
    | running _ _ hstage => cases hstage
    | pending h => simp at h
  · intro j j' round round' hlt hbegins hbegins'
    rcases hbegins.running_or_finished hlt hbegins'.1 with ⟨queue, b, heq⟩ | hfinished
    · cases heq
    · exact hfinished

end Run

/-! ### A burst of changes

The loop is task 2.  Changes are sent to it while it waits (tick 10), while it drains its
queue (tick 12) and while its first batch runs (tick 15). -/

namespace Sample

/-- A watch on a directory. -/
def watch : FileWatch := ⟨.ofString "/w", [Utf8.ofString "w"]⟩

/-- The manifest in it. -/
def manifest : Location := [Utf8.ofString "w", Utf8.ofString "package.json"]

/-- The run. -/
def burst : Run (.initial .default) :=
  .ofMoves (.initial .default)
    [.arrive (.handshake ⟨none, [], some (.ofString "/w"), none⟩), .advance 0 0 .proceed,
      .advance 0 0 .proceed, .advance 0 0 .proceed, .advance 0 0 (.loaded (.ok "standard")),
      .advance 0 0 .proceed, .arrive .announce, .advance 1 0 .proceed, .advance 1 0 .proceed,
      .advance 1 0 (.watching (.ok watch)), .fileChanged manifest, .advance 2 0 .proceed,
      .fileChanged manifest, .advance 2 0 .proceed, .advance 2 0 .proceed, .fileChanged manifest,
      .advance 2 0 (.listed []), .advance 2 0 .proceed, .advance 2 0 .proceed,
      .advance 2 0 (.listed [])] rfl

end Sample

/-- The change that is sent while a batch runs is served by the next one. -/
theorem Run.coalesced_burst : (Sample.burst.state 20).loop? 2 = some ⟨[], .waiting, 2⟩ ∧
    Sample.burst.Sends 15 2 ∧ Sample.burst.Served 15 20 2 := by
  have hloop : (Sample.burst.state 20).loop? 2 = some ⟨[], .waiting, 2⟩ := rfl
  have hsends : Sample.burst.Sends 15 2 := ⟨_, rfl⟩
  exact ⟨hloop, hsends, (Sample.burst.coalesced 2).1 20 2 hloop 15 (by decide) hsends⟩

end Server

end LintServer
