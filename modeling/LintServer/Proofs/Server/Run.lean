import LintServer.Server.Machine

/-! # Runs of a server

`Server.step` makes one move.  A `Server.Run` gives, for every tick, the move
that is made, if any, and the server's state.  Nothing is said about who moves
when, so every interleaving of the tasks is a run, and so is every finite
sequence of moves (`Run.ofMoves`), idle for ever after its last one.

Beside runs this module says what one move does to the list of tasks
(`mem_after`, `Numbered.step`) and to the journal (`step_journal`): a running
task keeps its number, no two tasks share one, and entries are only added.
-/
namespace LintServer

namespace Server

/-! ## The list of tasks -/

theorem mem_of_task? {s : Server} {n : Nat} {task : Task} (h : s.task? n = some task) :
    (n, task) ∈ s.tasks := by
  obtain ⟨l, r, hsplit, _⟩ := List.lookup_eq_some_iff.mp h
  rw [hsplit]
  exact List.mem_append_right _ List.mem_cons_self

theorem mem_add {s : Server} {make : Nat → Task} {n : Nat} {task : Task} :
    (n, task) ∈ (s.add make).tasks ↔
      (n, task) ∈ s.tasks ∨ n = s.fresh ∧ task = make s.fresh := by
  simp [add]

theorem mem_remove {s : Server} {k n : Nat} {task : Task} :
    (n, task) ∈ (s.remove k).tasks ↔ (n, task) ∈ s.tasks ∧ n ≠ k := by
  simp [remove]

theorem mem_replace {s : Server} {k n : Nat} {new task : Task} :
    (n, task) ∈ (s.replace k new).tasks ↔
      (n, task) ∈ s.tasks ∧ n ≠ k ∨ n = k ∧ task = new ∧ ∃ old, (k, old) ∈ s.tasks := by
  simp only [replace, List.mem_map]
  constructor
  · rintro ⟨⟨m, old⟩, hold, he⟩
    by_cases hm : m = k
    · subst hm
      simp only [ite_true, Prod.mk.injEq] at he
      exact Or.inr ⟨he.1.symm, he.2.symm, old, hold⟩
    · simp only [hm, ite_false, Prod.mk.injEq] at he
      obtain ⟨rfl, rfl⟩ := he
      exact Or.inl ⟨hold, hm⟩
  · rintro (⟨hold, hne⟩ | ⟨rfl, rfl, old, hold⟩)
    · exact ⟨(n, task), hold, by simp [hne]⟩
    · exact ⟨(n, old), hold, by simp⟩

@[simp] theorem tasks_record (s : Server) (events : List Event) :
    (s.record events).tasks = s.tasks := rfl

@[simp] theorem tasks_start (s : Server) (spawn : Task.Spawn) :
    (s.start spawn).tasks = s.tasks ++ [(s.fresh, .ofSpawn s.fresh spawn)] := by
  cases spawn <;> rfl

@[simp] theorem fresh_start (s : Server) (spawn : Task.Spawn) :
    (s.start spawn).fresh = s.fresh + 1 := by
  cases spawn <;> rfl

@[simp] theorem journal_start (s : Server) (spawn : Task.Spawn) :
    (s.start spawn).journal = s.journal := by
  cases spawn <;> rfl

/-- The server after a step of a task, before the task it started is added. -/
def settled (s : Server) (n : Nat) (turn : Task.Turn) : Server :=
  match turn.next with
  | .inl task => ({ s with shared := turn.shared }.record turn.events).replace n task
  | .inr outcome =>
    (({ s with shared := turn.shared }.record turn.events).remove n).record [.ended n outcome]

theorem after_eq (s : Server) (n : Nat) (turn : Task.Turn) :
    s.after n turn = turn.spawned.elim (s.settled n turn) (s.settled n turn).start := by
  unfold after settled
  cases turn.next <;> rfl

@[simp] theorem fresh_settled (s : Server) (n : Nat) (turn : Task.Turn) :
    (s.settled n turn).fresh = s.fresh := by
  unfold settled
  split <;> rfl

@[simp] theorem shared_settled (s : Server) (n : Nat) (turn : Task.Turn) :
    (s.settled n turn).shared = turn.shared := by
  unfold settled
  split <;> rfl

theorem mem_settled {s : Server} {n k : Nat} {old task : Task} {turn : Task.Turn}
    (hn : s.task? n = some old) :
    (k, task) ∈ (s.settled n turn).tasks ↔
      (k, task) ∈ s.tasks ∧ k ≠ n ∨ k = n ∧ turn.next = .inl task := by
  unfold settled
  cases hnext : turn.next with
  | inl new =>
    simp only [mem_replace, tasks_record, Sum.inl.injEq]
    constructor
    · rintro (h | ⟨hk, rfl, _⟩)
      · exact Or.inl h
      · exact Or.inr ⟨hk, rfl⟩
    · rintro (h | ⟨hk, rfl⟩)
      · exact Or.inl h
      · exact Or.inr ⟨hk, rfl, old, mem_of_task? hn⟩
  | inr outcome => simp [mem_remove]

/-- **The tasks after a step of task `n`**: the others, what has become of it,
and the task it started. -/
theorem mem_after {s : Server} {n k : Nat} {old task : Task} {turn : Task.Turn}
    (hn : s.task? n = some old) :
    (k, task) ∈ (s.after n turn).tasks ↔
      (k, task) ∈ s.tasks ∧ k ≠ n ∨ k = n ∧ turn.next = .inl task ∨
        ∃ spawn, turn.spawned = some spawn ∧ k = s.fresh ∧ task = .ofSpawn s.fresh spawn := by
  rw [after_eq]
  cases turn.spawned with
  | none => simp [mem_settled hn]
  | some spawn =>
    simp only [Option.elim_some, tasks_start, List.mem_append, mem_settled hn, List.mem_singleton,
      Prod.mk.injEq, fresh_settled, Option.some.injEq, or_assoc]
    constructor
    · rintro (h | h | ⟨rfl, rfl⟩)
      · exact Or.inl h
      · exact Or.inr (Or.inl h)
      · exact Or.inr (Or.inr ⟨spawn, rfl, rfl, rfl⟩)
    · rintro (h | h | ⟨_, rfl, rfl, rfl⟩)
      · exact Or.inl h
      · exact Or.inr (Or.inl h)
      · exact Or.inr (Or.inr ⟨rfl, rfl⟩)

/-- What a step of a task writes into the journal, the latest first. -/
def entries (n : Nat) (turn : Task.Turn) : List Event :=
  match turn.next with
  | .inl _ => turn.events.reverse
  | .inr outcome => .ended n outcome :: turn.events.reverse

theorem mem_entries {n : Nat} {turn : Task.Turn} {event : Event} (h : event ∈ turn.events) :
    event ∈ entries n turn := by
  unfold entries
  split
  · exact List.mem_reverse.mpr h
  · exact List.mem_cons_of_mem _ (List.mem_reverse.mpr h)

theorem mem_entries_cases {n : Nat} {turn : Task.Turn} {event : Event}
    (h : event ∈ entries n turn) :
    event ∈ turn.events ∨ ∃ outcome, turn.next = .inr outcome ∧ event = .ended n outcome := by
  unfold entries at h
  split at h
  · exact Or.inl (List.mem_reverse.mp h)
  · rename_i outcome hnext
    rcases List.mem_cons.mp h with rfl | hmem
    · exact Or.inr ⟨outcome, hnext, rfl⟩
    · exact Or.inl (List.mem_reverse.mp hmem)

theorem journal_settled (s : Server) (n : Nat) (turn : Task.Turn) :
    (s.settled n turn).journal = entries n turn ++ s.journal := by
  unfold settled entries
  cases turn.next <;> rfl

theorem journal_after (s : Server) (n : Nat) (turn : Task.Turn) :
    (s.after n turn).journal = entries n turn ++ s.journal := by
  rw [after_eq]
  cases turn.spawned with
  | none => exact journal_settled s n turn
  | some spawn => rw [Option.elim_some, journal_start, journal_settled]

/-- A task that was started can only change which file watch is kept. -/
theorem shared_after (s : Server) (n : Nat) (turn : Task.Turn) :
    (s.after n turn).shared.phase = turn.shared.phase ∧
      (s.after n turn).shared.settings = turn.shared.settings ∧
      (s.after n turn).shared.documents = turn.shared.documents := by
  rw [after_eq]
  cases turn.spawned with
  | none => simp
  | some spawn => cases spawn <;> simp [start, add]

theorem task?_deliver (s : Server) (changed : Location) :
    (s.deliver changed).tasks = s.tasks ∨ ∃ k path,
      (s.deliver changed).tasks =
        s.tasks.map fun e => if e.1 = k then (e.1, push path e.2) else e := by
  unfold deliver
  split
  · exact Or.inl rfl
  · split
    · exact Or.inl rfl
    · rename_i kept _ _ path _
      exact Or.inr ⟨kept.follower, path, rfl⟩

/-- A changed file only reaches queues. -/
theorem mem_deliver {s : Server} {changed : Location} {n : Nat} {task : Task}
    (h : (n, task) ∈ (s.deliver changed).tasks) :
    ∃ old, (n, old) ∈ s.tasks ∧ (task = old ∨ ∃ path, task = push path old) := by
  rcases task?_deliver s changed with he | ⟨k, path, he⟩
  · rw [he] at h
    exact ⟨task, h, Or.inl rfl⟩
  · rw [he] at h
    obtain ⟨⟨m, old⟩, hold, heq⟩ := List.mem_map.mp h
    split at heq
    · obtain ⟨rfl, rfl⟩ := Prod.mk.inj heq
      exact ⟨old, hold, Or.inr ⟨path, rfl⟩⟩
    · obtain ⟨rfl, rfl⟩ := Prod.mk.inj heq
      exact ⟨old, hold, Or.inl rfl⟩

@[simp] theorem deliver_rest (s : Server) (changed : Location) :
    (s.deliver changed).shared = s.shared ∧ (s.deliver changed).journal = s.journal ∧
      (s.deliver changed).fresh = s.fresh := by
  unfold deliver
  split
  · exact ⟨rfl, rfl, rfl⟩
  · split <;> exact ⟨rfl, rfl, rfl⟩

/-- A step of a task, taken apart. -/
theorem step_advance {s s' : Server} {n place : Nat} {answer : Answer}
    (h : s.step (.advance n place answer) = some s') :
    ∃ task turn, s.task? n = some task ∧
      task.step s.config s.shared n place answer = some turn ∧ s' = s.after n turn := by
  obtain ⟨task, htask, h⟩ := Option.bind_eq_some_iff.mp h
  obtain ⟨turn, hturn, h⟩ := Option.map_eq_some_iff.mp h
  exact ⟨task, turn, htask, hturn, h.symm⟩

theorem step_arrive {s s' : Server} {request : Request} (h : s.step (.arrive request) = some s') :
    s' = s.add fun n => .ofRequest n request :=
  (Option.some.inj h).symm

theorem step_fileChanged {s s' : Server} {changed : Location}
    (h : s.step (.fileChanged changed) = some s') : s' = s.deliver changed :=
  (Option.some.inj h).symm

theorem step_abandon {s s' : Server} {n : Nat} (h : s.step (.abandon n) = some s') :
    s' = s.remove n := by
  obtain ⟨_, _, h⟩ := Option.map_eq_some_iff.mp h
  exact h.symm

/-- The journal only grows. -/
theorem step_journal {s s' : Server} {m : Move} (h : s.step m = some s') :
    ∃ new, s'.journal = new ++ s.journal := by
  cases m with
  | arrive request => exact ⟨[], by rw [step_arrive h]; rfl⟩
  | advance n place answer =>
    obtain ⟨task, turn, _, _, rfl⟩ := step_advance h
    exact ⟨_, journal_after s n turn⟩
  | fileChanged changed =>
    exact ⟨[], by rw [step_fileChanged h, (deliver_rest s changed).2.1]; rfl⟩
  | abandon n => exact ⟨[], by rw [step_abandon h]; rfl⟩

/-- Numbers are given out in their order, and none twice. -/
theorem step_fresh {s s' : Server} {m : Move} (h : s.step m = some s') : s.fresh ≤ s'.fresh := by
  cases m with
  | arrive request => rw [step_arrive h]; exact Nat.le_succ _
  | advance n place answer =>
    obtain ⟨task, turn, _, _, rfl⟩ := step_advance h
    rw [after_eq]
    cases turn.spawned with
    | none => exact Nat.le_of_eq (fresh_settled s n turn).symm
    | some spawn => rw [Option.elim_some, fresh_start, fresh_settled]; exact Nat.le_succ _
  | fileChanged changed =>
    exact Nat.le_of_eq (by rw [step_fileChanged h, (deliver_rest s changed).2.2])
  | abandon n => rw [step_abandon h]; exact Nat.le_refl _

/-! ## Numbers -/

/-- Running tasks have different numbers, all of them given out. -/
structure Numbered (s : Server) : Prop where
  distinct : (s.tasks.map Prod.fst).Nodup
  given : ∀ e ∈ s.tasks, e.1 < s.fresh

namespace Numbered

theorem initial (config : Config) : Numbered (.initial config) := by
  constructor <;> simp [Server.initial]

/-- With different numbers, a number stands for one task. -/
theorem task?_eq {s : Server} (hs : Numbered s) {n : Nat} {task : Task}
    (h : (n, task) ∈ s.tasks) : s.task? n = some task := by
  obtain ⟨l, r, hsplit⟩ := List.append_of_mem h
  have hd := hs.distinct
  rw [hsplit, List.map_append, List.map_cons] at hd
  obtain ⟨_, _, hdisj⟩ := List.nodup_append.mp hd
  -- the entries in front have other numbers, so the search goes past them
  refine List.lookup_eq_some_iff.mpr ⟨l, r, hsplit, ?_⟩
  intro p hp
  have hne := hdisj p.1 (List.mem_map_of_mem hp) n List.mem_cons_self
  simpa [bne_iff_ne] using fun he : n = p.1 => hne he.symm

theorem unique {s : Server} (hs : Numbered s) {n : Nat} {task other : Task}
    (h : (n, task) ∈ s.tasks) (h' : s.task? n = some other) : task = other :=
  Option.some.inj ((hs.task?_eq h).symm.trans h')

theorem add {s : Server} (hs : Numbered s) (make : Nat → Task) : Numbered (s.add make) := by
  constructor
  · simp only [Server.add, List.map_append, List.map_cons, List.map_nil]
    refine List.nodup_append.mpr ⟨hs.distinct, by simp, ?_⟩
    intro a ha b hb he
    obtain ⟨e, hmem, rfl⟩ := List.mem_map.mp ha
    have := hs.given e hmem
    rw [he, List.mem_singleton.mp hb] at this
    exact Nat.lt_irrefl _ this
  · rintro ⟨n, task⟩ hmem
    rcases mem_add.mp hmem with h | ⟨rfl, _⟩
    · exact Nat.lt_succ_of_lt (hs.given _ h)
    · exact Nat.lt_succ_self _

theorem remove {s : Server} (hs : Numbered s) (n : Nat) : Numbered (s.remove n) where
  distinct := hs.distinct.sublist (List.filter_sublist.map _)
  given := fun e he => hs.given e (List.mem_filter.mp he).1

/-- Putting other tasks in the places of the old ones keeps the numbers. -/
theorem of_numbers {s s' : Server} (hs : Numbered s)
    (hnumbers : s'.tasks.map Prod.fst = s.tasks.map Prod.fst) (hfresh : s'.fresh = s.fresh) :
    Numbered s' where
  distinct := hnumbers ▸ hs.distinct
  given := by
    intro e he
    have hmem : e.1 ∈ s.tasks.map Prod.fst := hnumbers ▸ List.mem_map_of_mem he
    obtain ⟨old, hold, hnumber⟩ := List.mem_map.mp hmem
    rw [hfresh, ← hnumber]
    exact hs.given old hold

theorem settled {s : Server} (hs : Numbered s) (n : Nat) (turn : Task.Turn) :
    Numbered (s.settled n turn) := by
  unfold Server.settled
  cases turn.next with
  | inl task =>
    refine hs.of_numbers ?_ rfl
    simp only [replace, tasks_record, List.map_map]
    refine List.map_congr_left fun e _ => ?_
    by_cases he : e.1 = n <;> simp [he]
  | inr outcome => exact (hs.remove n).of_numbers rfl rfl

theorem step {s s' : Server} (hs : Numbered s) {m : Move} (h : s.step m = some s') :
    Numbered s' := by
  cases m with
  | arrive request =>
    rw [step_arrive h]
    exact hs.add _
  | advance n place answer =>
    obtain ⟨task, turn, _, _, rfl⟩ := step_advance h
    rw [after_eq]
    cases turn.spawned with
    | none => exact hs.settled n turn
    | some spawn =>
      exact ((hs.settled n turn).add fun k => .ofSpawn k spawn).of_numbers (by simp [Server.add])
        (by simp [Server.add])
  | fileChanged changed =>
    rw [step_fileChanged h]
    refine hs.of_numbers ?_ (deliver_rest s changed).2.2
    rcases task?_deliver s changed with he | ⟨k, path, he⟩
    · rw [he]
    · rw [he, List.map_map]
      refine List.map_congr_left fun e _ => ?_
      simp only [Function.comp]
      split <;> rfl
  | abandon n =>
    rw [step_abandon h]
    exact hs.remove n

end Numbered

/-! ## Runs -/

/-- **A run of a server.**  In each tick one move is made, or none; `state t` is
the server before tick `t`. -/
structure Run (start : Server) where
  move : Nat → Option Move
  state : Nat → Server
  initial_state : state 0 = start
  idle : ∀ t, move t = none → state (t + 1) = state t
  moved : ∀ t m, move t = some m → (state t).step m = some (state (t + 1))

namespace Run

section Facts
variable {start : Server} (e : Run start)

theorem next (t : Nat) : e.state (t + 1) = e.state t ∨
    ∃ m, e.move t = some m ∧ (e.state t).step m = some (e.state (t + 1)) := by
  cases hm : e.move t with
  | none => exact Or.inl (e.idle t hm)
  | some m => exact Or.inr ⟨m, rfl, e.moved t m hm⟩

/-- What every move keeps holds throughout a run. -/
theorem invariant {P : Server → Prop} (hstart : P start)
    (hstep : ∀ {s s' m}, P s → s.step m = some s' → P s') (t : Nat) : P (e.state t) := by
  induction t with
  | zero => rw [e.initial_state]; exact hstart
  | succ t ih =>
    rcases e.next t with h | ⟨m, _, h⟩
    · rw [h]; exact ih
    · exact hstep ih h

theorem journal_mono {t u : Nat} (htu : t ≤ u) :
    ∃ new, (e.state u).journal = new ++ (e.state t).journal := by
  obtain ⟨d, rfl⟩ := Nat.exists_eq_add_of_le htu
  clear htu
  induction d with
  | zero => exact ⟨[], rfl⟩
  | succ d ih =>
    obtain ⟨new, hnew⟩ := ih
    rw [← Nat.add_assoc]
    rcases e.next (t + d) with h | ⟨m, _, h⟩
    · rw [h]; exact ⟨new, hnew⟩
    · obtain ⟨more, hmore⟩ := step_journal h
      exact ⟨more ++ new, by rw [hmore, hnew, List.append_assoc]⟩

/-- What is written into the journal in a tick, the latest first. -/
def written (t : Nat) : List Event :=
  (e.state (t + 1)).journal.take
    ((e.state (t + 1)).journal.length - (e.state t).journal.length)

theorem written_eq {t : Nat} {new : List Event}
    (h : (e.state (t + 1)).journal = new ++ (e.state t).journal) : e.written t = new := by
  simp [written, h]

theorem journal_succ (t : Nat) :
    (e.state (t + 1)).journal = e.written t ++ (e.state t).journal := by
  obtain ⟨new, hnew⟩ := e.journal_mono (Nat.le_succ t)
  rw [e.written_eq hnew, hnew]

/-- A tick in which a task moves, taken apart. -/
theorem advanced {t n place : Nat} {answer : Answer}
    (hmove : e.move t = some (.advance n place answer)) :
    ∃ task turn, (e.state t).task? n = some task ∧
      task.step (e.state t).config (e.state t).shared n place answer = some turn ∧
      e.state (t + 1) = (e.state t).after n turn ∧ e.written t = entries n turn := by
  obtain ⟨task, turn, htask, hturn, hafter⟩ := step_advance (e.moved t _ hmove)
  exact ⟨task, turn, htask, hturn, hafter,
    e.written_eq (hafter ▸ journal_after (e.state t) n turn)⟩

/-- Only a step of a task writes into the journal. -/
theorem written_cases {t : Nat} {event : Event} (h : event ∈ e.written t) :
    ∃ n place answer task turn, e.move t = some (.advance n place answer) ∧
      (e.state t).task? n = some task ∧
      task.step (e.state t).config (e.state t).shared n place answer = some turn ∧
      e.state (t + 1) = (e.state t).after n turn ∧ event ∈ entries n turn := by
  -- a tick that leaves the journal as it is has written nothing
  have hsame (hj : (e.state (t + 1)).journal = [] ++ (e.state t).journal) :
      event ∉ e.written t := by
    rw [e.written_eq hj]
    exact List.not_mem_nil
  rcases e.next t with hidle | ⟨m, hm, hstep⟩
  · exact absurd h (hsame (by rw [hidle]; rfl))
  · cases m with
    | arrive request => exact absurd h (hsame (by rw [step_arrive hstep]; rfl))
    | advance n place answer =>
      obtain ⟨task, turn, htask, hturn, hafter, hwritten⟩ := e.advanced hm
      exact ⟨n, place, answer, task, turn, hm, htask, hturn, hafter, hwritten ▸ h⟩
    | fileChanged changed =>
      exact absurd h (hsame (by rw [step_fileChanged hstep, (deliver_rest _ changed).2.1]; rfl))
    | abandon n => exact absurd h (hsame (by rw [step_abandon hstep]; rfl))

theorem fresh_succ (t : Nat) : (e.state t).fresh ≤ (e.state (t + 1)).fresh := by
  rcases e.next t with hidle | ⟨m, _, hstep⟩
  · exact Nat.le_of_eq (by rw [hidle])
  · exact step_fresh hstep

theorem fresh_mono {t u : Nat} (htu : t ≤ u) : (e.state t).fresh ≤ (e.state u).fresh := by
  induction htu with
  | refl => exact Nat.le_refl _
  | step _ ih => exact Nat.le_trans ih (e.fresh_succ _)

/-- **Where a task comes from**: it was there before, but for a change that has
reached its queue; or it has made a step; or it is new. -/
theorem task_succ {t n : Nat} {task : Task} (h : (n, task) ∈ (e.state (t + 1)).tasks) :
    (∃ old, (n, old) ∈ (e.state t).tasks ∧ (task = old ∨ ∃ path, task = push path old)) ∨
    (∃ place answer old turn, e.move t = some (.advance n place answer) ∧
      (e.state t).task? n = some old ∧
      old.step (e.state t).config (e.state t).shared n place answer = some turn ∧
      e.state (t + 1) = (e.state t).after n turn ∧ turn.next = .inl task) ∨
    n = (e.state t).fresh ∧
      ((∃ request, e.move t = some (.arrive request) ∧ task = .ofRequest n request) ∨
        ∃ spawn, task = .ofSpawn n spawn) := by
  rcases e.next t with hidle | ⟨m, hm, hstep⟩
  · exact Or.inl ⟨task, hidle ▸ h, Or.inl rfl⟩
  · cases m with
    | arrive request =>
      rw [step_arrive hstep] at h
      rcases mem_add.mp h with hold | ⟨rfl, rfl⟩
      · exact Or.inl ⟨task, hold, Or.inl rfl⟩
      · exact Or.inr (Or.inr ⟨rfl, Or.inl ⟨request, hm, rfl⟩⟩)
    | advance k place answer =>
      obtain ⟨old, turn, hold, hturn, hafter, _⟩ := e.advanced hm
      rw [hafter] at h
      rcases (mem_after hold).mp h with ⟨hother, _⟩ | ⟨rfl, hnext⟩ | ⟨spawn, _, rfl, rfl⟩
      · exact Or.inl ⟨task, hother, Or.inl rfl⟩
      · exact Or.inr (Or.inl ⟨place, answer, old, turn, hm, hold, hturn, hafter, hnext⟩)
      · exact Or.inr (Or.inr ⟨rfl, Or.inr ⟨spawn, rfl⟩⟩)
    | fileChanged changed =>
      rw [step_fileChanged hstep] at h
      exact Or.inl (mem_deliver h)
    | abandon k =>
      rw [step_abandon hstep] at h
      exact Or.inl ⟨task, (mem_remove.mp h).1, Or.inl rfl⟩

/-- A task moves, or is given up, or stays, but for a change that has reached its
queue. -/
theorem kept_succ {t n : Nat} {task : Task} (h : (n, task) ∈ (e.state t).tasks) :
    (∃ place answer, e.move t = some (.advance n place answer)) ∨
      e.move t = some (.abandon n) ∨
      ∃ next, (n, next) ∈ (e.state (t + 1)).tasks ∧
        (next = task ∨ ∃ path, next = push path task) := by
  have hsame (hmem : (n, task) ∈ (e.state (t + 1)).tasks) : ∃ next,
      (n, next) ∈ (e.state (t + 1)).tasks ∧ (next = task ∨ ∃ path, next = push path task) :=
    ⟨task, hmem, Or.inl rfl⟩
  rcases e.next t with hidle | ⟨m, hm, hstep⟩
  · exact Or.inr (Or.inr (hsame (hidle ▸ h)))
  · cases m with
    | arrive request =>
      refine Or.inr (Or.inr (hsame ?_))
      rw [step_arrive hstep]
      exact mem_add.mpr (Or.inl h)
    | advance k place answer =>
      by_cases hk : n = k
      · subst hk
        exact Or.inl ⟨place, answer, hm⟩
      · obtain ⟨other, turn, hother, _, hafter, _⟩ := e.advanced hm
        refine Or.inr (Or.inr (hsame ?_))
        rw [hafter]
        exact (mem_after hother).mpr (Or.inl ⟨h, hk⟩)
    | fileChanged changed =>
      refine Or.inr (Or.inr ?_)
      rw [step_fileChanged hstep]
      rcases task?_deliver (e.state t) changed with he | ⟨k, path, he⟩
      · rw [he]
        exact ⟨task, h, Or.inl rfl⟩
      · rw [he]
        by_cases hk : n = k
        · exact ⟨push path task, List.mem_map.mpr ⟨_, h, by simp [hk]⟩, Or.inr ⟨path, rfl⟩⟩
        · exact ⟨task, List.mem_map.mpr ⟨_, h, by simp [hk]⟩, Or.inl rfl⟩
    | abandon k =>
      by_cases hk : n = k
      · exact Or.inr (Or.inl (hk ▸ hm))
      · refine Or.inr (Or.inr (hsame ?_))
        rw [step_abandon hstep]
        exact mem_remove.mpr ⟨h, hk⟩

/-- A task that no change can reach moves, or is given up, or stays as it is. -/
theorem stays_succ {t n : Nat} {task : Task} (hpush : ∀ path, push path task = task)
    (h : (n, task) ∈ (e.state t).tasks) :
    (∃ place answer, e.move t = some (.advance n place answer)) ∨
      e.move t = some (.abandon n) ∨ (n, task) ∈ (e.state (t + 1)).tasks := by
  rcases e.kept_succ h with hmoves | habandon | ⟨next, hnext, rfl | ⟨path, rfl⟩⟩
  · exact Or.inl hmoves
  · exact Or.inr (Or.inl habandon)
  · exact Or.inr (Or.inr hnext)
  · exact Or.inr (Or.inr (hpush path ▸ hnext))

/-- A number that a task has was a task's before, or is the next to be given out. -/
theorem number_succ {t n : Nat} {task : Task} (h : (n, task) ∈ (e.state (t + 1)).tasks) :
    (∃ old, (n, old) ∈ (e.state t).tasks) ∨ n = (e.state t).fresh := by
  rcases e.task_succ h with ⟨old, hold, _⟩ | ⟨_, _, old, _, _, hold, _⟩ | ⟨hfresh, _⟩
  · exact Or.inl ⟨old, hold⟩
  · exact Or.inl ⟨old, mem_of_task? hold⟩
  · exact Or.inr hfresh

variable {e} in
/-- A task that runs no more never runs again. -/
theorem gone_succ {t n : Nat} (hgiven : n < (e.state t).fresh)
    (hgone : ∀ task, (n, task) ∉ (e.state t).tasks) :
    n < (e.state (t + 1)).fresh ∧ ∀ task, (n, task) ∉ (e.state (t + 1)).tasks := by
  refine ⟨Nat.lt_of_lt_of_le hgiven (e.fresh_succ t), ?_⟩
  intro task hmem
  rcases e.number_succ hmem with ⟨old, hold⟩ | hfresh
  · exact hgone old hold
  · omega

end Facts

theorem numbered {config : Config} (e : Run (.initial config)) (t : Nat) :
    Numbered (e.state t) :=
  e.invariant (Numbered.initial config) (fun hs h => hs.step h) t

/-! ### Finite sequences of moves -/

theorem run_append (s : Server) (moves more : List Move) :
    s.run (moves ++ more) = (s.run moves).bind fun s => s.run more :=
  List.foldlM_append

theorem run_take {s : Server} {moves : List Move} (h : (s.run moves).isSome) (t : Nat) :
    (s.run (moves.take t)).isSome := by
  rw [← List.take_append_drop t moves, run_append] at h
  cases hr : s.run (moves.take t) with
  | none => rw [hr] at h; exact h
  | some s' => rfl

/-- The run that makes the given moves and then rests. -/
def ofMoves (start : Server) (moves : List Move) (h : (start.run moves).isSome) : Run start where
  move t := moves[t]?
  state t := (start.run (moves.take t)).getD start
  initial_state := rfl
  idle := by
    intro t ht
    have hlen : moves.length ≤ t := List.getElem?_eq_none_iff.mp ht
    rw [List.take_of_length_le hlen, List.take_of_length_le (Nat.le_succ_of_le hlen)]
  moved := by
    intro t m hm
    obtain ⟨s, hs⟩ := Option.isSome_iff_exists.mp (run_take h t)
    obtain ⟨s', hs'⟩ := Option.isSome_iff_exists.mp (run_take h (t + 1))
    -- one tick more makes the moves so far, and then this one
    have hsplit : moves.take (t + 1) = moves.take t ++ [m] := by
      rw [List.take_add_one, hm]; rfl
    rw [hs, hs']
    rw [hsplit, run_append, hs] at hs'
    simpa [Server.run] using hs'

end Run

/-- Whether each of some moves passes a check in the state it is made in. -/
def passes (check : Server → Move → Bool) : Server → List Move → Bool
  | _, [] => true
  | s, m :: more => check s m && (s.step m).all fun s' => passes check s' more

theorem check_of_run {check : Server → Move → Bool} {s s' : Server} {moves : List Move} {t : Nat}
    {m : Move} (hpasses : s.passes check moves = true) (hrun : s.run (moves.take t) = some s')
    (hm : moves[t]? = some m) : check s' m = true := by
  induction moves generalizing s t with
  | nil => cases hm
  | cons first more ih =>
    obtain ⟨hfirst, hmore⟩ := Bool.and_eq_true_iff.mp hpasses
    cases t with
    | zero =>
      cases hrun
      cases hm
      exact hfirst
    | succ t =>
      obtain ⟨next, hstep, hrest⟩ := Option.bind_eq_some_iff.mp hrun
      rw [hstep] at hmore
      exact ih hmore hrest hm

/-- What has been checked along some moves holds in every tick of their run. -/
theorem Run.check_ofMoves {check : Server → Move → Bool} {start : Server} {moves : List Move}
    {h : (start.run moves).isSome} (hpasses : start.passes check moves = true) {t : Nat} {m : Move}
    (hm : (ofMoves start moves h).move t = some m) :
    check ((ofMoves start moves h).state t) m = true := by
  obtain ⟨s, hs⟩ := Option.isSome_iff_exists.mp (run_take h t)
  have hstate : (ofMoves start moves h).state t = s := by simp [ofMoves, hs]
  rw [hstate]
  exact check_of_run hpasses hs hm

/-! ### A session to try theorems on

The handshake is task 0.  Opening the document is task 1, and the validation it
starts is task 2. -/

namespace Sample

/-- A document. -/
def page : Url := ⟨"file", "", "", some "", none, .rooted ["page.js"], none, none⟩

/-- A report with one problem, of which nothing is said. -/
def problem : Json :=
  .object [("results", .array [.object [("messages", .array [.object []])]])]

/-- Parameters of a handshake that say nothing. -/
def bare : Handshake.Params := ⟨none, [], none, none⟩

/-- A handshake that loads an engine. -/
def handshake : List Move :=
  [.arrive (.handshake bare), .advance 0 0 .proceed, .advance 0 0 .proceed,
    .advance 0 0 .proceed, .advance 0 0 (.loaded (.ok "standard")), .advance 0 0 .proceed]

/-- The document is opened. -/
def opened : List Move :=
  handshake ++ [.arrive (.openDocument page ⟨"a;", 1⟩), .advance 1 0 .proceed]

/-- Its text has been linted, and nothing is known yet of how the settings are now. -/
def linted : List Move :=
  opened ++ [.advance 2 0 .proceed, .advance 2 0 .proceed, .advance 2 0 .proceed,
    .advance 2 0 .taken, .advance 2 0 (.linted (.ok problem))]

end Sample

end Server

end LintServer
