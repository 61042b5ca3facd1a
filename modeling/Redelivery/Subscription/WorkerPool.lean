import Redelivery.Failure
import Redelivery.Subscription.TaskQueue
/-!
# Worker pools

A fixed number of workers, at least one, who take tasks from one queue. A worker who
is free takes the oldest task, leaves when the queue is finished and empty, and leaves
at once when the pool is being stopped, whatever is queued. A worker who is busy
finishes first; one whose task kills him does not come back. When the last one is
gone, the queue is abandoned.
-/

namespace Redelivery

set_option autoImplicit false

/-- What a worker is doing. -/
inductive Worker (τ : Type) where
  | free
  | busy (task : τ)
  /-- He left. -/
  | gone
  /-- He did not survive his task. -/
  | dead
  deriving DecidableEq

namespace Worker

variable {τ : Type}

/-- Whether a worker will never take a task again. -/
def departed : Worker τ → Bool
  | gone | dead => true
  | free | busy _ => false

end Worker

/-- Workers and their queue. -/
structure WorkerPool (τ : Type) where
  queue : TaskQueue τ
  /-- The pool is being stopped. -/
  stopping : Bool
  workers : List (Worker τ)

/-- What a free worker does next. -/
inductive Turn (τ : Type) where
  | take (task : τ) (rest : TaskQueue τ)
  | leave
  | wait

namespace WorkerPool

variable {τ : Type}

/-- The number of workers of a pool that is asked for a number. -/
def sizeFor (requested : Nat) : Nat := max requested 1

/-- A pool in which all workers are free. -/
def ofSize (requested : Nat) (queue : TaskQueue τ) : WorkerPool τ :=
  ⟨queue, false, List.replicate (sizeFor requested) .free⟩

/-- Puts a worker into a new state; with the last worker the queue is abandoned. -/
def assign (pool : WorkerPool τ) (worker : Nat) (activity : Worker τ) : WorkerPool τ :=
  let workers := pool.workers.set worker activity
  { pool with
    workers
    queue := if workers.all Worker.departed then pool.queue.abandon else pool.queue }

/-- What a free worker does next. -/
def turn (pool : WorkerPool τ) : Turn τ :=
  if pool.stopping then .leave
  else
    match pool.queue.take? with
    | some (task, rest) => .take task rest
    | none => if pool.queue.finished then .leave else .wait

/-- Lets a worker take his turn, if he is free. -/
def receive (pool : WorkerPool τ) (worker : Nat) : WorkerPool τ :=
  match pool.workers[worker]? with
  | some .free =>
      match pool.turn with
      | .take task rest => { pool with queue := rest }.assign worker (.busy task)
      | .leave => pool.assign worker .gone
      | .wait => pool
  | _ => pool

/-- A worker is done with his task, however it ended. -/
def complete (pool : WorkerPool τ) (worker : Nat) : WorkerPool τ :=
  match pool.workers[worker]? with
  | some (.busy _) => pool.assign worker .free
  | _ => pool

/-- A worker does not survive his task. -/
def kill (pool : WorkerPool τ) (worker : Nat) : WorkerPool τ :=
  match pool.workers[worker]? with
  | some (.busy _) => pool.assign worker .dead
  | _ => pool

/-- Asks all workers to leave. -/
def stop (pool : WorkerPool τ) : WorkerPool τ := { pool with stopping := true }

/-- Whether all workers have left or died. -/
def deserted (pool : WorkerPool τ) : Bool := pool.workers.all Worker.departed

/-- How many tasks are being processed. -/
def busyCount (pool : WorkerPool τ) : Nat :=
  pool.workers.countP fun worker => match worker with
    | .busy _ => true
    | _ => false

/-- What one learns by waiting for all workers to leave: a worker who died is an
internal failure. -/
def outcome (pool : WorkerPool τ) : Outcome :=
  if pool.workers.any (fun worker => match worker with | .dead => true | _ => false) then
    .error .internal
  else .ok ()

end WorkerPool

end Redelivery
