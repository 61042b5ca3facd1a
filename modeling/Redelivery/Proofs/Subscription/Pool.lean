import Redelivery.Subscription.Collector
import Redelivery.Subscription.WorkerPool
/-!
# Turns of a collector and of a pool

What one step of a collector and one turn of a worker come to, said once. A collector pulls
a delivery, passes it on, or ends; a free worker takes the oldest task, leaves, or waits.
Whoever reasons about a subscription reads it off these cases and opens neither
`Collector.step` nor `WorkerPool.receive`.

* `Collector.step_cases`, `Collector.step_eq_none_iff`: what a collector does, and when it
  has nothing to do.
* `WorkerPool.turn_cases`: what a free worker does, unless the pool is being stopped.
* `WorkerPool.abandoned_assign`: a queue is abandoned exactly when the last worker departs.
-/

namespace Redelivery

set_option autoImplicit false

/-! ## Queues and streams -/

/-- A queue refuses what nobody would take, and has room below its capacity. -/
theorem TaskQueue.offer_cases {τ : Type} (task : τ) (queue : TaskQueue τ) :
    (queue.abandoned = true ∧ queue.offer task = .refused) ∨
      (queue.abandoned = false ∧ queue.items.length < queue.capacity ∧
        queue.offer task = .accepted { queue with items := queue.items ++ [task] }) ∨
      (queue.abandoned = false ∧ queue.capacity ≤ queue.items.length ∧
        queue.offer task = .full) := by
  cases abandoned : queue.abandoned with
  | true => exact .inl ⟨rfl, by simp [offer, abandoned]⟩
  | false =>
      by_cases room : queue.items.length < queue.capacity
      · exact .inr (.inl ⟨rfl, room, by simp [offer, abandoned, hasRoom, room]⟩)
      · exact .inr (.inr ⟨rfl, Nat.le_of_not_lt room, by simp [offer, abandoned, hasRoom, room]⟩)

namespace Collector

variable {δ : Type}

/-- The deliveries of a stream that come before its first error. -/
def undisturbed : List (Except String δ) → List δ
  | .ok delivery :: stream => delivery :: undisturbed stream
  | .error _ :: _ | [] => []

/-- What a stream comes to: the failure of its first error, if there is one. -/
def verdict : List (Except String δ) → Outcome
  | .ok _ :: stream => verdict stream
  | .error reason :: _ => .error (.consuming reason)
  | [] => .ok ()

theorem verdict_of_clean {stream : List (Except String δ)}
    (clean : ∀ item ∈ stream, ∃ delivery, item = .ok delivery) : verdict stream = .ok () := by
  induction stream with
  | nil => rfl
  | cons item rest ih =>
      obtain ⟨delivery, rfl⟩ := clean item List.mem_cons_self
      exact ih fun other member => clean other (List.mem_cons_of_mem _ member)

theorem verdict_of_failed {stream : List (Except String δ)} {reason : String}
    (failed : .error reason ∈ stream) : ∃ first, verdict stream = .error (.consuming first) := by
  induction stream with
  | nil => cases failed
  | cons item rest ih =>
      cases item with
      | error first => exact ⟨first, rfl⟩
      | ok delivery =>
          rcases List.mem_cons.mp failed with same | later
          · cases same
          · exact ih later

/-- What a step of a collector does: it pulls a delivery, passes one on, ends with its stream,
or ends because nobody takes tasks any more. -/
theorem step_cases {collector next : Collector δ} {queue after : TaskQueue δ}
    (taken : collector.step queue = some (next, after)) :
    (∃ delivery stream, collector = .pulling (.ok delivery :: stream) ∧
        next = .holding delivery stream ∧ after = queue) ∨
      (∃ delivery stream, collector = .holding delivery stream ∧ queue.abandoned = false ∧
        queue.items.length < queue.capacity ∧ next = .pulling stream ∧
        after = { queue with items := queue.items ++ [delivery] }) ∨
      (∃ stream, collector = .pulling stream ∧ undisturbed stream = [] ∧
        next = .ended (verdict stream) ∧ after = queue.finish) ∨
      (∃ delivery stream, collector = .holding delivery stream ∧ queue.abandoned = true ∧
        next = .ended (.error queueClosed) ∧ after = queue.finish) := by
  cases collector with
  | ended outcome => cases taken
  | pulling stream =>
      match stream with
      | [] =>
          cases taken
          exact .inr (.inr (.inl ⟨[], rfl, rfl, rfl, rfl⟩))
      | .error reason :: rest =>
          cases taken
          exact .inr (.inr (.inl ⟨.error reason :: rest, rfl, rfl, rfl, rfl⟩))
      | .ok delivery :: rest =>
          cases taken
          exact .inl ⟨delivery, rest, rfl, rfl, rfl⟩
  | holding delivery stream =>
      rcases queue.offer_cases delivery with
        ⟨abandoned, offered⟩ | ⟨kept, room, offered⟩ | ⟨-, -, offered⟩ <;>
        simp only [step, offered] at taken
      · cases taken
        exact .inr (.inr (.inr ⟨delivery, stream, rfl, abandoned, rfl, rfl⟩))
      · cases taken
        exact .inr (.inl ⟨delivery, stream, rfl, kept, room, rfl, rfl⟩)
      · cases taken

/-- A collector has nothing to do once it has ended, and while it waits for room. -/
theorem step_eq_none_iff (collector : Collector δ) (queue : TaskQueue δ) :
    collector.step queue = none ↔
      collector.outcome?.isSome = true ∨
        ∃ delivery stream, collector = .holding delivery stream ∧ queue.abandoned = false ∧
          queue.capacity ≤ queue.items.length := by
  cases collector with
  | ended outcome => simp [step, outcome?]
  | pulling stream =>
      cases stream with
      | nil => simp [step, outcome?]
      | cons item rest => cases item <;> simp [step, outcome?]
  | holding delivery stream =>
      rcases queue.offer_cases delivery with
        ⟨abandoned, offered⟩ | ⟨kept, room, offered⟩ | ⟨kept, full, offered⟩
      · simp [step, offered, outcome?, abandoned]
      · simp [step, offered, outcome?, kept, room]
      · simp [step, offered, outcome?, kept, full]

end Collector

/-! ## Workers -/

namespace Worker

variable {τ : Type}

def isDead : Worker τ → Bool
  | dead => true
  | _ => false

def running : Worker τ → List τ
  | busy task => [task]
  | _ => []

end Worker

namespace WorkerPool

variable {τ : Type} {pool : WorkerPool τ} {worker : Nat} {task : τ} {rest : TaskQueue τ}

@[simp] theorem workers_assign (pool : WorkerPool τ) (worker : Nat) (activity : Worker τ) :
    (pool.assign worker activity).workers = pool.workers.set worker activity := rfl

@[simp] theorem items_assign (pool : WorkerPool τ) (worker : Nat) (activity : Worker τ) :
    (pool.assign worker activity).queue.items = pool.queue.items := by
  simp only [assign]
  split <;> rfl

@[simp] theorem capacity_assign (pool : WorkerPool τ) (worker : Nat) (activity : Worker τ) :
    (pool.assign worker activity).queue.capacity = pool.queue.capacity := by
  simp only [assign]
  split <;> rfl

@[simp] theorem finished_assign (pool : WorkerPool τ) (worker : Nat) (activity : Worker τ) :
    (pool.assign worker activity).queue.finished = pool.queue.finished := by
  simp only [assign]
  split <;> rfl

theorem not_deserted {active : Worker τ} (present : pool.workers[worker]? = some active)
    (working : active.departed = false) : pool.deserted = false := by
  have member : active ∈ pool.workers := List.mem_of_getElem? present
  cases deserted : pool.deserted with
  | false => rfl
  | true =>
      have departed := List.all_eq_true.mp deserted active member
      rw [working] at departed
      cases departed

/-- The queue is abandoned exactly when the last worker departs, whatever a worker who was
still there turns to. -/
theorem abandoned_assign {active : Worker τ} (activity : Worker τ)
    (present : pool.workers[worker]? = some active) (working : active.departed = false)
    (same : pool.queue.abandoned = pool.deserted) :
    (pool.assign worker activity).queue.abandoned = (pool.assign worker activity).deserted := by
  have kept : pool.queue.abandoned = false := same.trans (not_deserted present working)
  simp only [assign, deserted]
  split
  · rename_i departed
    rw [departed]
    rfl
  · rename_i remaining
    rw [kept, Bool.eq_false_iff.mpr remaining]

/-- What a free worker does, unless the pool is being stopped. -/
theorem turn_cases (unstopped : pool.stopping = false) :
    (∃ task later, pool.queue.items = task :: later ∧
        pool.turn = .take task { pool.queue with items := later }) ∨
      (pool.queue.items = [] ∧ pool.queue.finished = true ∧ pool.turn = .leave) ∨
      (pool.queue.items = [] ∧ pool.queue.finished = false ∧ pool.turn = .wait) := by
  cases items : pool.queue.items with
  | cons task later =>
      exact .inl ⟨task, later, rfl, by simp [turn, unstopped, TaskQueue.take?, items]⟩
  | nil =>
      cases finished : pool.queue.finished with
      | true =>
          refine .inr (.inl ⟨rfl, rfl, ?_⟩)
          simp [turn, unstopped, TaskQueue.take?, items, finished]
      | false =>
          refine .inr (.inr ⟨rfl, rfl, ?_⟩)
          simp [turn, unstopped, TaskQueue.take?, items, finished]

theorem of_turn_take (unstopped : pool.stopping = false) (turn : pool.turn = .take task rest) :
    pool.queue.items = task :: rest.items ∧ rest = { pool.queue with items := rest.items } := by
  rcases turn_cases unstopped with ⟨oldest, later, items, takes⟩ | ⟨-, -, leaves⟩ | ⟨-, -, waits⟩
  · cases takes.symm.trans turn
    exact ⟨items, rfl⟩
  · cases leaves.symm.trans turn
  · cases waits.symm.trans turn

theorem of_turn_leave (unstopped : pool.stopping = false) (turn : pool.turn = .leave) :
    pool.queue.items = [] ∧ pool.queue.finished = true := by
  rcases turn_cases unstopped with ⟨_, _, -, takes⟩ | ⟨empty, finished, -⟩ | ⟨-, -, waits⟩
  · cases takes.symm.trans turn
  · exact ⟨empty, finished⟩
  · cases waits.symm.trans turn

theorem receive_of_take (free : pool.workers[worker]? = some .free)
    (turn : pool.turn = .take task rest) :
    pool.receive worker = { pool with queue := rest }.assign worker (.busy task) := by
  simp [receive, free, turn]

theorem receive_of_leave (free : pool.workers[worker]? = some .free) (turn : pool.turn = .leave) :
    pool.receive worker = pool.assign worker .gone := by
  simp [receive, free, turn]

theorem complete_of_busy (busy : pool.workers[worker]? = some (.busy task)) :
    pool.complete worker = pool.assign worker .free := by
  simp [complete, busy]

theorem kill_of_busy (busy : pool.workers[worker]? = some (.busy task)) :
    pool.kill worker = pool.assign worker .dead := by
  simp [kill, busy]

end WorkerPool

end Redelivery
