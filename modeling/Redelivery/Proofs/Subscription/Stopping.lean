import Redelivery.Proofs.Subscription.FanOut
/-!
# Stopping a pool of workers

A pool may be stopped at any moment, or let go of without that. A worker who has hold of the
receiving end of the queue first looks whether the pool is being stopped. If it is, he leaves;
if not, he reaches for a task, and may find that there is none and wait, until there is
something to be found or the pool is stopped, and then look again. So a stop can come too late
for one worker, the one who has looked and not yet reached.

`Workday` is a pool at one moment together with whoever sends tasks, stops the pool or lets go
of it, which happens in any order. Seen without the stop (`Workday.flow`) it is a `FanOut` whose
collector is away, and its workers keep the same accounts.

* `kept_move`, `kept_job`, `kept_outside`: what a step preserves.
* `toil_move`, `toil_job`: once the pool is being stopped, whatever its workers do is a loss of
  toil.
* `stopped_pool_winds_down`: what is promised of a pool that is stopped, or let go of, at any
  moment.
* `killed_before_stop`: a job that kills its worker spoils the end of a stopped pool.
-/

namespace Redelivery

set_option autoImplicit false

open Rehearsal (JobManner)

/-! ## Turns -/

namespace WorkerPool

variable {τ : Type} {pool : WorkerPool τ} {worker : Nat} {task : τ} {rest : TaskQueue τ}

/-- The pool as it is to a worker who saw no stop. -/
def unaware (pool : WorkerPool τ) : WorkerPool τ := { pool with stopping := false }

/-- The pool after a worker who saw no stop has taken his turn. -/
def reach (pool : WorkerPool τ) (worker : Nat) : WorkerPool τ :=
  { pool.unaware.receive worker with stopping := pool.stopping }

theorem stopping_receive (pool : WorkerPool τ) (worker : Nat) :
    (pool.receive worker).stopping = pool.stopping := by
  unfold receive
  repeat' split
  all_goals rfl

@[simp] theorem unaware_reach (pool : WorkerPool τ) (worker : Nat) :
    (pool.reach worker).unaware = pool.unaware.receive worker := by
  have kept : false = (pool.unaware.receive worker).stopping :=
    (stopping_receive pool.unaware worker).symm
  rw [unaware, reach, kept]

section Free

variable (free : pool.workers[worker]? = some .free)

include free

theorem reach_of_take (turn : pool.unaware.turn = .take task rest) :
    pool.reach worker = { pool with queue := rest }.assign worker (.busy task) := by
  have present : pool.unaware.workers[worker]? = some .free := free
  rw [reach, receive_of_take present turn]
  rfl

theorem reach_of_leave (turn : pool.unaware.turn = .leave) :
    pool.reach worker = pool.assign worker .gone := by
  have present : pool.unaware.workers[worker]? = some .free := free
  rw [reach, receive_of_leave present turn]
  rfl

/-- Whoever looks while the pool is being stopped leaves, whatever is queued. -/
theorem receive_of_stopped (stopped : pool.stopping = true) :
    pool.receive worker = pool.assign worker .gone :=
  receive_of_leave free (by rw [turn, if_pos stopped])

end Free

theorem outcome_eq_ok_iff (pool : WorkerPool τ) :
    pool.outcome = .ok () ↔ pool.workers.countP Worker.isDead = 0 := by
  rw [outcome, List.countP_eq_zero]
  split
  · rename_i died
    obtain ⟨worker, member, dead⟩ := List.any_eq_true.mp died
    cases worker with
    | free | busy task | gone => cases dead
    | dead => exact ⟨nofun, fun alive => absurd rfl (alive .dead member)⟩
  · rename_i alive
    refine ⟨fun _ worker member => ?_, fun _ => rfl⟩
    cases worker with
    | free | busy task | gone => nofun
    | dead => exact absurd (List.any_eq_true.mpr ⟨.dead, member, rfl⟩) alive

end WorkerPool

/-! ## A day in a pool -/

/-- What the one who has hold of the receiving end is about. -/
inductive Grip where
  /-- He looks whether the pool is being stopped. -/
  | looking
  /-- It was not, and he reaches for a task. -/
  | reaching
  /-- There was none, and he waits. -/
  | waiting
  deriving DecidableEq

/-- A pool at work: who has hold of the receiving end, whether anybody can still stop the pool,
and what was sent, received and done so far. -/
structure Workday (τ : Type) where
  pool : WorkerPool τ
  holder : Option (Nat × Grip)
  /-- Nobody can stop the pool any more. -/
  released : Bool
  /-- What was put into the queue. -/
  sent : List τ
  /-- Who received which task, in the order in which they were received. -/
  received : List (Nat × τ)
  /-- Whose job on which task is over, and how it came out. -/
  done : List (Nat × τ × JobManner)

namespace Workday

variable {τ : Type} {capacity size : Nat} {day next : Workday τ}

def opened (capacity size : Nat) : Workday τ where
  pool := .ofSize size (.ofCapacity capacity)
  holder := none
  released := false
  sent := []
  received := []
  done := []

/-- What the workers do between their jobs. -/
inductive Move (day : Workday τ) : Workday τ → Prop where
  /-- A free worker takes hold of the receiving end. -/
  | entered {worker : Nat} (free : day.pool.workers[worker]? = some .free)
      (unheld : day.holder = none) : Move day { day with holder := some (worker, .looking) }
  | passed {worker : Nat} (holds : day.holder = some (worker, .looking))
      (unstopped : day.pool.stopping = false) :
      Move day { day with holder := some (worker, .reaching) }
  | dismissed {worker : Nat} (holds : day.holder = some (worker, .looking))
      (stopped : day.pool.stopping = true) :
      Move day { day with pool := day.pool.receive worker, holder := none }
  | took {worker : Nat} {task : τ} {rest : TaskQueue τ}
      (holds : day.holder = some (worker, .reaching))
      (turn : day.pool.unaware.turn = .take task rest) :
      Move day
        { day with
          pool := day.pool.reach worker
          holder := none
          received := day.received ++ [(worker, task)] }
  | left {worker : Nat} (holds : day.holder = some (worker, .reaching))
      (turn : day.pool.unaware.turn = .leave) :
      Move day { day with pool := day.pool.reach worker, holder := none }
  | waited {worker : Nat} (holds : day.holder = some (worker, .reaching))
      (turn : day.pool.unaware.turn = .wait) :
      Move day { day with holder := some (worker, .waiting) }
  /-- There is something to be found, or the pool is being stopped. -/
  | woke {worker : Nat} (holds : day.holder = some (worker, .waiting))
      (turn : day.pool.turn ≠ .wait) : Move day { day with holder := some (worker, .looking) }

/-- How a job comes out: it returns or panics, or it kills its worker. -/
inductive JobStep (day : Workday τ) : Workday τ → Prop where
  | completed {worker : Nat} {task : τ} (busy : day.pool.workers[worker]? = some (.busy task))
      (manner : JobManner) (survived : manner ≠ .kills) :
      JobStep day
        { day with
          pool := day.pool.complete worker
          done := day.done ++ [(worker, task, manner)] }
  | killed {worker : Nat} {task : τ} (busy : day.pool.workers[worker]? = some (.busy task)) :
      JobStep day
        { day with
          pool := day.pool.kill worker
          done := day.done ++ [(worker, task, .kills)] }

/-- What others do with the pool. -/
inductive Outside (day : Workday τ) : Workday τ → Prop where
  | offered {task : τ} {queue : TaskQueue τ} (unfinished : day.pool.queue.finished = false)
      (accepted : day.pool.queue.offer task = .accepted queue) :
      Outside day { day with pool := { day.pool with queue }, sent := day.sent ++ [task] }
  | finished :
      Outside day { day with pool := { day.pool with queue := day.pool.queue.finish } }
  | stopped (held : day.released = false) : Outside day { day with pool := day.pool.stop }
  | released : Outside day { day with released := true }

/-- One moment comes after another, under any schedule; what the workers did in between is
counted. -/
inductive Later (day : Workday τ) : Nat → Workday τ → Prop where
  | now : Later day 0 day
  | moved {efforts : Nat} {later next : Workday τ} (before : Later day efforts later)
      (move : Move later next) : Later day (efforts + 1) next
  | worked {efforts : Nat} {later next : Workday τ} (before : Later day efforts later)
      (step : JobStep later next) : Later day (efforts + 1) next
  | outside {efforts : Nat} {later next : Workday τ} (before : Later day efforts later)
      (event : Outside later next) : Later day efforts next

def Reachable (capacity size : Nat) (day : Workday τ) : Prop :=
  ∃ efforts, Later (opened capacity size) efforts day

/-- The day as a fan-out that nobody stops. -/
def flow (day : Workday τ) : FanOut τ where
  collector := .pulling []
  pool := day.pool.unaware
  holder := day.holder.map Prod.fst
  received := day.received
  done := day.done

/-! ## What a step preserves -/

/-- What holds at every moment: the accounts of a fan-out are kept, nothing that was sent is
lost, and nobody leaves a pool that is not being stopped before its queue is finished and
empty. -/
structure Kept (size : Nat) (day : Workday τ) : Prop where
  staffed : FanOut.Staffed size day.flow
  accounted : FanOut.Accounted size day.flow
  whole : day.sent = day.received.map Prod.snd ++ day.pool.queue.items
  left : day.pool.stopping = false → ∀ worker : Nat, day.pool.workers[worker]? = some .gone →
    day.pool.queue.finished = true ∧ day.pool.queue.items = []

theorem kept_opened : Kept size (opened capacity size : Workday τ) where
  staffed := @FanOut.staffed_opened _ capacity _ []
  accounted := @FanOut.accounted_opened _ capacity _ []
  whole := rfl
  left _ worker gone := by
    have free := List.eq_of_mem_replicate (List.mem_of_getElem? gone)
    cases free

theorem Kept.free (kept : Kept size day) {worker : Nat} {grip : Grip}
    (holds : day.holder = some (worker, grip)) : day.pool.workers[worker]? = some .free :=
  kept.staffed.held worker (congrArg (Option.map Prod.fst) holds)

/-- A move is nothing to the accounts, or a step of a fan-out, or a dismissal. -/
theorem move_flow (kept : Kept size day) (move : Move day next) :
    next.flow = day.flow ∨ FanOut.Step day.flow next.flow ∨
      ∃ worker, day.holder = some (worker, .looking) ∧ day.pool.stopping = true ∧
        next = { day with pool := day.pool.assign worker .gone, holder := none } := by
  cases move with
  | entered present unheld =>
      refine .inr (.inl (.entered present ?_))
      rw [flow, unheld]
      rfl
  | passed holds _ | waited holds _ | woke holds _ =>
      left
      simp only [flow, holds]
      rfl
  | @dismissed worker holds stopped =>
      refine .inr (.inr ⟨worker, holds, stopped, ?_⟩)
      rw [WorkerPool.receive_of_stopped (kept.free holds) stopped]
  | @took worker task rest holds turn =>
      have held : day.flow.holder = some worker := congrArg (Option.map Prod.fst) holds
      right; left
      simp only [flow, WorkerPool.unaware_reach]
      exact .received held turn
  | @left worker holds turn =>
      have held : day.flow.holder = some worker := congrArg (Option.map Prod.fst) holds
      right; left
      simp only [flow, WorkerPool.unaware_reach]
      exact .left held turn

theorem job_cases (step : JobStep day next) :
    ∃ worker task activity manner, day.pool.workers[worker]? = some (.busy task) ∧
      (activity = .free ∨ activity = .dead) ∧
      next = { day with
        pool := day.pool.assign worker activity
        done := day.done ++ [(worker, task, manner)] } := by
  cases step with
  | completed busy manner survived =>
      exact ⟨_, _, .free, manner, busy, .inl rfl, by rw [WorkerPool.complete_of_busy busy]⟩
  | killed busy =>
      exact ⟨_, _, .dead, .kills, busy, .inr rfl, by rw [WorkerPool.kill_of_busy busy]⟩

theorem job_flow (step : JobStep day next) : FanOut.JobStep day.flow next.flow := by
  cases step with
  | @completed worker task busy manner survived =>
      have busy' : day.flow.pool.workers[worker]? = some (.busy task) := busy
      have same : (day.pool.complete worker).unaware = day.flow.pool.complete worker := by
        rw [WorkerPool.complete_of_busy busy, WorkerPool.complete_of_busy busy']
        rfl
      simp only [flow, same]
      exact .completed busy' manner survived
  | @killed worker task busy =>
      have busy' : day.flow.pool.workers[worker]? = some (.busy task) := busy
      have same : (day.pool.kill worker).unaware = day.flow.pool.kill worker := by
        rw [WorkerPool.kill_of_busy busy, WorkerPool.kill_of_busy busy']
        rfl
      simp only [flow, same]
      exact .killed busy'

theorem staffed_move (kept : Kept size day) (move : Move day next) :
    FanOut.Staffed size next.flow := by
  rcases move_flow kept move with same | step | ⟨worker, holds, stopped, rfl⟩
  · rw [same]
    exact kept.staffed
  · exact FanOut.staffed_step kept.staffed step
  · refine FanOut.staffed_assign kept.staffed (kept.free holds) rfl .gone rfl ?_ _ _ _
    intro other held
    cases held

theorem accounted_move (kept : Kept size day) (move : Move day next) :
    FanOut.Accounted size next.flow := by
  rcases move_flow kept move with same | step | ⟨worker, holds, stopped, rfl⟩
  · rw [same]
    exact kept.accounted
  · exact FanOut.accounted_step kept.staffed kept.accounted step
  · have balance := kept.accounted.balanced worker
    rw [FanOut.runningAt_of_present (kept.free holds)] at balance
    exact FanOut.accounted_assign kept.accounted (kept.free holds) rfl .gone rfl
      kept.accounted.known balance (fun _ _ => ⟨rfl, rfl⟩) (fun _ old => old) nofun rfl

theorem whole_move (kept : Kept size day) (move : Move day next) :
    next.sent = next.received.map Prod.snd ++ next.pool.queue.items := by
  cases move with
  | entered _ _ | passed _ _ | waited _ _ | woke _ _ => exact kept.whole
  | dismissed holds stopped =>
      rw [WorkerPool.receive_of_stopped (kept.free holds) stopped, WorkerPool.items_assign]
      exact kept.whole
  | took holds turn =>
      obtain ⟨items, -⟩ := WorkerPool.of_turn_take rfl turn
      have before : day.pool.queue.items = _ := items
      rw [WorkerPool.reach_of_take (kept.free holds) turn, WorkerPool.items_assign]
      simp [kept.whole, before]
  | left holds turn =>
      rw [WorkerPool.reach_of_leave (kept.free holds) turn, WorkerPool.items_assign]
      exact kept.whole

theorem left_move (kept : Kept size day) (move : Move day next)
    (unstopped : next.pool.stopping = false) (worker : Nat)
    (gone : next.pool.workers[worker]? = some .gone) :
    next.pool.queue.finished = true ∧ next.pool.queue.items = [] := by
  cases move with
  | entered _ _ | passed _ _ | waited _ _ | woke _ _ => exact kept.left unstopped worker gone
  | dismissed holds stopped =>
      rw [WorkerPool.stopping_receive, stopped] at unstopped
      cases unstopped
  | took holds turn =>
      obtain ⟨items, -⟩ := WorkerPool.of_turn_take rfl turn
      rw [WorkerPool.reach_of_take (kept.free holds) turn] at gone
      have empty := (kept.left unstopped worker (FanOut.gone_before (.busy _) nofun gone)).2
      cases empty.symm.trans items
  | left holds turn =>
      obtain ⟨empty, finished⟩ := WorkerPool.of_turn_leave rfl turn
      rw [WorkerPool.reach_of_leave (kept.free holds) turn, WorkerPool.finished_assign,
        WorkerPool.items_assign]
      exact ⟨finished, empty⟩

theorem kept_move (kept : Kept size day) (move : Move day next) : Kept size next where
  staffed := staffed_move kept move
  accounted := accounted_move kept move
  whole := whole_move kept move
  left := left_move kept move

theorem kept_job (kept : Kept size day) (step : JobStep day next) : Kept size next where
  staffed := FanOut.staffed_job kept.staffed (job_flow step)
  accounted := FanOut.accounted_job kept.accounted (job_flow step)
  whole := by
    obtain ⟨worker, task, activity, manner, -, -, rfl⟩ := job_cases step
    rw [WorkerPool.items_assign]
    exact kept.whole
  left := by
    intro unstopped other gone
    obtain ⟨worker, task, activity, manner, -, frees, rfl⟩ := job_cases step
    have stays : activity ≠ .gone := by rcases frees with rfl | rfl <;> nofun
    simpa using kept.left unstopped other (FanOut.gone_before activity stays gone)

theorem queue_of_accepted {task : τ} {queue after : TaskQueue τ}
    (accepted : queue.offer task = .accepted after) :
    after = { queue with items := queue.items ++ [task] } := by
  rcases queue.offer_cases task with ⟨-, answer⟩ | ⟨-, -, answer⟩ | ⟨-, -, answer⟩
  · cases answer.symm.trans accepted
  · cases answer.symm.trans accepted
    rfl
  · cases answer.symm.trans accepted

theorem kept_outside (kept : Kept size day) (event : Outside day next) : Kept size next := by
  obtain ⟨⟨_, staffed, abandoned, held⟩, ⟨known, balanced, killed, losses⟩, whole, left⟩ := kept
  cases event with
  | offered unfinished accepted =>
      rw [queue_of_accepted accepted]
      refine ⟨⟨rfl, staffed, abandoned, held⟩, ⟨known, balanced, killed, losses⟩, ?_, ?_⟩
      · rw [whole, List.append_assoc]
      · intro unstopped worker gone
        rw [unfinished] at left
        cases (left unstopped worker gone).1
  | finished =>
      exact ⟨⟨rfl, staffed, abandoned, held⟩, ⟨known, balanced, killed, losses⟩, whole,
        fun unstopped worker gone => ⟨rfl, (left unstopped worker gone).2⟩⟩
  | stopped _ =>
      exact ⟨⟨rfl, staffed, abandoned, held⟩, ⟨known, balanced, killed, losses⟩, whole, nofun⟩
  | released =>
      exact ⟨⟨rfl, staffed, abandoned, held⟩, ⟨known, balanced, killed, losses⟩, whole, left⟩

theorem kept_later {efforts : Nat} {later : Workday τ} (kept : Kept size day)
    (after : Later day efforts later) : Kept size later := by
  induction after with
  | now => exact kept
  | moved _ move ih => exact kept_move ih move
  | worked _ step ih => exact kept_job ih step
  | outside _ event ih => exact kept_outside ih event

/-! ## Toil -/

/-- The moves and the end of a job that are left to a worker at most, once the pool is being
stopped. -/
def workerToil : Worker τ → Nat
  | .free => 2
  | .busy _ => 3
  | .gone | .dead => 0

def gripToil : Option (Nat × Grip) → Nat
  | none => 1
  | some (_, .looking) => 0
  | some (_, .waiting) => 1
  -- who reaches may come out with a task, and to be busy is one more than to be free
  | some (_, .reaching) => 3

def workersToil : List (Worker τ) → Nat
  | [] => 0
  | worker :: rest => workerToil worker + workersToil rest

/-- What is left to be done at most, once the pool is being stopped. -/
def toil (day : Workday τ) : Nat := workersToil day.pool.workers + gripToil day.holder

theorem workersToil_set {workers : List (Worker τ)} {worker : Nat} {active : Worker τ}
    (present : workers[worker]? = some active) (activity : Worker τ) :
    workersToil (workers.set worker activity) + workerToil active =
      workersToil workers + workerToil activity := by
  induction workers generalizing worker with
  | nil => cases present
  | cons first rest ih =>
      cases worker with
      | zero =>
          cases present
          simp only [List.set_cons_zero, workersToil]
          omega
      | succ worker =>
          have others := ih present
          simp only [List.set_cons_succ, workersToil]
          omega

theorem workersToil_le (workers : List (Worker τ)) : workersToil workers ≤ 3 * workers.length := by
  induction workers with
  | nil => exact Nat.le_refl 0
  | cons first rest ih =>
      have small : workerToil first ≤ 3 := by cases first <;> simp [workerToil]
      simp only [workersToil, List.length_cons]
      omega

theorem toil_le (kept : Kept size day) : day.toil ≤ 3 * max size 1 + 3 := by
  have held : gripToil day.holder ≤ 3 := by
    unfold gripToil
    split <;> decide
  have everybody := workersToil_le day.pool.workers
  have staffed : day.pool.workers.length = max size 1 := kept.staffed.staffed
  rw [toil]
  omega

/-- A move in a pool that is being stopped is a loss of toil. -/
theorem toil_move (kept : Kept size day) (stopped : day.pool.stopping = true)
    (move : Move day next) : next.toil < day.toil := by
  cases move with
  | entered free unheld => simp [toil, gripToil, unheld]
  | passed holds unstopped =>
      rw [stopped] at unstopped
      cases unstopped
  | waited holds turn | woke holds turn => simp [toil, gripToil, holds]
  | dismissed holds stopped =>
      have left := workersToil_set (kept.free holds) .gone
      rw [WorkerPool.receive_of_stopped (kept.free holds) stopped]
      simp only [toil, WorkerPool.workers_assign, holds, gripToil, workerToil] at left ⊢
      omega
  | @took worker task rest holds turn =>
      have left := workersToil_set (kept.free holds) (.busy task)
      rw [WorkerPool.reach_of_take (kept.free holds) turn]
      simp only [toil, WorkerPool.workers_assign, holds, gripToil, workerToil] at left ⊢
      omega
  | left holds turn =>
      have left := workersToil_set (kept.free holds) .gone
      rw [WorkerPool.reach_of_leave (kept.free holds) turn]
      simp only [toil, WorkerPool.workers_assign, holds, gripToil, workerToil] at left ⊢
      omega

theorem toil_job (step : JobStep day next) : next.toil < day.toil := by
  obtain ⟨worker, task, activity, manner, busy, frees, rfl⟩ := job_cases step
  have left := workersToil_set busy activity
  have less : workerToil activity < 3 := by rcases frees with rfl | rfl <;> simp [workerToil]
  simp only [toil, WorkerPool.workers_assign, workerToil] at left less ⊢
  omega

theorem toil_outside (event : Outside day next) : next.toil = day.toil := by
  cases event <;> rfl

/-! ## Whether the pool is being stopped -/

theorem stopping_move (move : Move day next) :
    next.pool.stopping = day.pool.stopping ∧ next.released = day.released := by
  cases move with
  | dismissed _ _ => exact ⟨WorkerPool.stopping_receive _ _, rfl⟩
  | entered _ _ | passed _ _ | took _ _ | left _ _ | waited _ _ | woke _ _ => exact ⟨rfl, rfl⟩

theorem stopping_job (step : JobStep day next) :
    next.pool.stopping = day.pool.stopping ∧ next.released = day.released := by
  obtain ⟨worker, task, activity, manner, -, -, rfl⟩ := job_cases step
  exact ⟨rfl, rfl⟩

section Later

variable {efforts : Nat} {later : Workday τ} (after : Later day efforts later)

include after

theorem stopping_later (stopped : day.pool.stopping = true) : later.pool.stopping = true := by
  induction after with
  | now => exact stopped
  | moved _ move ih => exact (stopping_move move).1.trans ih
  | worked _ step ih => exact (stopping_job step).1.trans ih
  | outside _ event ih =>
      cases event with
      | stopped _ => rfl
      | offered _ _ | finished | released => exact ih

theorem unstopped_later (released : day.released = true) (unstopped : day.pool.stopping = false) :
    later.released = true ∧ later.pool.stopping = false := by
  induction after with
  | now => exact ⟨released, unstopped⟩
  | moved _ move ih =>
      obtain ⟨stopping, held⟩ := stopping_move move
      exact ⟨held.trans ih.1, stopping.trans ih.2⟩
  | worked _ step ih =>
      obtain ⟨stopping, held⟩ := stopping_job step
      exact ⟨held.trans ih.1, stopping.trans ih.2⟩
  | outside _ event ih =>
      cases event with
      | stopped held => cases ih.1.symm.trans held
      | offered _ _ | finished => exact ih
      | released => exact ⟨rfl, ih.2⟩

theorem efforts_le_toil (kept : Kept size day) (stopped : day.pool.stopping = true) :
    efforts + later.toil ≤ day.toil := by
  induction after with
  | now => omega
  | moved before move ih =>
      have less := toil_move (kept_later kept before) (stopping_later before stopped) move
      omega
  | worked _ step ih =>
      have less := toil_job step
      omega
  | outside _ event ih =>
      rw [toil_outside event]
      exact ih

end Later

/-! ## What is taken after a stop -/

/-- What was received since a stop: nothing, or one task, by whoever had seen no stop then. -/
inductive Belated (day later : Workday τ) : Prop where
  | untaken (same : later.received = day.received)
      (reaching : ∀ worker, later.holder = some (worker, .reaching) →
        day.holder = some (worker, .reaching)) : Belated day later
  | taken {worker : Nat} {task : τ} (reaching : day.holder = some (worker, .reaching))
      (last : later.received = day.received ++ [(worker, task)])
      (unheld : ∀ other, later.holder ≠ some (other, .reaching)) : Belated day later

theorem Belated.unchanged {later : Workday τ} (belated : Belated day later)
    (same : next.received = later.received)
    (reaching : ∀ worker, next.holder = some (worker, .reaching) →
      later.holder = some (worker, .reaching)) : Belated day next := by
  cases belated with
  | untaken before held =>
      exact .untaken (same.trans before) fun worker holds => held worker (reaching worker holds)
  | taken holds last unheld =>
      exact .taken holds (same.trans last) fun other held => unheld other (reaching other held)

theorem belated_move {later : Workday τ} (belated : Belated day later)
    (stopped : later.pool.stopping = true) (move : Move later next) : Belated day next := by
  cases move with
  | entered _ _ | dismissed _ _ | left _ _ | waited _ _ | woke _ _ =>
      exact belated.unchanged rfl nofun
  | passed _ unstopped =>
      rw [stopped] at unstopped
      cases unstopped
  | took holds turn =>
      cases belated with
      | untaken same reaching =>
          exact .taken (reaching _ holds) (congrArg (· ++ _) same) nofun
      | taken _ _ unheld => exact absurd holds (unheld _)

theorem belated_later {efforts : Nat} {later : Workday τ} (after : Later day efforts later)
    (stopped : day.pool.stopping = true) : Belated day later := by
  induction after with
  | now => exact .untaken rfl fun _ holds => holds
  | moved before move ih => exact belated_move ih (stopping_later before stopped) move
  | worked _ step ih =>
      obtain ⟨worker, task, activity, manner, -, -, rfl⟩ := job_cases step
      exact ih.unchanged rfl fun _ holds => holds
  | outside _ event ih =>
      cases event with
      | offered _ _ | finished | stopped _ | released => exact ih.unchanged rfl fun _ holds => holds

/-! ## Coming to an end -/

/-- No worker can move, and no job is running. -/
def AtRest (day : Workday τ) : Prop := (∀ next, ¬ Move day next) ∧ day.pool.busyCount = 0

/-- Whoever reaches into the queue takes a task, leaves or goes to wait. -/
theorem moves_of_reaching {worker : Nat} (holds : day.holder = some (worker, .reaching)) :
    ∃ next, Move day next := by
  cases turn : day.pool.unaware.turn with
  | take task rest => exact ⟨_, .took holds turn⟩
  | leave => exact ⟨_, .left holds turn⟩
  | wait => exact ⟨_, .waited holds turn⟩

/-- A pool that is being stopped is never stuck: as long as a worker is there, a job is running
or somebody can move. -/
theorem unstuck_of_stopped (stopped : day.pool.stopping = true) {worker : Worker τ}
    (member : worker ∈ day.pool.workers) (present : worker.departed = false) :
    0 < day.pool.busyCount ∨ ∃ next, Move day next := by
  rcases holds : day.holder with _ | ⟨holder, grip⟩
  · cases worker with
    | gone | dead => cases present
    | free =>
        obtain ⟨index, free⟩ := List.mem_iff_getElem?.mp member
        exact .inr ⟨_, .entered free holds⟩
    | busy task => exact .inl (List.countP_pos_iff.mpr ⟨_, member, rfl⟩)
  · right
    cases grip with
    | looking => exact ⟨_, .dismissed holds stopped⟩
    | reaching => exact moves_of_reaching holds
    | waiting =>
        have leaves : day.pool.turn ≠ .wait := by simp [WorkerPool.turn, stopped]
        exact ⟨_, .woke holds leaves⟩

theorem departed_atRest (stopped : day.pool.stopping = true) (rest : day.AtRest) :
    ∀ worker ∈ day.pool.workers, worker.departed = true := by
  intro worker member
  cases present : worker.departed with
  | true => rfl
  | false =>
      rcases unstuck_of_stopped stopped member present with busy | ⟨next, move⟩
      · rw [rest.2] at busy
        cases busy
      · exact absurd move (rest.1 next)

theorem runningAt_departed (departed : ∀ worker ∈ day.pool.workers, worker.departed = true)
    (worker : Nat) : day.flow.runningAt worker = [] := by
  cases present : day.pool.workers[worker]? with
  | none =>
      have absent : day.flow.pool.workers[worker]? = none := present
      simp only [FanOut.runningAt, absent]
  | some activity =>
      have away := departed activity (List.mem_of_getElem? present)
      rw [FanOut.runningAt_of_present present]
      cases activity with
      | free | busy task => cases away
      | gone | dead => rfl

theorem outcome_of_kept (kept : Kept size day) :
    day.pool.outcome = .ok () ↔ ∀ job ∈ day.done, job.2.2 ≠ .kills := by
  have losses : day.flow.losses = day.pool.workers.countP Worker.isDead := kept.accounted.losses
  rw [WorkerPool.outcome_eq_ok_iff, ← losses, FanOut.losses, List.countP_eq_zero]
  simp [flow]

/-- What a pool keeps to at every moment. -/
structure Lawful (size : Nat) (day : Workday τ) : Prop where
  staffed : day.pool.workers.length = max size 1
  /-- What was sent is received or still in the queue, and nothing else is. -/
  whole : day.sent = day.received.map Prod.snd ++ day.pool.queue.items
  /-- What a worker received he is done with, once each, or is doing now. -/
  once : ∀ worker, day.flow.receivedBy worker = day.flow.doneBy worker ++ day.flow.runningAt worker
  /-- Nobody leaves before the queue is finished and empty, unless the pool is being stopped. -/
  departures : day.pool.stopping = false → ∀ worker : Nat,
    day.pool.workers[worker]? = some .gone →
      day.pool.queue.finished = true ∧ day.pool.queue.items = []
  /-- Nobody dies but by a job that kills him. -/
  deaths : ∀ worker : Nat, day.pool.workers[worker]? = some .dead →
    ∃ task, (worker, task, JobManner.kills) ∈ day.done
  joined : day.pool.outcome = .ok () ↔ ∀ job ∈ day.done, job.2.2 ≠ .kills

/-- What a pool comes to that is being stopped since a day, after some efforts of its workers. -/
structure WindsDown (size : Nat) (day : Workday τ) (efforts : Nat) (later : Workday τ) : Prop where
  /-- Nobody who looks from then on takes a task. -/
  taken : later.received = day.received ∨ ∃ worker task,
    day.holder = some (worker, .reaching) ∧ later.received = day.received ++ [(worker, task)]
  bounded : efforts ≤ 3 * max size 1 + 3
  unstuck : (∃ worker ∈ later.pool.workers, worker.departed = false) →
    0 < later.pool.busyCount ∨ ∃ next, Move later next
  /-- When no job is running and nobody can move, everybody is away with all his work done. -/
  ended : later.AtRest → (∀ worker ∈ later.pool.workers, worker.departed = true) ∧
    ∀ worker, later.flow.receivedBy worker = later.flow.doneBy worker

theorem lawful_of_kept (kept : Kept size day) : Lawful size day where
  staffed := kept.staffed.staffed
  whole := kept.whole
  once := kept.accounted.balanced
  departures := kept.left
  deaths := kept.accounted.killed
  joined := outcome_of_kept kept

theorem windsDown_of_kept (kept : Kept size day) (stopped : day.pool.stopping = true)
    {efforts : Nat} {later : Workday τ} (after : Later day efforts later) :
    WindsDown size day efforts later where
  taken := by
    cases belated_later after stopped with
    | untaken same reaching => exact .inl same
    | taken reaching last unheld => exact .inr ⟨_, _, reaching, last⟩
  bounded := by
    have spent := efforts_le_toil after kept stopped
    have most := toil_le kept
    omega
  unstuck := fun ⟨_, member, present⟩ =>
    unstuck_of_stopped (stopping_later after stopped) member present
  ended rest := by
    have departed := departed_atRest (stopping_later after stopped) rest
    refine ⟨departed, fun worker => ?_⟩
    rw [(kept_later kept after).accounted.balanced worker, runningAt_departed departed,
      List.append_nil]

/-- Whoever has departed from a pool that is not being stopped found the queue finished and empty,
or was killed by his job. -/
theorem Lawful.departed (lawful : Lawful size day) (unstopped : day.pool.stopping = false)
    {worker : Nat} {activity : Worker τ} (present : day.pool.workers[worker]? = some activity)
    (departed : activity.departed = true) :
    (day.pool.queue.finished = true ∧ day.pool.queue.items = []) ∨
      ∃ task, (worker, task, JobManner.kills) ∈ day.done := by
  cases activity with
  | free | busy task => cases departed
  | gone => exact .inl (lawful.departures unstopped worker present)
  | dead => exact .inr (lawful.deaths worker present)

/-- **A pool that is stopped winds down**, at whatever moment and under every schedule. What was
sent is received or left in the queue, and every job that was begun is done once or running.
From the stop on nobody who looks for a task takes one, and only one who had looked before may.
The workers make at most three moves each and three more between them, and until the last of
them has departed a job is running or somebody can move; then all that was received is done, and
all went well unless a job killed its worker. From a pool that is let go of without a stop
nobody departs before the queue is finished and empty, unless his job kills him. -/
theorem stopped_pool_winds_down (reachable : Reachable capacity size day) :
    Lawful size day ∧
      ∀ efforts later, Later day efforts later →
        Lawful size later ∧
        (day.pool.stopping = true → WindsDown size day efforts later) ∧
        (day.released = true → day.pool.stopping = false →
          ∀ (worker : Nat) (activity : Worker τ), later.pool.workers[worker]? = some activity →
            activity.departed = true →
            (later.pool.queue.finished = true ∧ later.pool.queue.items = []) ∨
              ∃ task, (worker, task, JobManner.kills) ∈ later.done) := by
  obtain ⟨earlier, reached⟩ := reachable
  have kept : Kept size day := kept_later kept_opened reached
  refine ⟨lawful_of_kept kept, fun efforts later after => ?_⟩
  have lawful := lawful_of_kept (kept_later kept after)
  refine ⟨lawful, fun stopped => windsDown_of_kept kept stopped after, ?_⟩
  intro released unstopped worker activity present departed
  exact lawful.departed (unstopped_later after released unstopped).2 present departed

/-! ## Poles -/

theorem atRest_of_departed (unheld : day.holder = none)
    (departed : ∀ worker ∈ day.pool.workers, worker.departed = true) : day.AtRest := by
  refine ⟨fun next move => ?_, List.countP_eq_zero.mpr fun worker member => ?_⟩
  · cases move with
    | entered free _ => cases departed _ (List.mem_of_getElem? free)
    | passed holds _ | dismissed holds _ | took holds _ | left holds _ | waited holds _
    | woke holds _ =>
        rw [unheld] at holds
        cases holds
  · have away := departed worker member
    cases worker with
    | free | busy task => cases away
    | gone | dead => simp

/-- Two workers and three tasks: the pool is being stopped, one worker is busy, and the other has
looked before. -/
def stoppedLate : Workday Nat where
  pool := ⟨⟨3, [8, 9], false, false⟩, true, [.busy 7, .free]⟩
  holder := some (1, .reaching)
  released := false
  sent := [7, 8, 9]
  received := [(0, 7)]
  done := []

theorem reachable_stoppedLate : Reachable 3 2 stoppedLate := by
  have start : Later (opened 3 2 : Workday Nat) 0 _ := .now
  have first := start.outside (@Outside.offered _ _ 7 _ rfl rfl)
  have second := first.outside (@Outside.offered _ _ 8 _ rfl rfl)
  have third := second.outside (@Outside.offered _ _ 9 _ rfl rfl)
  have looked := (third.moved (@Move.entered _ _ 0 rfl rfl)).moved (.passed rfl rfl)
  have busy := looked.moved (.took rfl rfl)
  have again := (busy.moved (@Move.entered _ _ 1 rfl rfl)).moved (.passed rfl rfl)
  exact ⟨_, again.outside (.stopped rfl)⟩

/-- He takes one more task, the last one is left, and a job that panics does no harm. -/
theorem stopped_pool_winds_down_late :
    Reachable 3 2 stoppedLate ∧ ∃ later, Later stoppedLate 7 later ∧
      later.received = [(0, 7), (1, 8)] ∧ later.pool.queue.items = [9] ∧ later.AtRest ∧
      later.pool.outcome = .ok () ∧ Lawful 2 later ∧ WindsDown 2 stoppedLate 7 later := by
  have late := (Later.now : Later stoppedLate 0 stoppedLate).moved (.took rfl rfl)
  have panicked := late.worked (@JobStep.completed _ _ 0 _ rfl .panics nofun)
  have returned := panicked.worked (@JobStep.completed _ _ 1 _ rfl .returns nofun)
  have left := (returned.moved (@Move.entered _ _ 0 rfl rfl)).moved (.dismissed rfl rfl)
  have away := (left.moved (@Move.entered _ _ 1 rfl rfl)).moved (.dismissed rfl rfl)
  obtain ⟨-, law⟩ := stopped_pool_winds_down reachable_stoppedLate
  obtain ⟨lawful, winds, -⟩ := law _ _ away
  refine ⟨reachable_stoppedLate, _, away, rfl, rfl, atRest_of_departed rfl ?_, rfl, lawful,
    winds rfl⟩
  decide

/-- A job that kills its worker spoils the end: the pool is stopped, everybody is away, and
waiting for them is an internal failure. -/
theorem killed_before_stop :
    ∃ day : Workday Nat, Reachable 1 1 day ∧ day.pool.stopping = true ∧ day.AtRest ∧
      day.sent = [7] ∧ day.done = [(0, 7, .kills)] ∧ day.pool.outcome = .error .internal := by
  have start : Later (opened 1 1 : Workday Nat) 0 _ := .now
  have sent := start.outside (@Outside.offered _ _ 7 _ rfl rfl)
  have entered := sent.moved (@Move.entered _ _ 0 rfl rfl)
  have passed := entered.moved (.passed rfl rfl)
  have busy := passed.moved (.took rfl rfl)
  have killed := busy.worked (@JobStep.killed _ _ 0 _ rfl)
  have stopped := killed.outside (.stopped rfl)
  refine ⟨_, ⟨_, stopped⟩, rfl, atRest_of_departed rfl ?_, rfl, rfl, rfl⟩
  decide

end Workday

end Redelivery
