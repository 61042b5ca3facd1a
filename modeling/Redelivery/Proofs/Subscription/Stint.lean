import Redelivery.Proofs.Connection.Usage
import Redelivery.Proofs.Subscription.Stopping
/-!
# A subscription and those around it

A collector runs beside the workers, and not step by step: once it is resumed it goes on until
it suspends itself or is over, and everybody else may go on meanwhile. Whoever stops the
subscription cancels the consumer, then tells the collector to give up, and then stops the pool,
and waits for nobody in between. A collector that is told to give up does so when it is
suspended; one that runs goes on to where it suspends itself next.

`Stint` is a subscription at one moment, with the stream of notices that others take, read,
close and add to. What the broker comes to deliver is the stream of the collector, whatever it
still sends to a consumer that is being cancelled included.

* `Stint.kept_step`, `Stint.kept_later`: what a step preserves, and so every run.
* `Collector.heading_step`, `Stint.Progress`: how a collector can end: as its stream does, or
  before nobody.
-/

namespace Redelivery

set_option autoImplicit false

open Collector (verdict alarm?)

/-- Where a collector is between two suspensions. -/
inductive Pace where
  /-- It waits to be resumed. -/
  | suspended
  | running
  /-- It is over, and has announced how. -/
  | finished
  /-- It has given up. -/
  | dropped
  deriving DecidableEq

/-- How far the stopping of a subscription has come. -/
inductive Retreat where
  /-- Nobody has stopped it. -/
  | unasked
  /-- The consumer is being cancelled. -/
  | cancelling
  /-- The collector was told to give up; the pool is stopped next. -/
  | aborting
  | done
  deriving DecidableEq

def Retreat.aborted : Retreat → Bool
  | unasked | cancelling => false
  | aborting | done => true

/-- What others do with a stream of notices, and what is read of it. -/
inductive NoticeStream.Goes (stream : NoticeStream) : List Notice → NoticeStream → Prop where
  | taken : Goes stream [] stream.take.2
  | raised (notice : Notice) : Goes stream [] (stream.raise notice)
  | closed : Goes stream [] stream.close
  | read {notice : Notice} {rest : NoticeStream} (found : stream.receive = (.notice notice, rest)) :
      Goes stream [notice] rest
  | abandoned : Goes stream [] stream.abandon

/-! ## Where a collector is heading -/

namespace Collector

variable {δ : Type}

/-- What a collector comes to if every delivery is taken. -/
def heading : Collector δ → Outcome
  | pulling stream | holding _ stream => verdict stream
  | ended outcome => outcome

theorem heading_step {collector next : Collector δ} {queue after : TaskQueue δ}
    (taken : collector.step queue = some (next, after)) :
    next.heading = collector.heading ∨
      next = .ended (.error queueClosed) ∧ queue.abandoned = true := by
  rcases step_cases taken with ⟨delivery, rest, rfl, rfl, -⟩ | ⟨delivery, rest, rfl, -, -, rfl, -⟩ |
    ⟨rest, rfl, -, rfl, -⟩ | ⟨delivery, rest, rfl, abandoned, rfl, -⟩
  · exact .inl rfl
  · exact .inl rfl
  · exact .inl rfl
  · exact .inr ⟨rfl, abandoned⟩

theorem unended_of_step {collector next : Collector δ} {queue after : TaskQueue δ}
    (taken : collector.step queue = some (next, after)) : collector.outcome? = none := by
  cases collector with
  | pulling stream | holding delivery stream => rfl
  | ended outcome => cases taken

theorem queue_of_step {collector next : Collector δ} {queue after : TaskQueue δ}
    (taken : collector.step queue = some (next, after)) (unfinished : queue.finished = false) :
    after.capacity = queue.capacity ∧
      (after.finished = true ↔ next.outcome?.isSome = true) := by
  rcases step_cases taken with ⟨delivery, rest, -, rfl, rfl⟩ | ⟨delivery, rest, -, -, -, rfl, rfl⟩ |
    ⟨rest, -, -, rfl, rfl⟩ | ⟨delivery, rest, -, -, rfl, rfl⟩
  · simp [unfinished, outcome?]
  · simp [unfinished, outcome?]
  · simp [TaskQueue.finish, outcome?]
  · simp [TaskQueue.finish, outcome?]

end Collector

/-! ## The day beside the collector -/

namespace Workday

variable {τ : Type} {size : Nat} {day next : Workday τ}

/-- The day after the collector has left the queue like this. -/
def supplied (day : Workday τ) (queue : TaskQueue τ) : Workday τ :=
  { day with
    pool := { day.pool with queue }
    sent := day.received.map Prod.snd ++ queue.items }

@[simp] theorem queue_supplied (day : Workday τ) (queue : TaskQueue τ) :
    (day.supplied queue).pool.queue = queue := rfl

/-- What the workers leave alone: whether the queue is finished, and whether the pool is being
stopped. And whoever does something is there. -/
structure Beside (day next : Workday τ) : Prop where
  capacity : next.pool.queue.capacity = day.pool.queue.capacity
  finished : next.pool.queue.finished = day.pool.queue.finished
  stopping : next.pool.stopping = day.pool.stopping
  released : next.released = day.released
  manned : day.pool.deserted = false

theorem manned_of_move (kept : Kept size day) (move : Move day next) :
    day.pool.deserted = false := by
  cases move with
  | entered free _ => exact WorkerPool.not_deserted free rfl
  | passed holds _ | dismissed holds _ | took holds _ | left holds _ | waited holds _
  | woke holds _ => exact WorkerPool.not_deserted (kept.free holds) rfl

theorem beside_move (kept : Kept size day) (move : Move day next) : Beside day next := by
  have manned := manned_of_move kept move
  cases move with
  | entered _ _ | passed _ _ | waited _ _ | woke _ _ => exact ⟨rfl, rfl, rfl, rfl, manned⟩
  | dismissed holds stopped =>
      rw [WorkerPool.receive_of_stopped (kept.free holds) stopped]
      exact ⟨WorkerPool.capacity_assign _ _ _, WorkerPool.finished_assign _ _ _, rfl, rfl, manned⟩
  | took holds turn =>
      obtain ⟨-, rest⟩ := WorkerPool.of_turn_take rfl turn
      rw [WorkerPool.reach_of_take (kept.free holds) turn, rest]
      exact ⟨WorkerPool.capacity_assign _ _ _, WorkerPool.finished_assign _ _ _, rfl, rfl, manned⟩
  | left holds turn =>
      rw [WorkerPool.reach_of_leave (kept.free holds) turn]
      exact ⟨WorkerPool.capacity_assign _ _ _, WorkerPool.finished_assign _ _ _, rfl, rfl, manned⟩

theorem beside_job (step : JobStep day next) : Beside day next := by
  obtain ⟨worker, task, activity, manner, busy, -, rfl⟩ := job_cases step
  exact ⟨WorkerPool.capacity_assign _ _ _, WorkerPool.finished_assign _ _ _, rfl, rfl,
    WorkerPool.not_deserted busy rfl⟩

/-- What a collector does with a queue that is not finished is one of the things that others may
do, or nothing. -/
theorem kept_supplied {before after : Collector τ} {queue : TaskQueue τ} (kept : Kept size day)
    (unfinished : day.pool.queue.finished = false)
    (taken : before.step day.pool.queue = some (after, queue)) :
    Kept size (day.supplied queue) := by
  have whole := kept.whole
  have ended : Kept size (day.supplied day.pool.queue.finish) := by
    have same := kept_outside kept .finished
    rw [whole] at same
    exact same
  rcases Collector.step_cases taken with ⟨delivery, stream, -, -, rfl⟩ |
    ⟨delivery, stream, -, staffed, room, -, rfl⟩ | ⟨stream, -, -, -, rfl⟩ |
    ⟨delivery, stream, -, -, -, rfl⟩
  · rw [supplied, ← whole]
    exact kept
  · have accepted : day.pool.queue.offer delivery =
        .accepted { day.pool.queue with items := day.pool.queue.items ++ [delivery] } := by
      simp [TaskQueue.offer, staffed, TaskQueue.hasRoom, room]
    have same := kept_outside kept (.offered unfinished accepted)
    rw [whole, List.append_assoc] at same
    exact same
  · exact ended
  · exact ended

end Workday

/-- A subscription, its collector and its workers, and the notices. -/
structure Stint (δ : Type) where
  day : Workday δ
  collector : Collector δ
  pace : Pace
  retreat : Retreat
  notices : NoticeStream
  /-- The notices that were read. -/
  read : List Notice
  /-- The notices that the collector has raised, whether or not anybody could hear them. -/
  raised : List Notice

namespace Stint

variable {δ : Type} {generation capacity size : Nat} {stream : List (Except String δ)}
  {notices : NoticeStream} {stint next later : Stint δ}

def opened (capacity size : Nat) (stream : List (Except String δ)) (notices : NoticeStream) :
    Stint δ where
  day := .opened capacity size
  collector := .pulling stream
  pace := .suspended
  retreat := .unasked
  notices
  read := []
  raised := []

inductive Step (generation : Nat) (stint : Stint δ) : Stint δ → Prop where
  | moved {day : Workday δ} (move : stint.day.Move day) :
      Step generation stint { stint with day }
  | worked {day : Workday δ} (step : stint.day.JobStep day) :
      Step generation stint { stint with day }
  | resumed (suspended : stint.pace = .suspended) (wanted : stint.retreat.aborted = false) :
      Step generation stint { stint with pace := .running }
  | suspended (running : stint.pace = .running) (unended : stint.collector.outcome? = none) :
      Step generation stint { stint with pace := .suspended }
  | collected {collector : Collector δ} {queue : TaskQueue δ} (running : stint.pace = .running)
      (taken : stint.collector.step stint.day.pool.queue = some (collector, queue)) :
      Step generation stint { stint with collector, day := stint.day.supplied queue }
  /-- A collector that is over says so, if it failed. -/
  | announced {outcome : Outcome} (running : stint.pace = .running)
      (ended : stint.collector = .ended outcome) :
      Step generation stint
        { stint with
          pace := .finished
          notices := Collector.announce generation outcome stint.notices
          raised := stint.raised ++ (alarm? generation outcome).toList }
  /-- A collector gives up, and lets go of its end of the queue. -/
  | dropped (suspended : stint.pace = .suspended) (told : stint.retreat.aborted = true) :
      Step generation stint
        { stint with
          pace := .dropped
          day := { stint.day with
            pool := { stint.day.pool with queue := stint.day.pool.queue.finish } } }
  /-- Somebody begins to stop the subscription. -/
  | called (unasked : stint.retreat = .unasked) :
      Step generation stint { stint with retreat := .cancelling }
  | aborted (cancelling : stint.retreat = .cancelling) :
      Step generation stint { stint with retreat := .aborting }
  | stopped (aborting : stint.retreat = .aborting) :
      Step generation stint
        { stint with
          retreat := .done
          day := { stint.day with pool := stint.day.pool.stop } }
  | elsewhere {seen : List Notice} {notices : NoticeStream}
      (goes : stint.notices.Goes seen notices) :
      Step generation stint { stint with notices, read := stint.read ++ seen }

/-- One moment comes after another, under any schedule. -/
inductive Later (generation : Nat) (stint : Stint δ) : Stint δ → Prop where
  | now : Later generation stint stint
  | step {later next : Stint δ} (before : Later generation stint later)
      (step : Step generation later next) : Later generation stint next

def Reachable (generation capacity size : Nat) (stream : List (Except String δ))
    (notices : NoticeStream) (stint : Stint δ) : Prop :=
  Later generation (opened capacity size stream notices) stint

theorem Later.trans {middle : Stint δ} (first : Later generation stint middle)
    (second : Later generation middle later) : Later generation stint later := by
  induction second with
  | now => exact first
  | step _ step ih => exact ih.step step

/-! ## What a step preserves -/

/-- Where a collector is heading: to the end of its stream, or it has ended before a pool that is
deserted; if the pool is not being stopped, its workers are dead then. -/
inductive Progress (stream : List (Except String δ)) (pool : WorkerPool δ)
    (collector : Collector δ) : Prop where
  | onward (heading : collector.heading = verdict stream) : Progress stream pool collector
  | refused (ends : collector = .ended (.error Collector.queueClosed))
      (deserted : pool.deserted = true)
      (dead : pool.stopping = false → ∀ worker ∈ pool.workers, worker.isDead = true) :
      Progress stream pool collector

/-- What a collector has raised, by where it is: nothing before it is over. -/
inductive Paced (generation : Nat) (collector : Collector δ) (pace : Pace) (retreat : Retreat)
    (raised : List Notice) : Prop where
  | suspended (waits : pace = .suspended) (unended : collector.outcome? = none)
      (silent : raised = []) : Paced generation collector pace retreat raised
  | running (runs : pace = .running) (silent : raised = []) :
      Paced generation collector pace retreat raised
  | finished {outcome : Outcome} (finished : pace = .finished) (ended : collector = .ended outcome)
      (said : raised = (alarm? generation outcome).toList) :
      Paced generation collector pace retreat raised
  | dropped (gone : pace = .dropped) (told : retreat.aborted = true)
      (unended : collector.outcome? = none) (silent : raised = []) :
      Paced generation collector pace retreat raised

/-- What holds at every moment. -/
structure Kept (generation capacity size : Nat) (stream : List (Except String δ))
    (stint : Stint δ) : Prop where
  day : Workday.Kept size stint.day
  held : stint.day.released = false
  bounded : stint.day.pool.queue.capacity = capacity
  stopping : stint.day.pool.stopping = true ↔ stint.retreat = .done
  finished : stint.day.pool.queue.finished = true ↔
    stint.collector.outcome?.isSome = true ∨ stint.pace = .dropped
  progress : Progress stream stint.day.pool stint.collector
  paced : Paced generation stint.collector stint.pace stint.retreat stint.raised

theorem kept_opened :
    Kept generation capacity size stream (opened capacity size stream notices) where
  day := Workday.kept_opened
  held := rfl
  bounded := rfl
  stopping := by simp [opened, Workday.opened, WorkerPool.ofSize]
  finished := by
    simp [opened, Workday.opened, WorkerPool.ofSize, TaskQueue.ofCapacity, Collector.outcome?]
  progress := .onward rfl
  paced := .suspended rfl rfl rfl

/-- A stream has come as far as it had, as long as the workers are where they were and nobody
undoes a stop. -/
theorem Progress.unchanged {pool next : WorkerPool δ} {collector : Collector δ}
    (progress : Progress stream pool collector) (workers : next.workers = pool.workers)
    (stopping : next.stopping = false → pool.stopping = false) :
    Progress stream next collector := by
  cases progress with
  | onward heading => exact .onward heading
  | refused ends deserted dead =>
      refine .refused ends ?_ ?_
      · rw [WorkerPool.deserted, workers]
        exact deserted
      · rw [workers]
        exact fun unstopped => dead (stopping unstopped)

theorem Kept.silent (kept : Kept generation capacity size stream stint)
    (running : stint.pace = .running) : stint.raised = [] := by
  cases kept.paced with
  | suspended _ _ silent | running _ silent | dropped _ _ _ silent => exact silent
  | finished finished _ _ => cases running.symm.trans finished

theorem Kept.unended (kept : Kept generation capacity size stream stint)
    (suspended : stint.pace = .suspended) :
    stint.collector.outcome? = none ∧ stint.raised = [] := by
  cases kept.paced with
  | suspended _ unended silent => exact ⟨unended, silent⟩
  | running pace _ | finished pace _ _ | dropped pace _ _ _ => cases suspended.symm.trans pace

/-- A collector ends as its stream does, or before a pool that is deserted: because it was stopped,
or because all workers are dead. -/
theorem Kept.ends (kept : Kept generation capacity size stream stint) {outcome : Outcome}
    (ended : stint.collector = .ended outcome) :
    outcome = verdict stream ∨
      outcome = .error Collector.queueClosed ∧ stint.day.pool.deserted = true ∧
        (stint.retreat = .done ∨ ∀ worker ∈ stint.day.pool.workers, worker.isDead = true) := by
  cases kept.progress with
  | onward heading =>
      rw [ended] at heading
      exact .inl heading
  | refused ends deserted dead =>
      cases ended.symm.trans ends
      refine .inr ⟨rfl, deserted, ?_⟩
      cases stopping : stint.day.pool.stopping with
      | true => exact .inl (kept.stopping.mp stopping)
      | false => exact .inr (dead stopping)

theorem Kept.announces (kept : Kept generation capacity size stream stint) {outcome : Outcome}
    (ended : stint.collector = .ended outcome) :
    stint.pace = .running ∧ stint.raised = [] ∨
      stint.pace = .finished ∧ stint.raised = (alarm? generation outcome).toList := by
  have told : stint.collector.outcome? = some outcome := by
    rw [ended]
    rfl
  cases kept.paced with
  | running pace silent => exact .inl ⟨pace, silent⟩
  | finished pace same said =>
      cases ended.symm.trans same
      exact .inr ⟨pace, said⟩
  | suspended _ unended _ | dropped _ _ unended _ => cases told.symm.trans unended

/-- On a stream without errors a collector raises nothing, or once that nobody takes tasks any
more. -/
theorem Kept.raised_of_clean (kept : Kept generation capacity size stream stint)
    (clean : ∀ item ∈ stream, ∃ delivery, item = .ok delivery) :
    stint.raised = [] ∨
      stint.raised = [⟨generation, Collector.queueClosed.message⟩] ∧
        stint.day.pool.deserted = true ∧
        (stint.retreat = .done ∨ ∀ worker ∈ stint.day.pool.workers, worker.isDead = true) := by
  cases kept.paced with
  | suspended _ _ silent | running _ silent | dropped _ _ _ silent => exact .inl silent
  | finished _ ended said =>
      rcases kept.ends ended with rfl | ⟨rfl, away⟩
      · rw [Collector.verdict_of_clean clean] at said
        exact .inl said
      · exact .inr ⟨said, away⟩

theorem kept_beside {day : Workday δ} (kept : Kept generation capacity size stream stint)
    (worked : Workday.Kept size day) (beside : stint.day.Beside day) :
    Kept generation capacity size stream { stint with day } where
  day := worked
  held := beside.released.trans kept.held
  bounded := beside.capacity.trans kept.bounded
  stopping := by
    rw [beside.stopping]
    exact kept.stopping
  finished := by
    rw [beside.finished]
    exact kept.finished
  progress := by
    cases kept.progress with
    | onward heading => exact .onward heading
    | refused _ deserted _ => cases beside.manned.symm.trans deserted
  paced := kept.paced

/-- Nobody leaves a pool that is not being stopped before the queue is finished: if it is deserted
then, everybody is dead. -/
theorem dead_of_deserted (kept : Kept generation capacity size stream stint)
    (unfinished : stint.day.pool.queue.finished = false)
    (deserted : stint.day.pool.deserted = true) (unstopped : stint.day.pool.stopping = false) :
    ∀ worker ∈ stint.day.pool.workers, worker.isDead = true := by
  intro worker member
  have departed := List.all_eq_true.mp deserted worker member
  cases worker with
  | free | busy task => cases departed
  | dead => rfl
  | gone =>
      obtain ⟨index, gone⟩ := List.mem_iff_getElem?.mp member
      have finished := (kept.day.left unstopped index gone).1
      cases unfinished.symm.trans finished

theorem progress_collected {collector : Collector δ} {queue : TaskQueue δ}
    (kept : Kept generation capacity size stream stint)
    (unfinished : stint.day.pool.queue.finished = false)
    (taken : stint.collector.step stint.day.pool.queue = some (collector, queue)) :
    Progress stream { stint.day.pool with queue } collector := by
  rcases Collector.heading_step taken with same | ⟨ends, abandoned⟩
  · cases kept.progress with
    | onward heading => exact .onward (same.trans heading)
    | refused ended _ _ =>
        have unended := Collector.unended_of_step taken
        rw [ended] at unended
        cases unended
  · have deserted : stint.day.pool.deserted = true :=
      kept.day.staffed.abandoned.symm.trans abandoned
    exact .refused ends deserted (dead_of_deserted kept unfinished deserted)

theorem kept_collected {collector : Collector δ} {queue : TaskQueue δ}
    (kept : Kept generation capacity size stream stint) (running : stint.pace = .running)
    (taken : stint.collector.step stint.day.pool.queue = some (collector, queue)) :
    Kept generation capacity size stream
      { stint with collector, day := stint.day.supplied queue } := by
  have unfinished : stint.day.pool.queue.finished = false := by
    simpa [Collector.unended_of_step taken, running] using kept.finished
  obtain ⟨same, finished⟩ := Collector.queue_of_step taken unfinished
  refine ⟨Workday.kept_supplied kept.day unfinished taken, kept.held, same.trans kept.bounded,
    kept.stopping, ?_, progress_collected kept unfinished taken,
    .running running (kept.silent running)⟩
  simpa [running] using finished

theorem kept_dropped (kept : Kept generation capacity size stream stint)
    (suspended : stint.pace = .suspended) (told : stint.retreat.aborted = true) :
    Kept generation capacity size stream
      { stint with
        pace := .dropped
        day := { stint.day with
          pool := { stint.day.pool with queue := stint.day.pool.queue.finish } } } where
  day := Workday.kept_outside kept.day .finished
  held := kept.held
  bounded := kept.bounded
  stopping := kept.stopping
  finished := by simp [TaskQueue.finish]
  progress := kept.progress.unchanged rfl id
  paced := .dropped rfl told (kept.unended suspended).1 (kept.unended suspended).2

theorem Paced.nearer {collector : Collector δ} {pace : Pace} {retreat further : Retreat}
    {raised : List Notice} (paced : Paced generation collector pace retreat raised)
    (nearer : retreat.aborted = true → further.aborted = true) :
    Paced generation collector pace further raised := by
  cases paced with
  | suspended pace unended silent => exact .suspended pace unended silent
  | running pace silent => exact .running pace silent
  | finished pace ended said => exact .finished pace ended said
  | dropped pace told unended silent => exact .dropped pace (nearer told) unended silent

theorem kept_stopped (kept : Kept generation capacity size stream stint) :
    Kept generation capacity size stream
      { stint with
        retreat := .done
        day := { stint.day with pool := stint.day.pool.stop } } where
  day := Workday.kept_outside kept.day (.stopped kept.held)
  held := kept.held
  bounded := kept.bounded
  stopping := by simp [WorkerPool.stop]
  finished := kept.finished
  progress := kept.progress.unchanged rfl nofun
  paced := kept.paced.nearer fun _ => rfl

theorem kept_step (kept : Kept generation capacity size stream stint)
    (step : Step generation stint next) : Kept generation capacity size stream next := by
  cases step with
  | moved move =>
      exact kept_beside kept (Workday.kept_move kept.day move) (Workday.beside_move kept.day move)
  | worked step =>
      exact kept_beside kept (Workday.kept_job kept.day step) (Workday.beside_job step)
  | resumed suspended wanted =>
      refine ⟨kept.day, kept.held, kept.bounded, kept.stopping, ?_, kept.progress, ?_⟩
      · simpa [suspended] using kept.finished
      · exact .running rfl (kept.unended suspended).2
  | suspended running unended =>
      refine ⟨kept.day, kept.held, kept.bounded, kept.stopping, ?_, kept.progress, ?_⟩
      · simpa [running] using kept.finished
      · exact .suspended rfl unended (kept.silent running)
  | collected running taken => exact kept_collected kept running taken
  | announced running ended =>
      refine ⟨kept.day, kept.held, kept.bounded, kept.stopping, ?_, kept.progress, ?_⟩
      · simpa [running] using kept.finished
      · exact .finished rfl ended (by rw [kept.silent running, List.nil_append])
  | dropped suspended told => exact kept_dropped kept suspended told
  | called unasked =>
      refine ⟨kept.day, kept.held, kept.bounded, ?_, kept.finished, kept.progress, ?_⟩
      · simpa [unasked] using kept.stopping
      · exact kept.paced.nearer (by simp [unasked, Retreat.aborted])
  | aborted cancelling =>
      refine ⟨kept.day, kept.held, kept.bounded, ?_, kept.finished, kept.progress, ?_⟩
      · simpa [cancelling] using kept.stopping
      · exact kept.paced.nearer fun _ => rfl
  | stopped aborting => exact kept_stopped kept
  | elsewhere goes =>
      exact ⟨kept.day, kept.held, kept.bounded, kept.stopping, kept.finished, kept.progress,
        kept.paced⟩

theorem kept_later (kept : Kept generation capacity size stream stint)
    (after : Later generation stint later) : Kept generation capacity size stream later := by
  induction after with
  | now => exact kept
  | step _ step ih => exact kept_step ih step

end Stint

end Redelivery
