import Redelivery.Proofs.Subscription.Pool
import Redelivery.Rehearsal.PoolRun
/-!
# The fan-out of a subscription

A collector puts the deliveries of a stream into a bounded queue, and the workers of a pool
compete for them: the receiving end of the queue is one, and a worker takes hold of it before
he takes a task. `FanOut` is all of this at one moment, with an account of who received what
and of which jobs are over. Its steps are `Collector.step` and the turns of `WorkerPool`, in
any order and with any outcome of any job; nobody stops the pool.

A job that panics while it runs does its worker no harm, but one that panics before it has
begun kills him. So the guarantees are stated for all jobs, and those that depend on the
workers are promised as long as one worker survives.

* `kept_step`, `kept_job`: what a step preserves, one lemma for each concern behind them.
* `each_delivery_once`: the deliveries before the first error are received once each and in
  order, whatever the schedule, and a subscription comes to rest only with all its work done.
* `killed_worker_leaves`: a job that kills the only worker takes the queue with him.
-/

namespace Redelivery

set_option autoImplicit false

open Rehearsal (JobManner)
open Collector (undisturbed verdict)

/-- A subscription at work: its collector, its workers, which of them has hold of the
receiving end of the queue, and what was received and done so far. -/
structure FanOut (δ : Type) where
  collector : Collector δ
  pool : WorkerPool δ
  holder : Option Nat
  /-- Who received which delivery, in the order in which they were received. -/
  received : List (Nat × δ)
  /-- Whose job on which delivery is over, and how it came out. -/
  done : List (Nat × δ × JobManner)

namespace FanOut

variable {δ : Type} {capacity size : Nat} {stream : List (Except String δ)}
  {flow next : FanOut δ}

def opened (capacity size : Nat) (stream : List (Except String δ)) : FanOut δ where
  collector := .pulling stream
  pool := .ofSize size (.ofCapacity capacity)
  holder := none
  received := []
  done := []

inductive Step (flow : FanOut δ) : FanOut δ → Prop where
  | collected {collector : Collector δ} {queue : TaskQueue δ}
      (taken : flow.collector.step flow.pool.queue = some (collector, queue)) :
      Step flow { flow with collector, pool := { flow.pool with queue } }
  /-- A free worker takes hold of the receiving end. -/
  | entered {worker : Nat} (free : flow.pool.workers[worker]? = some .free)
      (unheld : flow.holder = none) : Step flow { flow with holder := some worker }
  /-- The one who has hold of it takes a task and lets go. -/
  | received {worker : Nat} {task : δ} {rest : TaskQueue δ} (holds : flow.holder = some worker)
      (turn : flow.pool.turn = .take task rest) :
      Step flow
        { flow with
          pool := flow.pool.receive worker
          holder := none
          received := flow.received ++ [(worker, task)] }
  | left {worker : Nat} (holds : flow.holder = some worker) (turn : flow.pool.turn = .leave) :
      Step flow { flow with pool := flow.pool.receive worker, holder := none }

/-- How a job comes out: it returns or panics, or it kills its worker. -/
inductive JobStep (flow : FanOut δ) : FanOut δ → Prop where
  | completed {worker : Nat} {task : δ} (busy : flow.pool.workers[worker]? = some (.busy task))
      (manner : JobManner) (survived : manner ≠ .kills) :
      JobStep flow
        { flow with
          pool := flow.pool.complete worker
          done := flow.done ++ [(worker, task, manner)] }
  | killed {worker : Nat} {task : δ} (busy : flow.pool.workers[worker]? = some (.busy task)) :
      JobStep flow
        { flow with
          pool := flow.pool.kill worker
          done := flow.done ++ [(worker, task, .kills)] }

/-- The moments of a subscription under any schedule. -/
inductive Reachable (capacity size : Nat) (stream : List (Except String δ)) : FanOut δ → Prop where
  | opened : Reachable capacity size stream (opened capacity size stream)
  | step {flow next : FanOut δ} (earlier : Reachable capacity size stream flow)
      (step : Step flow next) : Reachable capacity size stream next
  | job {flow next : FanOut δ} (earlier : Reachable capacity size stream flow)
      (step : JobStep flow next) : Reachable capacity size stream next

/-- What the collector has put into the queue so far. -/
def forwarded (flow : FanOut δ) : List δ := flow.received.map Prod.snd ++ flow.pool.queue.items

def ofWorker {β : Type} (worker : Nat) (account : List (Nat × β)) : List β :=
  account.filterMap fun entry => if entry.1 = worker then some entry.2 else none

def receivedBy (flow : FanOut δ) (worker : Nat) : List δ := ofWorker worker flow.received

def doneBy (flow : FanOut δ) (worker : Nat) : List δ := (ofWorker worker flow.done).map Prod.fst

/-- The delivery on which a worker's job is running, if one is. -/
def runningAt (flow : FanOut δ) (worker : Nat) : List δ :=
  match flow.pool.workers[worker]? with
  | some activity => activity.running
  | none => []

/-- How many workers were killed by their jobs. -/
def losses (flow : FanOut δ) : Nat := flow.done.countP fun job => decide (job.2.2 = .kills)

/-! ## The workers -/

/-- What holds of the workers at every moment: none of them was sent away, the queue is
abandoned when all are gone, and whoever has hold of the receiving end is free. -/
structure Staffed (size : Nat) (flow : FanOut δ) : Prop where
  unstopped : flow.pool.stopping = false
  staffed : flow.pool.workers.length = max size 1
  abandoned : flow.pool.queue.abandoned = flow.pool.deserted
  held : ∀ worker, flow.holder = some worker → flow.pool.workers[worker]? = some .free

theorem staffed_opened : Staffed size (opened capacity size stream) where
  unstopped := rfl
  staffed := by simp [opened, WorkerPool.ofSize, WorkerPool.sizeFor]
  abandoned := by
    have hired : ¬ WorkerPool.sizeFor size = 0 := by
      simp only [WorkerPool.sizeFor]
      omega
    simp [opened, WorkerPool.ofSize, TaskQueue.ofCapacity, WorkerPool.deserted, hired,
      Worker.departed]
  held := nofun

theorem staffed_assign (staffed : Staffed size flow) {worker : Nat} {active : Worker δ}
    (present : flow.pool.workers[worker]? = some active) (working : active.departed = false)
    (activity : Worker δ) {queue : TaskQueue δ}
    (same : queue.abandoned = flow.pool.queue.abandoned) {holder : Option Nat}
    (others : ∀ other, holder = some other → flow.holder = some other ∧ other ≠ worker)
    (collector : Collector δ) (received : List (Nat × δ)) (done : List (Nat × δ × JobManner)) :
    Staffed size
      ⟨collector, WorkerPool.assign { flow.pool with queue } worker activity, holder, received,
        done⟩ where
  unstopped := staffed.unstopped
  staffed := by simpa using staffed.staffed
  abandoned := by
    refine WorkerPool.abandoned_assign activity present working ?_
    exact same.trans staffed.abandoned
  held other holds := by
    obtain ⟨held, different⟩ := others other holds
    simpa [List.getElem?_set_ne (Ne.symm different)] using staffed.held other held

theorem staffed_step (staffed : Staffed size flow) (step : Step flow next) :
    Staffed size next := by
  cases step with
  | collected taken =>
      refine ⟨staffed.unstopped, staffed.staffed, ?_, staffed.held⟩
      rcases Collector.step_cases taken with ⟨_, _, -, -, rfl⟩ | ⟨_, _, -, -, -, -, rfl⟩ |
        ⟨_, -, -, -, rfl⟩ | ⟨_, _, -, -, -, rfl⟩ <;> exact staffed.abandoned
  | entered free unheld =>
      refine ⟨staffed.unstopped, staffed.staffed, staffed.abandoned, fun worker holds => ?_⟩
      cases holds
      exact free
  | received holds turn =>
      have free := staffed.held _ holds
      obtain ⟨-, rest⟩ := WorkerPool.of_turn_take staffed.unstopped turn
      rw [WorkerPool.receive_of_take free turn]
      refine staffed_assign staffed free rfl _ (by rw [rest]) ?_ _ _ _
      intro other holds
      cases holds
  | left holds turn =>
      have free := staffed.held _ holds
      rw [WorkerPool.receive_of_leave free turn]
      refine staffed_assign staffed free rfl _ rfl ?_ _ _ _
      intro other holds
      cases holds

/-- Whoever has hold of the receiving end has no job. -/
theorem holder_idle (staffed : Staffed size flow) {worker other : Nat} {task : δ}
    (busy : flow.pool.workers[worker]? = some (.busy task)) (holds : flow.holder = some other) :
    flow.holder = some other ∧ other ≠ worker := by
  refine ⟨holds, ?_⟩
  rintro rfl
  have free := staffed.held other holds
  rw [busy] at free
  cases free

theorem staffed_job (staffed : Staffed size flow) (step : JobStep flow next) :
    Staffed size next := by
  cases step with
  | completed busy manner survived =>
      rw [WorkerPool.complete_of_busy busy]
      exact staffed_assign staffed busy rfl _ rfl (fun _ => holder_idle staffed busy) _ _ _
  | killed busy =>
      rw [WorkerPool.kill_of_busy busy]
      exact staffed_assign staffed busy rfl _ rfl (fun _ => holder_idle staffed busy) _ _ _

/-! ## The queue -/

/-- What holds of the queue at every moment: it is never overfull, it is finished when the
collector has ended, and nobody leaves before that and before it is empty. -/
structure Buffered (capacity : Nat) (flow : FanOut δ) : Prop where
  bounded : flow.pool.queue.capacity = capacity
  buffered : flow.pool.queue.items.length ≤ capacity
  finished : flow.pool.queue.finished = flow.collector.outcome?.isSome
  left : ∀ worker : Nat, flow.pool.workers[worker]? = some .gone →
    flow.pool.queue.finished = true ∧ flow.pool.queue.items = []

theorem buffered_opened : Buffered capacity (opened capacity size stream) where
  bounded := rfl
  buffered := Nat.zero_le capacity
  finished := rfl
  left worker gone := by
    have free := List.eq_of_mem_replicate (List.mem_of_getElem? gone)
    cases free

theorem gone_before {workers : List (Worker δ)} {worker other : Nat} (activity : Worker δ)
    (stays : activity ≠ .gone) (gone : (workers.set worker activity)[other]? = some .gone) :
    workers[other]? = some .gone := by
  rw [List.getElem?_set] at gone
  split at gone
  · split at gone
    · exact absurd (Option.some.inj gone) stays
    · cases gone
  · exact gone

theorem buffered_collected (buffered : Buffered capacity flow) {collector : Collector δ}
    {queue : TaskQueue δ}
    (taken : flow.collector.step flow.pool.queue = some (collector, queue)) :
    Buffered capacity { flow with collector, pool := { flow.pool with queue } } := by
  obtain ⟨bounded, fits, finished, left⟩ := buffered
  rcases Collector.step_cases taken with ⟨delivery, rest, before, rfl, rfl⟩ |
    ⟨delivery, rest, before, -, room, rfl, rfl⟩ | ⟨rest, before, -, rfl, rfl⟩ |
    ⟨delivery, rest, before, -, rfl, rfl⟩
  · exact ⟨bounded, fits, by rw [finished, before]; rfl, left⟩
  · have unfinished : flow.pool.queue.finished = false := by rw [finished, before]; rfl
    refine ⟨bounded, ?_, unfinished, fun worker gone => ?_⟩
    · simp only [List.length_append, List.length_singleton]
      omega
    · rw [unfinished] at left
      cases (left worker gone).1
  · exact ⟨bounded, fits, rfl, fun worker gone => ⟨rfl, (left worker gone).2⟩⟩
  · exact ⟨bounded, fits, rfl, fun worker gone => ⟨rfl, (left worker gone).2⟩⟩

theorem buffered_step (staffed : Staffed size flow) (buffered : Buffered capacity flow)
    (step : Step flow next) : Buffered capacity next := by
  cases step with
  | collected taken => exact buffered_collected buffered taken
  | entered free unheld =>
      exact ⟨buffered.bounded, buffered.buffered, buffered.finished, buffered.left⟩
  | received holds turn =>
      obtain ⟨bounded, fits, finished, left⟩ := buffered
      obtain ⟨items, rest⟩ := WorkerPool.of_turn_take staffed.unstopped turn
      rw [WorkerPool.receive_of_take (staffed.held _ holds) turn]
      refine ⟨?_, ?_, ?_, fun worker gone => ?_⟩
      · simp only [WorkerPool.capacity_assign]
        rw [rest]
        exact bounded
      · simp only [WorkerPool.items_assign]
        rw [items] at fits
        exact Nat.le_of_succ_le fits
      · simp only [WorkerPool.finished_assign]
        rw [rest]
        exact finished
      · have empty := (left worker (gone_before (.busy _) nofun gone)).2
        rw [items] at empty
        cases empty
  | left holds turn =>
      obtain ⟨empty, ended⟩ := WorkerPool.of_turn_leave staffed.unstopped turn
      rw [WorkerPool.receive_of_leave (staffed.held _ holds) turn]
      refine ⟨by simpa using buffered.bounded, by simpa using buffered.buffered,
        by simpa using buffered.finished, fun worker gone => ?_⟩
      simp [empty, ended]

theorem buffered_job (buffered : Buffered capacity flow) (step : JobStep flow next) :
    Buffered capacity next := by
  obtain ⟨bounded, fits, finished, left⟩ := buffered
  cases step with
  | completed busy manner survived =>
      rw [WorkerPool.complete_of_busy busy]
      refine ⟨by simpa using bounded, by simpa using fits, by simpa using finished, ?_⟩
      intro worker gone
      simpa using left worker (gone_before .free nofun gone)
  | killed busy =>
      rw [WorkerPool.kill_of_busy busy]
      refine ⟨by simpa using bounded, by simpa using fits, by simpa using finished, ?_⟩
      intro worker gone
      simpa using left worker (gone_before .dead nofun gone)

/-! ## Who did what -/

/-- What holds of the accounts at every moment: what a worker received he has done, or is
doing now; and the workers who are dead are those whose jobs killed them. -/
structure Accounted (size : Nat) (flow : FanOut δ) : Prop where
  known : ∀ receipt ∈ flow.received, receipt.1 < max size 1
  balanced : ∀ worker, flow.receivedBy worker = flow.doneBy worker ++ flow.runningAt worker
  killed : ∀ worker, flow.pool.workers[worker]? = some .dead →
    ∃ task, (worker, task, JobManner.kills) ∈ flow.done
  losses : flow.losses = flow.pool.workers.countP Worker.isDead

theorem accounted_opened : Accounted size (opened capacity size stream) where
  known := nofun
  balanced worker := by
    have idle : (opened capacity size stream).runningAt worker = [] := by
      simp only [runningAt]
      split
      · rename_i activity present
        have free : activity = .free := List.eq_of_mem_replicate (List.mem_of_getElem? present)
        rw [free]
        rfl
      · rfl
    rw [idle]
    rfl
  killed worker dead := by
    have free := List.eq_of_mem_replicate (List.mem_of_getElem? dead)
    cases free
  losses := by
    simp [losses, opened, WorkerPool.ofSize, List.countP_replicate, Worker.isDead]

@[simp] theorem ofWorker_append_self {β : Type} (worker : Nat) (account : List (Nat × β))
    (entry : β) : ofWorker worker (account ++ [(worker, entry)]) =
      ofWorker worker account ++ [entry] := by
  simp [ofWorker]

theorem ofWorker_append_other {β : Type} {worker other : Nat} (different : other ≠ worker)
    (account : List (Nat × β)) (entry : β) :
    ofWorker other (account ++ [(worker, entry)]) = ofWorker other account := by
  simp [ofWorker, Ne.symm different]

theorem runningAt_of_present {worker : Nat} {activity : Worker δ}
    (present : flow.pool.workers[worker]? = some activity) :
    flow.runningAt worker = activity.running := by
  simp only [runningAt, present]

theorem runningAt_of_set {worker other : Nat} {activity : Worker δ}
    (turned : next.pool.workers = flow.pool.workers.set worker activity)
    (different : other ≠ worker) : next.runningAt other = flow.runningAt other := by
  simp only [runningAt, turned, List.getElem?_set_ne (Ne.symm different)]

theorem countP_isDead_set {worker : Nat} {active : Worker δ} {workers : List (Worker δ)}
    (present : workers[worker]? = some active) (alive : active.isDead = false)
    (activity : Worker δ) :
    (workers.set worker activity).countP Worker.isDead =
      workers.countP Worker.isDead + activity.isDead.toNat := by
  obtain ⟨inside, same⟩ := List.getElem?_eq_some_iff.mp present
  rw [List.countP_set inside, same, alive]
  cases activity.isDead <;> simp

/-- The accounts stay balanced when a worker turns to something and only his own accounts
are changed. -/
theorem accounted_assign (accounted : Accounted size flow) {worker : Nat} {active : Worker δ}
    (present : flow.pool.workers[worker]? = some active) (alive : active.isDead = false)
    (activity : Worker δ) (turned : next.pool.workers = flow.pool.workers.set worker activity)
    (known : ∀ receipt ∈ next.received, receipt.1 < max size 1)
    (balanced : next.receivedBy worker = next.doneBy worker ++ activity.running)
    (others : ∀ other, other ≠ worker →
      next.receivedBy other = flow.receivedBy other ∧ next.doneBy other = flow.doneBy other)
    (grown : ∀ job ∈ flow.done, job ∈ next.done)
    (killed : activity = .dead → ∃ task, (worker, task, JobManner.kills) ∈ next.done)
    (losses : next.losses = flow.losses + activity.isDead.toNat) : Accounted size next := by
  have inside : worker < flow.pool.workers.length := (List.getElem?_eq_some_iff.mp present).1
  have here : next.pool.workers[worker]? = some activity := by
    rw [turned]
    exact List.getElem?_set_self inside
  refine ⟨known, fun other => ?_, fun other dead => ?_, ?_⟩
  · by_cases same : other = worker
    · rw [same, runningAt_of_present here]
      exact balanced
    · obtain ⟨received, done⟩ := others other same
      rw [received, done, runningAt_of_set turned same]
      exact accounted.balanced other
  · by_cases same : other = worker
    · rw [same, here] at dead
      rw [same]
      exact killed (Option.some.inj dead)
    · rw [turned, List.getElem?_set_ne (Ne.symm same)] at dead
      obtain ⟨task, member⟩ := accounted.killed other dead
      exact ⟨task, grown _ member⟩
  · rw [losses, turned, countP_isDead_set present alive, accounted.losses]

theorem accounted_step (staffed : Staffed size flow) (accounted : Accounted size flow)
    (step : Step flow next) : Accounted size next := by
  cases step with
  | collected taken =>
      exact ⟨accounted.known, accounted.balanced, accounted.killed, accounted.losses⟩
  | entered free unheld =>
      exact ⟨accounted.known, accounted.balanced, accounted.killed, accounted.losses⟩
  | @received worker task rest holds turn =>
      have free := staffed.held worker holds
      have inside : worker < flow.pool.workers.length := (List.getElem?_eq_some_iff.mp free).1
      rw [WorkerPool.receive_of_take free turn]
      refine accounted_assign accounted free rfl (.busy task) rfl ?_ ?_ ?_ (fun _ old => old)
        nofun rfl
      · intro receipt member
        rcases List.mem_append.mp member with old | new
        · exact accounted.known receipt old
        · rw [List.mem_singleton.mp new, ← staffed.staffed]
          exact inside
      · have balance := accounted.balanced worker
        rw [runningAt_of_present free] at balance
        simp only [receivedBy, doneBy, ofWorker_append_self, Worker.running] at balance ⊢
        rw [balance, List.append_nil]
      · intro other different
        exact ⟨ofWorker_append_other different _ _, rfl⟩
  | @left worker holds turn =>
      have free := staffed.held worker holds
      have balance := accounted.balanced worker
      rw [runningAt_of_present free] at balance
      rw [WorkerPool.receive_of_leave free turn]
      exact accounted_assign accounted free rfl .gone rfl accounted.known balance
        (fun _ _ => ⟨rfl, rfl⟩) (fun _ old => old) nofun rfl

/-- A worker whose job has come out is free again, unless it killed him. -/
theorem accounted_ended (accounted : Accounted size flow) {worker : Nat} {task : δ}
    (busy : flow.pool.workers[worker]? = some (.busy task)) {activity : Worker δ}
    (idle : activity.running = []) {manner : JobManner}
    (dies : activity.isDead = decide (manner = .kills)) :
    Accounted size
      { flow with
        pool := flow.pool.assign worker activity
        done := flow.done ++ [(worker, task, manner)] } := by
  have balance := accounted.balanced worker
  rw [runningAt_of_present busy] at balance
  refine accounted_assign accounted busy rfl activity rfl accounted.known ?_
    (fun other different => ⟨rfl, ?_⟩) (fun _ old => List.mem_append_left _ old)
    (fun dead => ⟨task, ?_⟩) ?_
  · simp only [receivedBy, doneBy, ofWorker_append_self, List.map_append] at balance ⊢
    rw [balance, idle]
    simp [Worker.running]
  · simp only [doneBy, ofWorker_append_other different]
  · rw [dead] at dies
    rw [← of_decide_eq_true dies.symm]
    exact List.mem_append_right _ (List.mem_singleton_self _)
  · simp only [losses, List.countP_append, List.countP_singleton, dies]
    cases decide (manner = .kills) <;> rfl

theorem accounted_job (accounted : Accounted size flow) (step : JobStep flow next) :
    Accounted size next := by
  cases step with
  | completed busy manner survived =>
      rw [WorkerPool.complete_of_busy busy]
      exact accounted_ended accounted busy rfl (decide_eq_false survived).symm
  | killed busy =>
      rw [WorkerPool.kill_of_busy busy]
      exact accounted_ended accounted busy rfl rfl

/-! ## The stream -/

/-- How far the stream has come: nothing before its first error is lost on the way, unless all
workers are dead. -/
inductive Progress (stream : List (Except String δ)) (flow : FanOut δ) : Prop where
  | pulling {rest : List (Except String δ)} (collector : flow.collector = .pulling rest)
      (whole : flow.forwarded ++ undisturbed rest = undisturbed stream)
      (same : verdict rest = verdict stream)
  | holding {delivery : δ} {rest : List (Except String δ)}
      (collector : flow.collector = .holding delivery rest)
      (whole : flow.forwarded ++ delivery :: undisturbed rest = undisturbed stream)
      (same : verdict rest = verdict stream)
  | ended (collector : flow.collector = .ended (verdict stream))
      (whole : flow.forwarded = undisturbed stream)
  | refused {lost : List δ} (collector : flow.collector = .ended (.error Collector.queueClosed))
      (whole : flow.forwarded ++ lost = undisturbed stream)
      (dead : ∀ worker ∈ flow.pool.workers, worker.isDead = true)

theorem progress_of_same (progress : Progress stream flow)
    (collector : next.collector = flow.collector) (forwarded : next.forwarded = flow.forwarded)
    (dead : (∀ worker ∈ flow.pool.workers, worker.isDead = true) →
      ∀ worker ∈ next.pool.workers, worker.isDead = true) : Progress stream next := by
  cases progress with
  | pulling pulls whole same =>
      exact .pulling (collector.trans pulls) (by rw [forwarded, whole]) same
  | holding holds whole same =>
      exact .holding (collector.trans holds) (by rw [forwarded, whole]) same
  | ended ended whole => exact .ended (collector.trans ended) (forwarded.trans whole)
  | refused refused whole all =>
      exact .refused (collector.trans refused) (by rw [forwarded, whole]) (dead all)

/-- A collector that finds no worker left finds all of them dead: nobody leaves before it has
ended. -/
theorem dead_of_abandoned (staffed : Staffed size flow) (buffered : Buffered capacity flow)
    (abandoned : flow.pool.queue.abandoned = true) (running : flow.collector.outcome? = none) :
    ∀ worker ∈ flow.pool.workers, worker.isDead = true := by
  intro worker member
  have deserted : flow.pool.deserted = true := staffed.abandoned.symm.trans abandoned
  have departed : worker.departed = true := List.all_eq_true.mp deserted worker member
  cases worker with
  | free | busy task => cases departed
  | dead => rfl
  | gone =>
      obtain ⟨index, present⟩ := List.mem_iff_getElem?.mp member
      have finished := (buffered.left index present).1
      rw [buffered.finished, running] at finished
      cases finished

theorem progress_collected (staffed : Staffed size flow) (buffered : Buffered capacity flow)
    (progress : Progress stream flow) {collector : Collector δ} {queue : TaskQueue δ}
    (taken : flow.collector.step flow.pool.queue = some (collector, queue)) :
    Progress stream { flow with collector, pool := { flow.pool with queue } } := by
  rcases Collector.step_cases taken with ⟨delivery, rest, before, rfl, rfl⟩ |
    ⟨delivery, rest, before, -, -, rfl, rfl⟩ | ⟨rest, before, nothing, rfl, rfl⟩ |
    ⟨delivery, rest, before, abandoned, rfl, rfl⟩
  · cases progress with
    | pulling pulls whole same =>
        cases before.symm.trans pulls
        exact .holding rfl whole same
    | holding state | ended state | refused state => cases before.symm.trans state
  · cases progress with
    | holding holds whole same =>
        cases before.symm.trans holds
        refine .pulling rfl ?_ same
        simpa [forwarded] using whole
    | pulling state | ended state | refused state => cases before.symm.trans state
  · cases progress with
    | pulling pulls whole same =>
        cases before.symm.trans pulls
        rw [nothing, List.append_nil] at whole
        exact .ended (by rw [same]) whole
    | holding state | ended state | refused state => cases before.symm.trans state
  · cases progress with
    | holding holds whole same =>
        cases before.symm.trans holds
        have running : flow.collector.outcome? = none := by
          rw [before]
          rfl
        have dead := dead_of_abandoned staffed buffered abandoned running
        exact .refused rfl whole dead
    | pulling state | ended state | refused state => cases before.symm.trans state

theorem dead_set {workers : List (Worker δ)} {worker : Nat} {active activity : Worker δ}
    (present : workers[worker]? = some active) (alive : active.isDead = false)
    (dead : ∀ each ∈ workers, each.isDead = true) :
    ∀ each ∈ workers.set worker activity, each.isDead = true := by
  have departed := dead active (List.mem_of_getElem? present)
  rw [alive] at departed
  cases departed

theorem progress_step (staffed : Staffed size flow) (buffered : Buffered capacity flow)
    (progress : Progress stream flow) (step : Step flow next) : Progress stream next := by
  cases step with
  | collected taken => exact progress_collected staffed buffered progress taken
  | entered free unheld => exact progress_of_same progress rfl rfl id
  | received holds turn =>
      have free := staffed.held _ holds
      obtain ⟨items, -⟩ := WorkerPool.of_turn_take staffed.unstopped turn
      rw [WorkerPool.receive_of_take free turn]
      refine progress_of_same progress rfl ?_ (dead_set free rfl)
      simp [forwarded, items]
  | left holds turn =>
      have free := staffed.held _ holds
      rw [WorkerPool.receive_of_leave free turn]
      refine progress_of_same progress rfl ?_ (dead_set free rfl)
      simp [forwarded]

theorem progress_job (progress : Progress stream flow) (step : JobStep flow next) :
    Progress stream next := by
  cases step with
  | completed busy manner survived =>
      rw [WorkerPool.complete_of_busy busy]
      exact progress_of_same progress rfl (by simp [forwarded]) (dead_set busy rfl)
  | killed busy =>
      rw [WorkerPool.kill_of_busy busy]
      exact progress_of_same progress rfl (by simp [forwarded]) (dead_set busy rfl)

/-! ## Every schedule -/

structure Kept (capacity size : Nat) (stream : List (Except String δ)) (flow : FanOut δ) :
    Prop where
  staffed : Staffed size flow
  buffered : Buffered capacity flow
  accounted : Accounted size flow
  progress : Progress stream flow

theorem kept_opened : Kept capacity size stream (opened capacity size stream) where
  staffed := staffed_opened
  buffered := buffered_opened
  accounted := accounted_opened
  progress := .pulling rfl rfl rfl

theorem kept_step (kept : Kept capacity size stream flow) (step : Step flow next) :
    Kept capacity size stream next where
  staffed := staffed_step kept.staffed step
  buffered := buffered_step kept.staffed kept.buffered step
  accounted := accounted_step kept.staffed kept.accounted step
  progress := progress_step kept.staffed kept.buffered kept.progress step

theorem kept_job (kept : Kept capacity size stream flow) (step : JobStep flow next) :
    Kept capacity size stream next where
  staffed := staffed_job kept.staffed step
  buffered := buffered_job kept.buffered step
  accounted := accounted_job kept.accounted step
  progress := progress_job kept.progress step

theorem reachable_kept (reachable : Reachable capacity size stream flow) :
    Kept capacity size stream flow := by
  induction reachable with
  | opened => exact kept_opened
  | step earlier step kept => exact kept_step kept step
  | job earlier step kept => exact kept_job kept step

/-- Nobody can do anything, and no job is running. -/
def AtRest (flow : FanOut δ) : Prop := (∀ next, ¬ Step flow next) ∧ flow.pool.busyCount = 0

theorem runningAt_atRest (rest : flow.AtRest) (worker : Nat) : flow.runningAt worker = [] := by
  cases present : flow.pool.workers[worker]? with
  | none => simp only [runningAt, present]
  | some activity =>
      rw [runningAt_of_present present]
      cases activity with
      | busy task =>
          have idle := List.countP_eq_zero.mp rest.2 _ (List.mem_of_getElem? present)
          exact absurd rfl idle
      | free | gone | dead => rfl

section AtRest

variable (kept : Kept capacity size stream flow) (rest : flow.AtRest)

include kept rest

theorem collector_atRest :
    flow.collector.outcome?.isSome = true ∨
      flow.pool.queue.abandoned = false ∧ capacity ≤ flow.pool.queue.items.length := by
  have stuck : flow.collector.step flow.pool.queue = none := by
    cases taken : flow.collector.step flow.pool.queue with
    | none => rfl
    | some after => exact absurd (.collected taken) (rest.1 _)
  refine ((Collector.step_eq_none_iff _ _).mp stuck).imp_right ?_
  rintro ⟨delivery, stream, -, kept', full⟩
  rw [kept.buffered.bounded] at full
  exact ⟨kept', full⟩

/-- At rest nobody has hold of the receiving end: there would be a task to take, or a finished
queue to leave, or an empty queue with a collector that could go on. -/
theorem unheld_atRest (room : 0 < capacity) : flow.holder = none := by
  cases holds : flow.holder with
  | none => rfl
  | some worker =>
      exfalso
      rcases WorkerPool.turn_cases kept.staffed.unstopped with ⟨task, later, -, takes⟩ |
        ⟨-, -, leaves⟩ | ⟨empty, unfinished, -⟩
      · exact rest.1 _ (.received holds takes)
      · exact rest.1 _ (.left holds leaves)
      · rcases collector_atRest kept rest with ended | ⟨-, full⟩
        · rw [kept.buffered.finished, ended] at unfinished
          cases unfinished
        · rw [empty] at full
          exact absurd room (Nat.not_lt.mpr full)

/-- At rest all workers have departed: a free one could take hold of the receiving end. -/
theorem departed_atRest (room : 0 < capacity) :
    ∀ worker ∈ flow.pool.workers, worker.departed = true := by
  have unheld := unheld_atRest kept rest room
  intro worker member
  cases worker with
  | gone | dead => rfl
  | free =>
      obtain ⟨index, present⟩ := List.mem_iff_getElem?.mp member
      exact absurd (.entered present unheld) (rest.1 _)
  | busy task =>
      have idle := List.countP_eq_zero.mp rest.2 _ member
      exact absurd rfl idle

theorem ended_atRest (room : 0 < capacity) : flow.collector.outcome?.isSome = true := by
  rcases collector_atRest kept rest with ended | ⟨present, -⟩
  · exact ended
  · have deserted := List.all_eq_true.mpr (departed_atRest kept rest room)
    rw [kept.staffed.abandoned] at present
    exact absurd deserted (by rw [← WorkerPool.deserted, present]; simp)

end AtRest

theorem exists_alive (kept : Kept capacity size stream flow) (survivor : flow.losses < max size 1) :
    ∃ worker ∈ flow.pool.workers, worker.isDead = false := by
  by_cases dead : ∀ worker ∈ flow.pool.workers, worker.isDead = true
  · have all := List.countP_eq_length.mpr dead
    rw [← kept.accounted.losses, kept.staffed.staffed] at all
    omega
  · simpa using dead

/-- A collector whose workers do not all die ends with its stream, when all that precedes the
first error is forwarded. -/
theorem ended_of_survivor (kept : Kept capacity size stream flow)
    (survivor : flow.losses < max size 1) {outcome : Outcome}
    (ended : flow.collector.outcome? = some outcome) :
    outcome = verdict stream ∧ flow.forwarded = undisturbed stream := by
  cases kept.progress with
  | pulling collector whole same | holding collector whole same =>
      rw [collector] at ended
      cases ended
  | ended collector whole =>
      rw [collector] at ended
      cases ended
      exact ⟨rfl, whole⟩
  | refused collector whole dead =>
      obtain ⟨worker, member, alive⟩ := exists_alive kept survivor
      rw [dead worker member] at alive
      cases alive

/-- What a subscription keeps to at every moment. -/
structure Faithful (capacity size : Nat) (stream : List (Except String δ)) (flow : FanOut δ) :
    Prop where
  /-- What was received are the first deliveries, in order, and none behind an error. -/
  inOrder : flow.received.map Prod.snd <+: undisturbed stream
  /-- Nothing else is even put into the queue. -/
  unmixed : flow.forwarded <+: undisturbed stream
  /-- What a worker received he is done with, once each, or is doing now. -/
  once : ∀ worker, flow.receivedBy worker = flow.doneBy worker ++ flow.runningAt worker
  known : ∀ receipt ∈ flow.received, receipt.1 < max size 1
  jobs : flow.pool.busyCount ≤ max size 1
  buffered : flow.pool.queue.items.length ≤ capacity
  /-- Nobody leaves before the queue is finished and empty. -/
  departures : ∀ worker : Nat, flow.pool.workers[worker]? = some .gone →
    flow.pool.queue.finished = true ∧ flow.pool.queue.items = []
  /-- Nobody dies but by a job that kills him. -/
  deaths : ∀ worker : Nat, flow.pool.workers[worker]? = some .dead →
    ∃ task, (worker, task, JobManner.kills) ∈ flow.done
  /-- The collector ends as its stream does. -/
  result : flow.losses < max size 1 → ∀ outcome, flow.collector.outcome? = some outcome →
    outcome = verdict stream ∧ flow.forwarded = undisturbed stream

/-- What a subscription has come to when it is at rest. -/
structure Concluded (size : Nat) (stream : List (Except String δ)) (flow : FanOut δ) : Prop where
  ended : flow.collector.outcome?.isSome = true
  departed : ∀ worker ∈ flow.pool.workers, worker.departed = true
  /-- Every job that was begun is over. -/
  settled : ∀ worker, flow.receivedBy worker = flow.doneBy worker
  drained : flow.losses < max size 1 →
    flow.pool.queue.items = [] ∧ flow.received.map Prod.snd = undisturbed stream

theorem forwarded_undisturbed (kept : Kept capacity size stream flow) :
    flow.forwarded <+: undisturbed stream := by
  cases kept.progress with
  | pulling collector whole same | holding collector whole same | refused collector whole dead =>
      exact ⟨_, whole⟩
  | ended collector whole => exact ⟨[], by rw [whole, List.append_nil]⟩

theorem faithful_of_kept (kept : Kept capacity size stream flow) :
    Faithful capacity size stream flow where
  inOrder := (List.prefix_append _ _).trans (forwarded_undisturbed kept)
  unmixed := forwarded_undisturbed kept
  once := kept.accounted.balanced
  known := kept.accounted.known
  jobs := by
    rw [← kept.staffed.staffed]
    exact List.countP_le_length
  buffered := kept.buffered.buffered
  departures := kept.buffered.left
  deaths := kept.accounted.killed
  result survivor _ ended := ended_of_survivor kept survivor ended

theorem concluded_of_atRest (room : 0 < capacity) (kept : Kept capacity size stream flow)
    (rest : flow.AtRest) : Concluded size stream flow := by
  have departed := departed_atRest kept rest room
  have ended := ended_atRest kept rest room
  refine ⟨ended, departed, fun worker => ?_, fun survivor => ?_⟩
  · rw [kept.accounted.balanced worker, runningAt_atRest rest worker, List.append_nil]
  · obtain ⟨worker, member, alive⟩ := exists_alive kept survivor
    obtain ⟨outcome, finished⟩ := Option.isSome_iff_exists.mp ended
    have empty : flow.pool.queue.items = [] := by
      obtain ⟨index, present⟩ := List.mem_iff_getElem?.mp member
      have away := departed worker member
      cases worker with
      | free | busy task => cases away
      | dead => cases alive
      | gone => exact (kept.buffered.left index present).2
    refine ⟨empty, ?_⟩
    have whole := (ended_of_survivor kept survivor finished).2
    rwa [forwarded, empty, List.append_nil] at whole

/-- **Every delivery is received once and in order**, under every schedule and whatever comes
of the jobs; and a subscription comes to rest only when its collector has ended and all workers
have departed, with nothing left in the queue as long as one worker was not killed. -/
theorem each_delivery_once (room : 0 < capacity) (reachable : Reachable capacity size stream flow) :
    Faithful capacity size stream flow ∧ (flow.AtRest → Concluded size stream flow) := by
  have kept := reachable_kept reachable
  exact ⟨faithful_of_kept kept, concluded_of_atRest room kept⟩

/-! ## Poles -/

/-- Everybody is away, and the collector has ended. -/
theorem atRest_of_departed (ended : flow.collector.outcome?.isSome = true)
    (unheld : flow.holder = none)
    (departed : ∀ worker ∈ flow.pool.workers, worker.departed = true) : flow.AtRest := by
  refine ⟨fun next step => ?_, List.countP_eq_zero.mpr fun worker member => ?_⟩
  · cases step with
    | collected taken =>
        rw [(Collector.step_eq_none_iff _ _).mpr (.inl ended)] at taken
        cases taken
    | entered free _ => cases departed _ (List.mem_of_getElem? free)
    | received holds _ | left holds _ =>
        rw [unheld] at holds
        cases holds
  · have away := departed worker member
    cases worker with
    | free | busy task => cases away
    | gone | dead => simp

/-- A delivery before an error, a pool that was asked for no worker, and a job that panics. -/
theorem panicking_job_once :
    ∃ flow : FanOut Nat, 0 < 1 ∧ Reachable 1 0 [.ok 7, .error "gone", .ok 8] flow ∧
      flow.AtRest ∧ flow.done = [(0, 7, .panics)] ∧
      Faithful 1 0 [.ok 7, .error "gone", .ok 8] flow ∧
      (flow.AtRest → Concluded 0 [.ok 7, .error "gone", .ok 8] flow) := by
  have start : Reachable 1 0 [.ok 7, .error "gone", .ok 8] _ := .opened
  have pulled := Reachable.step start (.collected rfl)
  have offered := Reachable.step pulled (.collected rfl)
  have entered := Reachable.step offered (@Step.entered _ _ 0 rfl rfl)
  have begun := Reachable.step entered (.received rfl rfl)
  have panicked := Reachable.job begun (@JobStep.completed _ _ 0 _ rfl .panics nofun)
  have failed := Reachable.step panicked (.collected rfl)
  have back := Reachable.step failed (@Step.entered _ _ 0 rfl rfl)
  have away := Reachable.step back (.left rfl rfl)
  refine ⟨_, Nat.one_pos, away, atRest_of_departed rfl rfl ?_, rfl,
    each_delivery_once Nat.one_pos away⟩
  intro worker member
  cases List.mem_singleton.mp member
  rfl

/-- A job that kills the only worker takes the queue with him: the next delivery before the
first error is received by nobody, and the collector ends since its queue is abandoned. -/
theorem killed_worker_leaves :
    ∃ flow : FanOut Nat, Reachable 1 1 [.ok 7, .ok 8] flow ∧ flow.AtRest ∧
      undisturbed [.ok 7, .ok 8] = ([7, 8] : List Nat) ∧ flow.received = [(0, 7)] ∧
      flow.pool.workers = [.dead] ∧ flow.collector = .ended (.error Collector.queueClosed) := by
  have start : Reachable 1 1 [.ok 7, .ok 8] _ := .opened
  have pulled := Reachable.step start (.collected rfl)
  have offered := Reachable.step pulled (.collected rfl)
  have entered := Reachable.step offered (@Step.entered _ _ 0 rfl rfl)
  have begun := Reachable.step entered (.received rfl rfl)
  have killed := Reachable.job begun (@JobStep.killed _ _ 0 _ rfl)
  have next := Reachable.step killed (.collected rfl)
  have refused := Reachable.step next (.collected rfl)
  refine ⟨_, refused, atRest_of_departed rfl rfl ?_, rfl, rfl, rfl, rfl⟩
  intro worker member
  cases List.mem_singleton.mp member
  rfl

end FanOut

end Redelivery
