import Redelivery.Proofs.Delivery.Calls
import Redelivery.Proofs.Subscription.Pool
/-!
# Settling what was taken

A pool whose jobs are deliveries: a worker takes a message, processes it, and is free again
when the job is over. A delivery settles its message with its very last call and with no other,
also when the handler panics. The one exception is a decoder that panics: then nothing is
called, the worker is none the worse, and nobody learns of the message that he took.

`Shift` is a pool at work, with the messages that were taken and the jobs that are over. Every
job has services and a world of its own, so whatever other jobs do between two of its calls is
covered, and nothing is assumed of what the calls answer.

* `Delivery.settlesLast_of_course`: which courses of a delivery settle.
* `balanced_step`: what a step of a pool preserves.
* `settled_unless_decoder_panics`: what was taken is settled once, or being processed, or its
  decoder panicked.
* `panicking_decoder_unsettled`: a message that is taken and forgotten.
-/

namespace Redelivery

set_option autoImplicit false

/-! ## The calls that settle -/

def Call.settles : Call → Bool
  | acknowledged _ | rejected _ _ => true
  | handled _ | published _ _ => false

def Consumption.decoderPanics {α : Type} (consumption : Consumption α) (message : Message) :
    Bool :=
  match consumption.decode message.body with
  | .panicked _ => true
  | .done _ | .failed _ => false

namespace Delivery

variable {α : Type} {cls : MessageClass} {body : Octets} {count : Int} {calls : List Call}

/-- The last call settles the message, and no call before it does. -/
def SettlesLast (calls : List Call) : Prop :=
  ∃ earlier last, calls = earlier ++ [last] ∧ last.settles = true ∧
    ∀ call ∈ earlier, call.settles = false

theorem SettlesLast.single {last : Call} (settles : last.settles = true) : SettlesLast [last] :=
  ⟨[], last, rfl, settles, nofun⟩

theorem SettlesLast.after {call : Call} (settled : SettlesLast calls)
    (other : call.settles = false) : SettlesLast (call :: calls) := by
  obtain ⟨earlier, last, rfl, settles, others⟩ := settled
  refine ⟨call :: earlier, last, rfl, settles, ?_⟩
  intro each member
  rcases List.mem_cons.mp member with rfl | member
  · exact other
  · exact others each member

theorem countP_of_settlesLast (settled : SettlesLast calls) :
    calls.countP Call.settles = 1 := by
  obtain ⟨earlier, last, rfl, settles, others⟩ := settled
  have before : earlier.countP Call.settles = 0 := by
    apply List.countP_eq_zero.mpr
    intro call member
    simp [others call member]
  simp [List.countP_append, before, settles]

/-- Giving a message up settles it, whether or not junk took the copy. -/
theorem settlesLast_of_archival {disposition : Disposition} {result : Except Failure Disposition}
    (archival : Archival cls body disposition calls result) : SettlesLast calls := by
  cases archival with
  | disabled off answer => exact .single rfl
  | refused on failure answer => exact (SettlesLast.single rfl).after rfl
  | settled on => exact (SettlesLast.single rfl).after rfl
  | unsettled on failure => exact (SettlesLast.single rfl).after rfl

/-- What the calls and the end of a delivery are, by whether its decoder panics. -/
theorem settlesLast_of_course {attempt : Attempt α} {ending : Ending}
    (course : Course cls body count attempt calls ending) :
    ((∃ text, attempt = .panicked text) ∧ calls = [] ∧ ending = .panicked) ∨
      ((∀ text, attempt ≠ .panicked text) ∧ SettlesLast calls ∧
        ∃ result, ending = .returned result) := by
  cases course with
  | abandoned text => exact .inl ⟨⟨text, rfl⟩, rfl, rfl⟩
  | undecodable failure archival =>
      exact .inr ⟨nofun, settlesLast_of_archival archival, _, rfl⟩
  | acknowledged data | unacknowledged data failure =>
      exact .inr ⟨nofun, (SettlesLast.single rfl).after rfl, _, rfl⟩
  | retried data answer failed below | unrejected data answer failed below failure =>
      exact .inr ⟨nofun, (SettlesLast.single rfl).after rfl, _, rfl⟩
  | exhausted data answer failed reached archival =>
      exact .inr ⟨nofun, (settlesLast_of_archival archival).after rfl, _, rfl⟩

end Delivery

/-! ## A pool at work -/

/-- A job that is over: its message, the calls that were made for it, and how it ended. -/
structure Job where
  message : Message
  calls : List Call
  ending : Ending

namespace Job

variable {σ α : Type}

def run (services : Services σ α) (consumption : Consumption α) (message : Message)
    (world : σ) : Job :=
  let processed := Delivery.process services.recorded consumption message (world, [])
  ⟨message, processed.2.2, processed.1.ending⟩

/-- A job whose decoder panicked: no call was made, so the message is as it was delivered. -/
structure Forgotten (job : Job) : Prop where
  uncalled : job.calls = []
  panicked : job.ending = .panicked

/-- A job that settled its message, once and in the end. -/
structure Settled (job : Job) : Prop where
  last : Delivery.SettlesLast job.calls
  once : job.calls.countP Call.settles = 1
  returned : ∃ result, job.ending = .returned result

/-- A job settles its message unless the decoder panics. -/
theorem settled_or_forgotten (services : Services σ α) (consumption : Consumption α)
    (message : Message) (world : σ) :
    (consumption.decoderPanics message = false → (run services consumption message world).Settled) ∧
      (consumption.decoderPanics message = true →
        (run services consumption message world).Forgotten) := by
  obtain ⟨calls, ending, course, ends, recorded⟩ := Delivery.processTried_recorded services
    consumption.cls consumption.decode
    (consumption.counter.count message.headers message.redelivered) message world []
  have called : (run services consumption message world).calls = calls := recorded.log
  have ended : (run services consumption message world).ending = ending := by
    rw [← ends, ← recorded.report]
    rfl
  rcases Delivery.settlesLast_of_course course with
    ⟨⟨text, decoded⟩, uncalled, panicked⟩ | ⟨decoded, last, result, returned⟩
  · have panics : consumption.decoderPanics message = true := by
      rw [Consumption.decoderPanics, decoded]
    constructor
    · intro returns
      rw [panics] at returns
      cases returns
    · intro _
      exact ⟨called.trans uncalled, ended.trans panicked⟩
  · have returns : consumption.decoderPanics message = false := by
      unfold Consumption.decoderPanics
      split
      · rename_i text found
        exact absurd found (decoded text)
      · rfl
      · rfl
    constructor
    · intro _
      rw [← called] at last
      exact ⟨last, Delivery.countP_of_settlesLast last, result, ended.trans returned⟩
    · intro panics
      rw [returns] at panics
      cases panics

end Job

/-- A pool at work on messages. -/
structure Shift where
  pool : WorkerPool Message
  /-- What the workers took from the queue so far. -/
  taken : List Message
  /-- The jobs that are over. -/
  done : List Job

namespace Shift

variable {α : Type} {consumption : Consumption α} {capacity size : Nat} {shift next : Shift}

def opened (capacity size : Nat) : Shift := ⟨.ofSize size (.ofCapacity capacity), [], []⟩

def running (shift : Shift) : List Message := shift.pool.workers.flatMap Worker.running

inductive Step (consumption : Consumption α) (shift : Shift) : Shift → Prop where
  | offered {message : Message} {queue : TaskQueue Message}
      (accepted : shift.pool.queue.offer message = .accepted queue) :
      Step consumption shift { shift with pool := { shift.pool with queue } }
  | finished :
      Step consumption shift
        { shift with pool := { shift.pool with queue := shift.pool.queue.finish } }
  | stopped : Step consumption shift { shift with pool := shift.pool.stop }
  | took {worker : Nat} {message : Message} {rest : TaskQueue Message}
      (free : shift.pool.workers[worker]? = some .free)
      (turn : shift.pool.turn = .take message rest) :
      Step consumption shift
        { shift with pool := shift.pool.receive worker, taken := shift.taken ++ [message] }
  | left {worker : Nat} (free : shift.pool.workers[worker]? = some .free)
      (turn : shift.pool.turn = .leave) :
      Step consumption shift { shift with pool := shift.pool.receive worker }
  /-- A job is over, however it ended: the pool takes no notice of a panic. -/
  | ended {worker : Nat} {message : Message}
      (busy : shift.pool.workers[worker]? = some (.busy message))
      {σ : Type} (services : Services σ α) (world : σ) :
      Step consumption shift
        { shift with
          pool := shift.pool.complete worker
          done := shift.done ++ [.run services consumption message world] }

inductive Reachable (consumption : Consumption α) (capacity size : Nat) : Shift → Prop where
  | opened : Reachable consumption capacity size (opened capacity size)
  | step {shift next : Shift} (earlier : Reachable consumption capacity size shift)
      (step : Step consumption shift next) : Reachable consumption capacity size next

/-! ## The account of the messages -/

theorem running_set {τ : Type} {workers : List (Worker τ)} {worker : Nat} {active : Worker τ}
    (present : workers[worker]? = some active) :
    ∃ others, (workers.flatMap Worker.running).Perm (active.running ++ others) ∧
      ∀ activity : Worker τ, ((workers.set worker activity).flatMap Worker.running).Perm
        (activity.running ++ others) := by
  obtain ⟨inside, same⟩ := List.getElem?_eq_some_iff.mp present
  let before := (workers.take worker).flatMap Worker.running
  let behind := (workers.drop (worker + 1)).flatMap Worker.running
  have turned : ∀ activity : Worker τ, ((workers.set worker activity).flatMap Worker.running).Perm
      (activity.running ++ (before ++ behind)) := by
    intro activity
    rw [List.set_eq_take_append_cons_drop, if_pos inside, List.flatMap_append,
      List.flatMap_cons]
    exact List.perm_append_comm_assoc _ _ _
  refine ⟨before ++ behind, ?_, turned⟩
  have unchanged := turned active
  have same : workers.set worker active = workers := by
    rw [← same, List.set_getElem_self]
  rwa [same] at unchanged

/-- What holds of a pool at every moment: what was taken is over or running, every job that is
over was run on its message, and no worker died. -/
structure Balanced (consumption : Consumption α) (size : Nat) (shift : Shift) : Prop where
  accounted : shift.taken.Perm (shift.done.map Job.message ++ shift.running)
  ran : ∀ job ∈ shift.done, ∃ (σ : Type) (services : Services σ α) (world : σ),
    job = .run services consumption job.message world
  staffed : shift.pool.workers.length = max size 1
  alive : ∀ worker ∈ shift.pool.workers, worker.isDead = false

theorem balanced_opened : Balanced consumption size (opened capacity size) where
  accounted := by
    have idle : (opened capacity size).running = [] := by
      rw [running, List.flatMap_eq_nil_iff]
      intro worker member
      rw [List.eq_of_mem_replicate member]
      rfl
    rw [idle]
    exact .nil
  ran := nofun
  staffed := List.length_replicate
  alive worker member := by
    rw [List.eq_of_mem_replicate member]
    rfl

theorem alive_set {workers : List (Worker Message)} {worker : Nat} {activity : Worker Message}
    (alive : ∀ each ∈ workers, each.isDead = false) (survives : activity.isDead = false) :
    ∀ each ∈ workers.set worker activity, each.isDead = false := by
  intro each member
  rcases List.mem_or_eq_of_mem_set member with old | rfl
  · exact alive each old
  · exact survives

theorem balanced_step (balanced : Balanced consumption size shift)
    (step : Step consumption shift next) : Balanced consumption size next := by
  obtain ⟨accounted, ran, staffed, alive⟩ := balanced
  cases step with
  | offered accepted => exact ⟨accounted, ran, staffed, alive⟩
  | finished => exact ⟨accounted, ran, staffed, alive⟩
  | stopped => exact ⟨accounted, ran, staffed, alive⟩
  | @took worker message rest free turn =>
      rw [WorkerPool.receive_of_take free turn]
      obtain ⟨others, before, turned⟩ := running_set free
      refine ⟨?_, ran, by simpa using staffed, alive_set alive rfl⟩
      have earlier : shift.taken.Perm (shift.done.map Job.message ++ others) :=
        accounted.trans (before.append_left _)
      have begun : (others ++ [message]).Perm
          ((shift.pool.workers.set worker (.busy message)).flatMap Worker.running) :=
        List.perm_append_comm.trans (turned (.busy message)).symm
      have later := (earlier.append_right [message]).trans
        (.of_eq (List.append_assoc _ others [message]))
      exact later.trans (begun.append_left _)
  | @left worker free turn =>
      rw [WorkerPool.receive_of_leave free turn]
      obtain ⟨others, before, turned⟩ := running_set free
      refine ⟨?_, ran, by simpa using staffed, alive_set alive rfl⟩
      exact accounted.trans ((before.trans (turned .gone).symm).append_left _)
  | @ended worker message busy σ services world =>
      rw [WorkerPool.complete_of_busy busy]
      obtain ⟨others, before, turned⟩ := running_set busy
      refine ⟨?_, ?_, by simpa using staffed, alive_set alive rfl⟩
      · rw [List.map_append, List.append_assoc]
        exact accounted.trans ((before.trans ((turned .free).symm.append_left _)).append_left _)
      · intro job member
        rcases List.mem_append.mp member with old | new
        · exact ran job old
        · rw [List.mem_singleton.mp new]
          exact ⟨σ, services, world, rfl⟩

theorem reachable_balanced (reachable : Reachable consumption capacity size shift) :
    Balanced consumption size shift := by
  induction reachable with
  | opened => exact balanced_opened
  | step earlier step ih => exact balanced_step ih step

theorem outcome_of_alive (alive : ∀ worker ∈ shift.pool.workers, worker.isDead = false) :
    shift.pool.outcome = .ok () := by
  rw [WorkerPool.outcome, if_neg]
  intro died
  obtain ⟨worker, member, dead⟩ := List.any_eq_true.mp died
  have living := alive worker member
  cases worker with
  | free | busy task | gone => cases dead
  | dead => cases living

/-- **What was taken is settled once, unless its decoder panics.** Under every schedule, and
whatever handlers do and calls answer, each message that a worker took is being processed or
its job is over. A job settled its message with its last call, and with no other, exactly if
the decoder did not panic; if it did, no call was made at all, and the pool still answers that
all went well. -/
theorem settled_unless_decoder_panics (reachable : Reachable consumption capacity size shift) :
    shift.taken.Perm (shift.done.map Job.message ++ shift.running) ∧
      (∀ job ∈ shift.done, job.calls.countP Call.settles = 1 ↔
        consumption.decoderPanics job.message = false) ∧
      (∀ job ∈ shift.done, consumption.decoderPanics job.message = false → job.Settled) ∧
      (∀ job ∈ shift.done, consumption.decoderPanics job.message = true → job.Forgotten) ∧
      shift.pool.workers.length = max size 1 ∧ shift.pool.outcome = .ok () := by
  have balanced := reachable_balanced reachable
  have settled : ∀ job ∈ shift.done,
      (consumption.decoderPanics job.message = false → job.Settled) ∧
        (consumption.decoderPanics job.message = true → job.Forgotten) := by
    intro job member
    obtain ⟨σ, services, world, same⟩ := balanced.ran job member
    rw [same]
    exact Job.settled_or_forgotten services consumption job.message world
  refine ⟨balanced.accounted, ?_, fun job member => (settled job member).1,
    fun job member => (settled job member).2, balanced.staffed, outcome_of_alive balanced.alive⟩
  intro job member
  constructor
  · intro once
    cases panics : consumption.decoderPanics job.message with
    | false => rfl
    | true =>
        rw [((settled job member).2 panics).uncalled] at once
        cases once
  · intro returns
    exact ((settled job member).1 returns).once

/-! ## Poles -/

/-- A class whose decoder panics on a message without octets. -/
def fussy : Consumption Unit where
  cls := .blank
  counter := .redelivery
  decode body := if body = [] then .panicked none else .done ()

def willing : Services Unit Unit where
  propagator := .standard
  handle _ _ world := (.done (), world)
  publish _ world := (.ok (), world)
  acknowledge world := (.ok (), world)
  reject _ world := (.ok (), world)

def withoutOctets : Message := ⟨[], [], false⟩

def withOctets : Message := ⟨[1], [], false⟩

/-- A pool of one worker who took the message without octets; his job is over. -/
def forgetful : Shift where
  pool := .ofSize 1 (.ofCapacity 1)
  taken := [withoutOctets]
  done := [⟨withoutOctets, [], .panicked⟩]

theorem reachable_forgetful : Reachable fussy 1 1 forgetful := by
  have start : Reachable fussy 1 1 _ := .opened
  have offered := start.step (@Step.offered _ _ _ withoutOctets _ rfl)
  have took := offered.step (@Step.took _ _ _ 0 _ _ rfl rfl)
  exact took.step (@Step.ended _ _ _ 0 _ rfl _ willing ())

/-- A message that is taken and forgotten: its job is over, no call was made for it, no
worker is processing anything, and the pool answers that all went well. -/
theorem panicking_decoder_unsettled :
    Reachable fussy 1 1 forgetful ∧ forgetful.taken = [withoutOctets] ∧
      forgetful.done = [⟨withoutOctets, [], .panicked⟩] ∧ forgetful.running = [] ∧
      forgetful.pool.outcome = .ok () :=
  ⟨reachable_forgetful, rfl, rfl, rfl, rfl⟩

/-- The same worker takes the next message, and settles it. -/
theorem settled_unless_decoder_panics_next :
    ∃ shift job, Reachable fussy 1 1 shift ∧ shift.taken = [withoutOctets, withOctets] ∧
      shift.done = [⟨withoutOctets, [], .panicked⟩, job] ∧ job.message = withOctets ∧
      job.Settled := by
  have offered := reachable_forgetful.step (@Step.offered _ _ _ withOctets _ rfl)
  have took := offered.step (@Step.took _ _ _ 0 _ _ rfl rfl)
  have ended := took.step (@Step.ended _ _ _ 0 _ rfl _ willing ())
  have settled := (settled_unless_decoder_panics ended).2.2.1
  refine ⟨_, _, ended, rfl, rfl, rfl, settled _ ?_ rfl⟩
  exact List.mem_append_right _ (List.mem_singleton_self _)

end Shift

end Redelivery
