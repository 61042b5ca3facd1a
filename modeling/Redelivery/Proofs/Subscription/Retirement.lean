import Redelivery.Proofs.Connection.Traffic
import Redelivery.Proofs.Subscription.Stint
/-!
# Stopping a subscription without an alarm

Whoever stops a subscription tells the collector to give up before he stops the pool, so that
the collector is gone before the last worker leaves the queue. He does not wait for it, and a
collector that runs does not hear him: if it has a delivery in hand, or comes to one before it
suspends itself, it may find the queue closed. It takes that for a failure, and announces it
under the generation of the connection, which is as good as ever.

* `Collector.burdened`: there is something that a collector can fail with before it suspends
  itself.
* `mute_step`, `mute_later`: a collector that is told to give up while it waits, or has nothing in
  hand, is never heard of again.
* `Stint.emptied`: whoever is left in a pool that is being stopped can leave before the collector
  goes on.
* `retirement_alarm_iff`: what a subscription whose stream has no error can raise, and when it can
  after it was told to give up.
* `retired_alarm_heeded`: a subscription is stopped on the connection in use, and the supervisor
  begins to replace that connection.
-/

namespace Redelivery

set_option autoImplicit false

open Collector (alarm?)

namespace Collector

variable {δ : Type} {collector next : Collector δ} {queue after : TaskQueue δ}

/-- The collector has failed, or has something in hand or at hand that it can fail with. -/
def burdened : Collector δ → Bool
  | pulling [] => false
  | pulling (_ :: _) => true
  | holding _ _ => true
  | ended (.ok ()) => false
  | ended (.error _) => true

theorem burdened_step (unburdened : collector.burdened = false)
    (taken : collector.step queue = some (next, after)) : next.burdened = false := by
  cases collector with
  | ended outcome => cases taken
  | holding delivery stream => cases unburdened
  | pulling stream =>
      cases stream with
      | cons item rest => cases unburdened
      | nil =>
          cases taken
          rfl

theorem alarm?_of_unburdened {generation : Nat} {outcome : Outcome}
    (unburdened : (ended outcome : Collector δ).burdened = false) :
    alarm? generation outcome = none := by
  cases outcome with
  | ok done => rfl
  | error failure => cases unburdened

end Collector

theorem Workday.goes_on {τ : Type} {day : Workday τ} (stopped : day.pool.stopping = true)
    (manned : day.pool.deserted = false) : ∃ next, day.Move next ∨ day.JobStep next := by
  obtain ⟨worker, member, present⟩ := List.all_eq_false.mp manned
  rcases unstuck_of_stopped stopped member (Bool.eq_false_iff.mpr present) with
    busy | ⟨next, move⟩
  · obtain ⟨active, member, working⟩ := List.countP_pos_iff.mp busy
    cases active with
    | free | gone | dead => cases working
    | busy task =>
        obtain ⟨index, found⟩ := List.mem_iff_getElem?.mp member
        exact ⟨_, .inr (.completed found .returns nofun)⟩
  · exact ⟨next, .inl move⟩

namespace Stint

variable {δ : Type} {generation capacity size : Nat} {stream : List (Except String δ)}
  {notices : NoticeStream} {stint next later : Stint δ}

/-! ## A collector that is not heard of again -/

/-- The collector was told to give up, and waits or has nothing to fail with. -/
structure Mute (stint : Stint δ) : Prop where
  told : stint.retreat.aborted = true
  unburdened : stint.pace = .running → stint.collector.burdened = false

theorem mute_step (mute : Mute stint) (step : Step generation stint next) :
    Mute next ∧ next.raised = stint.raised := by
  obtain ⟨told, unburdened⟩ := mute
  cases step with
  | moved _ | worked _ | elsewhere _ => exact ⟨⟨told, unburdened⟩, rfl⟩
  | resumed _ wanted => cases told.symm.trans wanted
  | suspended _ _ | dropped _ _ => exact ⟨⟨told, nofun⟩, rfl⟩
  | collected running taken =>
      exact ⟨⟨told, fun _ => Collector.burdened_step (unburdened running) taken⟩, rfl⟩
  | announced running ended =>
      have nothing : alarm? generation _ = none :=
        Collector.alarm?_of_unburdened (ended ▸ unburdened running)
      exact ⟨⟨told, nofun⟩, by simp [nothing]⟩
  | called unasked => simp [unasked, Retreat.aborted] at told
  | aborted cancelling => simp [cancelling, Retreat.aborted] at told
  | stopped _ => exact ⟨⟨rfl, unburdened⟩, rfl⟩

theorem mute_later (mute : Mute stint) (after : Later generation stint later) :
    Mute later ∧ later.raised = stint.raised := by
  induction after with
  | now => exact ⟨mute, rfl⟩
  | step _ step ih =>
      obtain ⟨further, same⟩ := mute_step ih.1 step
      exact ⟨further, same.trans ih.2⟩

/-! ## A collector that finds nobody there -/

/-- A pool that is being stopped can be deserted before the collector goes on. -/
theorem emptied (kept : Kept generation capacity size stream stint)
    (stopped : stint.day.pool.stopping = true) :
    ∃ day, Later generation stint { stint with day } ∧ day.pool.deserted = true := by
  -- The induction is on the toil of the workers, which every step of theirs takes away from.
  induction toil : stint.day.toil using Nat.strongRecOn generalizing stint with
  | ind left ih =>
      cases manned : stint.day.pool.deserted with
      | true => exact ⟨stint.day, .now, manned⟩
      | false =>
          obtain ⟨day, step⟩ := Workday.goes_on stopped manned
          have worked : Step generation stint { stint with day } := step.elim .moved .worked
          have less : day.toil < left := by
            rw [← toil]
            exact step.elim (Workday.toil_move kept.day stopped) Workday.toil_job
          have still : day.pool.stopping = true := by
            rw [← stopped]
            exact step.elim (fun move => (Workday.stopping_move move).1)
              fun step => (Workday.stopping_job step).1
          obtain ⟨last, rest, deserted⟩ := ih day.toil less (kept_step kept worked) still rfl
          exact ⟨last, (Later.now.step worked).trans rest, deserted⟩

/-- The one who told the collector to give up can stop the pool, and all workers can leave, before
the collector goes on. -/
theorem deserted_of_aborted (kept : Kept generation capacity size stream stint)
    (told : stint.retreat.aborted = true) :
    ∃ retreat day, Later generation stint { stint with retreat, day } ∧
      day.pool.deserted = true := by
  cases retreat : stint.retreat with
  | unasked | cancelling => simp [retreat, Retreat.aborted] at told
  | aborting =>
      have stops : Step generation stint _ := .stopped retreat
      obtain ⟨day, after, deserted⟩ := emptied (kept_step kept stops) rfl
      exact ⟨.done, day, (Later.now.step stops).trans after, deserted⟩
  | done =>
      obtain ⟨day, after, deserted⟩ := emptied kept (kept.stopping.mpr retreat)
      exact ⟨stint.retreat, day, after, deserted⟩

/-- The collector may yet be heard of, under some schedule. -/
def Audible (generation : Nat) (stint : Stint δ) : Prop :=
  ∃ later, Later generation stint later ∧ later.raised ≠ stint.raised

/-- Whoever may be heard of after something has happened in silence may be heard of before. -/
theorem Audible.earlier (audible : Audible generation later)
    (after : Later generation stint later) (silent : later.raised = stint.raised) :
    Audible generation stint := by
  obtain ⟨last, rest, heard⟩ := audible
  exact ⟨last, after.trans rest, silent ▸ heard⟩

theorem audible_of_failed {failure : Failure} (running : stint.pace = .running)
    (failed : stint.collector = .ended (.error failure)) : Audible generation stint :=
  ⟨_, .step .now (.announced running failed), by simp [alarm?]⟩

theorem audible_of_holding {delivery : δ} {rest : List (Except String δ)}
    (running : stint.pace = .running) (holds : stint.collector = .holding delivery rest)
    (abandoned : stint.day.pool.queue.abandoned = true) : Audible generation stint := by
  have refused : stint.collector.step stint.day.pool.queue =
      some (.ended (.error Collector.queueClosed), stint.day.pool.queue.finish) := by
    simp [holds, Collector.step, TaskQueue.offer, abandoned]
  refine Audible.earlier ?_ (Later.now.step (.collected running refused)) rfl
  exact audible_of_failed running rfl

/-- A collector that runs and has something in hand may be heard of once nobody is there. -/
theorem audible_of_abandoned (running : stint.pace = .running)
    (burdened : stint.collector.burdened = true)
    (abandoned : stint.day.pool.queue.abandoned = true) : Audible generation stint := by
  cases collector : stint.collector with
  | ended outcome =>
      rw [collector] at burdened
      cases outcome with
      | ok done => cases burdened
      | error failure => exact audible_of_failed running collector
  | holding delivery rest => exact audible_of_holding running collector abandoned
  | pulling coming =>
      rw [collector] at burdened
      match coming with
      | [] => cases burdened
      | .error reason :: rest =>
          have ends : stint.collector.step stint.day.pool.queue =
              some (.ended (.error (.consuming reason)), stint.day.pool.queue.finish) := by
            rw [collector]
            rfl
          refine Audible.earlier ?_ (Later.now.step (.collected running ends)) rfl
          exact audible_of_failed running rfl
      | .ok delivery :: rest =>
          have pulls : stint.collector.step stint.day.pool.queue =
              some (.holding delivery rest, stint.day.pool.queue) := by
            rw [collector]
            rfl
          refine Audible.earlier ?_ (Later.now.step (.collected running pulls)) rfl
          exact audible_of_holding running rfl abandoned

/-! ## What stopping a subscription can raise -/

/-- Once the collector was told to give up, it may be heard of exactly if it runs and has
something to fail with. -/
theorem audible_iff (kept : Kept generation capacity size stream stint)
    (told : stint.retreat.aborted = true) :
    Audible generation stint ↔
      stint.pace = .running ∧ stint.collector.burdened = true := by
  constructor
  · rintro ⟨later, after, heard⟩
    by_cases running : stint.pace = .running
    · refine ⟨running, ?_⟩
      cases burdened : stint.collector.burdened with
      | true => rfl
      | false => exact absurd (mute_later ⟨told, fun _ => burdened⟩ after).2 heard
    · exact absurd (mute_later ⟨told, fun runs => absurd runs running⟩ after).2 heard
  · rintro ⟨running, burdened⟩
    -- Under this schedule all workers leave before the collector goes on with what it has.
    obtain ⟨retreat, day, after, deserted⟩ := deserted_of_aborted kept told
    have abandoned : day.pool.queue.abandoned = true :=
      (kept_later kept after).day.staffed.abandoned.trans deserted
    have audible : Audible generation { stint with retreat, day } :=
      audible_of_abandoned running burdened abandoned
    exact audible.earlier after rfl

/-- **Whether stopping a subscription raises an alarm.** On a stream without errors a collector
raises nothing, or that the queue is closed, once; and then all workers are away, because the pool
is being stopped or because their jobs killed them. After it was told to give up, it may still be
heard of exactly if it runs, and has something in hand or at hand: told while it waits, it never
is. -/
theorem retirement_alarm_iff (clean : ∀ item ∈ stream, ∃ delivery, item = .ok delivery)
    (reachable : Reachable generation capacity size stream notices stint) :
    (stint.raised = [] ∨ stint.raised = [⟨generation, Collector.queueClosed.message⟩]) ∧
      (stint.raised ≠ [] → stint.day.pool.deserted = true ∧
        (stint.retreat = .done ∨
          ∀ worker ∈ stint.day.pool.workers, worker.isDead = true)) ∧
      (stint.retreat.aborted = true →
        (Audible generation stint ↔
          stint.pace = .running ∧ stint.collector.burdened = true)) := by
  have kept : Kept generation capacity size stream stint := kept_later kept_opened reachable
  rcases kept.raised_of_clean clean with silent | ⟨alarm, away⟩
  · exact ⟨.inl silent, fun heard => absurd silent heard, audible_iff kept⟩
  · exact ⟨.inr alarm, fun _ => away, audible_iff kept⟩

/-! ## Poles -/

/-- One worker, and a collector that was told to give up with a delivery in hand, before the pool
is stopped. -/
def abortedLate : Stint Nat where
  day := .opened 1 1
  collector := .holding 7 []
  pace := .running
  retreat := .aborting
  notices := ⟨.live, some []⟩
  read := []
  raised := []

theorem reachable_abortedLate : Reachable 1 1 1 [.ok 7] ⟨.live, some []⟩ abortedLate := by
  have start : Later 1 (opened 1 1 [.ok 7] ⟨.live, some []⟩ : Stint Nat) _ := .now
  have holds := (start.step (.resumed rfl rfl)).step (.collected rfl rfl)
  exact (holds.step (.called rfl)).step (.aborted rfl)

/-- It has raised nothing, and may still be heard of. -/
theorem retirement_alarm_iff_abortedLate :
    Reachable 1 1 1 [.ok 7] ⟨.live, some []⟩ abortedLate ∧ abortedLate.raised = [] ∧
      Audible 1 abortedLate := by
  have clean : ∀ item ∈ ([.ok 7] : List (Except String Nat)), ∃ delivery, item = .ok delivery :=
    fun item member => ⟨7, List.mem_singleton.mp member⟩
  obtain ⟨-, -, audible⟩ := retirement_alarm_iff clean reachable_abortedLate
  exact ⟨reachable_abortedLate, rfl, (audible rfl).mpr ⟨rfl, rfl⟩⟩

/-- The worker has left, no job was begun, and the collector has found nobody there. -/
def retired : Stint Nat where
  day := ⟨⟨⟨1, [], true, true⟩, true, [.gone]⟩, none, false, [], [], []⟩
  collector := .ended (.error Collector.queueClosed)
  pace := .finished
  retreat := .done
  notices := ⟨.live, some [⟨1, Collector.queueClosed.message⟩]⟩
  read := []
  raised := [⟨1, Collector.queueClosed.message⟩]

/-- The pool is stopped, and its worker leaves before the collector has passed on its delivery. -/
theorem later_retired : Later 1 abortedLate retired := by
  have stopped := (Later.now : Later 1 abortedLate _).step (.stopped rfl)
  have entered := stopped.step (.moved (@Workday.Move.entered _ _ 0 rfl rfl))
  have dismissed := entered.step (.moved (.dismissed rfl rfl))
  have refused := dismissed.step (.collected rfl rfl)
  have announced := refused.step (.announced rfl rfl)
  exact announced

/-- A subscription that is stopped on the connection in use has it replaced: its collector says
that the queue is closed, and the supervisor that reads this begins a recovery. -/
theorem retired_alarm_heeded :
    Reachable 1 1 1 [.ok 7] ⟨.live, some []⟩ retired ∧ retired.retreat = .done ∧
      retired.day.done = [] ∧
      retired.raised = [⟨1, "failure to consume message `task queue closed`"⟩] ∧
      Supervisor.started.look 1 retired.notices =
        some (Supervisor.started.enter .resting, ⟨.live, some []⟩) :=
  ⟨reachable_abortedLate.trans later_retired, rfl, rfl, by decide, rfl⟩

end Stint

end Redelivery
