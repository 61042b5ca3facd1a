import Redelivery.Proofs.Connection.Traffic
import Redelivery.Proofs.Subscription.Stint
/-!
# The alarm of a failed stream

A stream of deliveries that has an error makes the collector of the subscription raise a notice,
under the generation of the connection that the subscription was opened on. It is raised as soon
as the collector comes to the error, if nobody tells it to give up before, and it is read, unless
the notices are closed or their reader goes away. A stream that just ends is another matter:
nothing is raised, whether it was the subscription that was stopped, the connection that was
closed, or the broker that cancelled the consumer.

* `Stint.finished_of_atRest`: a collector that nobody tells to give up before comes to its end.
* `NoticeStream.Goes.keeps`, `attended_step`: what was raised waits until it is read.
* `Heralded`, `failed_stream_heralded`: what is raised of the end of a stream, and when.
* `ended_stream_unheralded`: a stream that just ends, and nothing is raised.
-/

namespace Redelivery

set_option autoImplicit false

open Collector (verdict alarm?)

/-! ## Who goes on -/

/-- As long as nobody stops the pool, a free worker does not leave a task in the queue. -/
theorem Workday.astir {τ : Type} {day : Workday τ} (unstopped : day.pool.stopping = false)
    {worker : Nat} (free : day.pool.workers[worker]? = some .free)
    (waiting : day.pool.queue.items ≠ []) : ∃ next, day.Move next := by
  rcases holds : day.holder with _ | ⟨holder, grip⟩
  · exact ⟨_, .entered free holds⟩
  · cases grip with
    | looking => exact ⟨_, .passed holds unstopped⟩
    | reaching => exact moves_of_reaching holds
    | waiting =>
        refine ⟨_, .woke holds fun waits => ?_⟩
        rcases WorkerPool.turn_cases unstopped with
          ⟨task, later, -, takes⟩ | ⟨empty, -, -⟩ | ⟨empty, -, -⟩
        · cases takes.symm.trans waits
        · exact waiting empty
        · exact waiting empty

theorem Workday.empty_of_atRest {τ : Type} {day : Workday τ}
    (unstopped : day.pool.stopping = false) (manned : day.pool.deserted = false)
    (rest : day.AtRest) : day.pool.queue.items = [] := by
  refine Decidable.byContradiction fun waiting => ?_
  obtain ⟨worker, member, present⟩ := List.all_eq_false.mp manned
  cases worker with
  | gone | dead => exact present rfl
  | busy task => exact absurd rfl (List.countP_eq_zero.mp rest.2 (.busy task) member)
  | free =>
      obtain ⟨index, free⟩ := List.mem_iff_getElem?.mp member
      obtain ⟨next, move⟩ := astir unstopped free waiting
      exact rest.1 next move

namespace NoticeStream

variable {stream next : NoticeStream} {notice : Notice}

theorem take_of_taken (taken : stream.source ≠ .untaken) : stream.take.2 = stream := by
  rcases stream with ⟨source, reader⟩
  cases source with
  | untaken => exact absurd rfl taken
  | live | closed => rfl

theorem listening_raise (notice : Notice) (stream : NoticeStream) :
    (stream.raise notice).listening = stream.listening := by
  rcases stream with ⟨source, reader⟩
  cases source <;> cases reader <;> rfl

theorem listening_iff :
    stream.listening = true ↔ stream.source = .live ∧ stream.reader.isSome = true := by
  simp [listening]

theorem pending_of_receive (found : stream.receive = (.notice notice, next)) :
    stream.pending = notice :: next.pending ∧ next.source = stream.source ∧
      next.listening = stream.listening := by
  rcases stream with ⟨source, _ | _ | ⟨first, rest⟩⟩
  · cases found
  · cases source <;> cases found
  · cases found
    exact ⟨rfl, rfl, rfl⟩

/-- What waits to be read is not lost as long as somebody listens, and once the stream was
handed out nobody begins to listen. -/
theorem Goes.keeps {seen : List Notice} (goes : stream.Goes seen next)
    (handed : stream.source ≠ .untaken) :
    next.source ≠ .untaken ∧ (next.listening = true →
      stream.listening = true ∧ ∀ notice ∈ stream.pending, notice ∈ seen ++ next.pending) := by
  cases goes with
  | taken =>
      rw [take_of_taken handed]
      exact ⟨handed, fun listens => ⟨listens, fun notice waits => waits⟩⟩
  | raised other =>
      rw [source_raise, listening_raise]
      refine ⟨handed, fun listens => ⟨listens, fun notice waits => ?_⟩⟩
      obtain ⟨live, read⟩ := listening_iff.mp listens
      rw [pending_raise live read, List.nil_append]
      exact List.mem_append_left _ waits
  | closed => exact ⟨nofun, nofun⟩
  | read found =>
      obtain ⟨pending, source, same⟩ := pending_of_receive found
      rw [source, same, pending]
      exact ⟨handed, fun listens => ⟨listens, fun notice waits => waits⟩⟩
  | abandoned => exact ⟨handed, fun listens => by simp [listening, abandon] at listens⟩

end NoticeStream

namespace Stint

variable {δ : Type} {generation capacity size : Nat} {stream : List (Except String δ)}
  {notices : NoticeStream} {stint next later : Stint δ}

/-- No worker can go on, no job is running, and the collector is over or waits for room. -/
structure AtRest (stint : Stint δ) : Prop where
  workers : stint.day.AtRest
  collector : stint.pace = .dropped ∨ stint.pace = .finished ∨
    stint.collector.outcome? = none ∧
      stint.collector.step stint.day.pool.queue = none

/-- Nobody told the collector to give up, or it had come to its end before. -/
def LeftAlone (stint : Stint δ) : Prop :=
  stint.retreat.aborted = false ∨ stint.collector.outcome?.isSome = true

theorem LeftAlone.wanted (alone : LeftAlone stint)
    (unended : stint.collector.outcome? = none) : stint.retreat.aborted = false := by
  rcases alone with wanted | ended
  · exact wanted
  · rw [unended] at ended
    cases ended

/-- A collector that is left alone is at rest only when it is over: where it waits for room
there is a task, and where there is a task a worker is busy or takes it. -/
theorem finished_of_atRest (room : 0 < capacity)
    (kept : Kept generation capacity size stream stint) (alone : LeftAlone stint)
    (rest : stint.AtRest) : stint.pace = .finished := by
  rcases rest.collector with gone | finished | ⟨unended, idle⟩
  · cases kept.paced with
    | dropped _ told unended _ => cases (alone.wanted unended).symm.trans told
    | suspended pace _ _ | running pace _ | finished pace _ _ => cases gone.symm.trans pace
  · exact finished
  · have wanted := alone.wanted unended
    rcases (Collector.step_eq_none_iff _ _).mp idle with
      ended | ⟨delivery, coming, holds, unabandoned, full⟩
    · rw [unended] at ended
      cases ended
    · have unstopped : stint.day.pool.stopping = false := by
        refine Bool.eq_false_iff.mpr fun stopping => ?_
        rw [kept.stopping.mp stopping] at wanted
        cases wanted
      have manned : stint.day.pool.deserted = false :=
        kept.day.staffed.abandoned.symm.trans unabandoned
      rw [Workday.empty_of_atRest unstopped manned rest.workers, kept.bounded] at full
      exact absurd full (Nat.not_le_of_lt room)

/-! ## What is heard -/

/-- The stream of notices was handed out. As long as somebody listens, all that the collector has
raised was read, or waits to be read. -/
structure Attended (stint : Stint δ) : Prop where
  handed : stint.notices.source ≠ .untaken
  heard : stint.notices.listening = true →
    ∀ notice ∈ stint.raised, notice ∈ stint.read ++ stint.notices.pending

theorem attended_announced (attended : Attended stint) (outcome : Outcome) :
    Attended
      { stint with
        pace := .finished
        notices := Collector.announce generation outcome stint.notices
        raised := stint.raised ++ (alarm? generation outcome).toList } := by
  cases outcome with
  | ok done =>
      refine ⟨attended.handed, fun listening notice raised => ?_⟩
      simp only [alarm?, Option.toList_none, List.append_nil] at raised
      exact attended.heard listening notice raised
  | error failure =>
      refine ⟨?_, fun listening notice raised => ?_⟩
      · simpa [Collector.announce] using attended.handed
      · simp only [Collector.announce, NoticeStream.listening_raise] at listening
        obtain ⟨live, read⟩ := NoticeStream.listening_iff.mp listening
        simp only [Collector.announce, NoticeStream.pending_raise live read, ← List.append_assoc]
        rcases List.mem_append.mp raised with before | now
        · exact List.mem_append_left _ (attended.heard listening notice before)
        · exact List.mem_append_right _ now

theorem attended_step (attended : Attended stint) (step : Step generation stint next) :
    Attended next := by
  cases step with
  | announced running ended => exact attended_announced attended _
  | elsewhere goes =>
      obtain ⟨handed, keeps⟩ := goes.keeps attended.handed
      refine ⟨handed, fun listening notice raised => ?_⟩
      obtain ⟨before, kept⟩ := keeps listening
      rw [List.append_assoc]
      rcases List.mem_append.mp (attended.heard before notice raised) with read | waits
      · exact List.mem_append_left _ read
      · exact List.mem_append_right _ (kept notice waits)
  | moved _ | worked _ | resumed _ _ | suspended _ _ | collected _ _ | dropped _ _ | called _
  | aborted _ | stopped _ => exact ⟨attended.handed, attended.heard⟩

theorem attended_later (attended : Attended stint) (after : Later generation stint later) :
    Attended later := by
  induction after with
  | now => exact attended
  | step _ step ih => exact attended_step ih step

/-! ## What is raised of the end of a stream -/

/-- What is raised of the end of a stream by the subscription of a generation, and who hears it. -/
structure Heralded (generation : Nat) (stream : List (Except String δ)) (stint : Stint δ) :
    Prop where
  /-- A collector ends as its stream does, or because all workers are dead, or because the pool was
  stopped. -/
  ends : ∀ outcome, stint.collector = .ended outcome → outcome = verdict stream ∨
    outcome = .error Collector.queueClosed ∧ stint.day.pool.deserted = true ∧
      (stint.retreat = .done ∨ ∀ worker ∈ stint.day.pool.workers, worker.isDead = true)
  /-- It says so without waiting for anything, and raises a notice if it has failed. -/
  announces : ∀ outcome, stint.collector = .ended outcome →
    stint.pace = .running ∧ stint.raised = [] ∨
      stint.pace = .finished ∧ stint.raised = (alarm? generation outcome).toList
  heard : stint.notices.listening = true →
    ∀ notice ∈ stint.raised, notice ∈ stint.read ++ stint.notices.pending
  /-- If the collector is left alone, an error in the stream leads to one notice. -/
  failed : LeftAlone stint → stint.AtRest → ∀ reason, .error reason ∈ stream →
    ∃ failure : Failure, stint.raised = [⟨generation, failure.message⟩]
  /-- If the stream has no error, nothing is raised as long as a worker survives. -/
  silent : stint.retreat.aborted = false → (∀ item ∈ stream, ∃ delivery, item = .ok delivery) →
    (∃ worker ∈ stint.day.pool.workers, worker.isDead = false) → stint.raised = []

theorem heralded_of_kept (room : 0 < capacity)
    (kept : Kept generation capacity size stream stint) (attended : Attended stint) :
    Heralded generation stream stint where
  ends _ ended := kept.ends ended
  announces _ ended := kept.announces ended
  heard := attended.heard
  failed alone rest reason failed := by
    obtain ⟨first, comes⟩ := Collector.verdict_of_failed failed
    cases kept.paced with
    | finished _ ended said =>
        rcases kept.ends ended with rfl | ⟨rfl, -⟩
        · rw [comes] at said
          exact ⟨_, said⟩
        · exact ⟨_, said⟩
    | suspended pace _ _ | running pace _ | dropped pace _ _ _ =>
        cases (finished_of_atRest room kept alone rest).symm.trans pace
  silent wanted clean := by
    rintro ⟨worker, member, survives⟩
    rcases kept.raised_of_clean clean with silent | ⟨-, -, retired | dead⟩
    · exact silent
    · rw [retired] at wanted
      cases wanted
    · cases survives.symm.trans (dead worker member)

/-- **An error in a stream of deliveries is heard of.** Whoever has opened a subscription has it on
the generation of the connection in use. Let the notices be handed out before the collector has
raised any. Then, if nobody tells it to give up before its end, an error in the stream leads to
one notice of that generation, which a supervisor takes for the loss of the connection in use
exactly if it still is that connection; without an error none is raised. The collector ends as
its stream does, or because nobody is there to take a task, and says so at once. What it raises
is not lost unless the notices are closed or their reader goes away. -/
theorem failed_stream_heralded {σ : Type} {wire : Wire σ} {cls : MessageClass} {prefetch : Nat}
    {manager : Manager} {world : σ} {subscription : Subscription}
    (opening : (Subscription.opened wire cls prefetch (manager, world)).1 = .ok (some subscription))
    (room : 0 < capacity)
    (reachable : Reachable subscription.generation capacity size stream manager.notices stint)
    (handed : stint.notices.source ≠ .untaken) (silent : stint.raised = [])
    (after : Later subscription.generation stint later) :
    (∃ link, manager.link = some link ∧ subscription.generation = link.generation) ∧
      Heralded subscription.generation stream later ∧
      ∀ live, Supervisor.Heeds live subscription.generation ↔ subscription.generation = live := by
  have kept : Kept subscription.generation capacity size stream later :=
    kept_later kept_opened (reachable.trans after)
  have attended : Attended stint := ⟨handed, fun _ notice raised => by simp [silent] at raised⟩
  exact ⟨Subscription.generation_of_opened opening,
    heralded_of_kept room kept (attended_later attended after), fun _ => Supervisor.heeds_iff⟩

/-! ## Poles -/

/-- A manager that has connected once, and whose notices are read. -/
def attentive : Manager := (Manager.connect .obliging (Manager.fresh.takeNotices.2, 0)).2.1

def plain : Subscription := ⟨⟨"", 1⟩, ⟨0, 1⟩, 1⟩

theorem opened_plain :
    (Subscription.opened .obliging { MessageClass.blank with enabled := true } 1
      (attentive, 1)).1 = .ok (some plain) := rfl

/-- What became of a subscription whose collector has ended, and whose worker has left. -/
def departed (outcome : Outcome) : Stint Nat where
  day := ⟨⟨⟨1, [], true, true⟩, false, [.gone]⟩, none, false, [], [], []⟩
  collector := .ended outcome
  pace := .finished
  retreat := .unasked
  notices := ⟨.live, some (alarm? 1 outcome).toList⟩
  read := []
  raised := (alarm? 1 outcome).toList

theorem atRest_departed (outcome : Outcome) : (departed outcome).AtRest where
  workers := Workday.atRest_of_departed rfl fun worker member => by
    cases List.mem_singleton.mp member
    rfl
  collector := .inr (.inl rfl)

theorem later_departed {stream : List (Except String Nat)} {outcome : Outcome}
    (ends : (Collector.pulling stream).step (.ofCapacity 1) =
      some (.ended outcome, (TaskQueue.ofCapacity 1).finish)) :
    Later plain.generation (opened 1 1 stream attentive.notices) (departed outcome) := by
  have start : Later plain.generation (opened 1 1 stream attentive.notices) _ := .now
  have ended := (start.step (.resumed rfl rfl)).step (.collected rfl ends)
  have announced := ended.step (.announced rfl rfl)
  have entered := announced.step (.moved (@Workday.Move.entered _ _ 0 rfl rfl))
  have passed := entered.step (.moved (.passed rfl rfl))
  have left := passed.step (.moved (.left rfl rfl))
  cases outcome <;> exact left

/-- The broker sends an error and nothing else. -/
theorem failed_stream_heralded_departed :
    (Subscription.opened .obliging { MessageClass.blank with enabled := true } 1
        (attentive, 1)).1 = .ok (some plain) ∧ 0 < 1 ∧
      Later plain.generation (opened 1 1 [.error "gone"] attentive.notices)
        (departed (.error (.consuming "gone"))) ∧
      (departed (.error (.consuming "gone"))).raised =
        [⟨1, "failure to consume message `gone`"⟩] ∧
      Heralded plain.generation [.error "gone"] (departed (.error (.consuming "gone"))) := by
  have after : Later plain.generation (opened 1 1 [.error "gone"] attentive.notices) _ :=
    later_departed rfl
  obtain ⟨-, heralded, -⟩ := failed_stream_heralded opened_plain Nat.one_pos .now nofun rfl after
  exact ⟨opened_plain, Nat.one_pos, after, by decide, heralded⟩

/-- A stream that just ends raises nothing, though nobody has stopped the subscription or closed
the connection, and somebody listens. -/
theorem ended_stream_unheralded :
    (Subscription.opened .obliging { MessageClass.blank with enabled := true } 1
        (attentive, 1)).1 = .ok (some plain) ∧
      attentive.notices.listening = true ∧
      Later plain.generation (opened 1 1 [] attentive.notices) (departed (.ok ())) ∧
      (departed (.ok ())).retreat = .unasked ∧ (departed (.ok ())).notices.listening = true ∧
      (departed (.ok ())).AtRest ∧ (departed (.ok ())).raised = [] ∧
      (departed (.ok ())).read = [] ∧ (departed (.ok ())).notices.pending = [] :=
  ⟨opened_plain, rfl, later_departed rfl, rfl, rfl, atRest_departed _, rfl, rfl, rfl⟩

end Stint

end Redelivery
