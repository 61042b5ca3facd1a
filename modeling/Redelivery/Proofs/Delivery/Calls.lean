import Redelivery.Delivery
/-!
# The calls of a delivery

What a delivery asks of the world, with the answers, in order. A delivery has no log of
its own: `Services.recorded` are the services of which every call is written down, and
`processTried_recorded` says that nothing else changes under them.

The calls of a delivery follow one of a few courses (`Delivery.Course`), each with an end of
its own. A course says everything that a delivery can do, so what is claimed of deliveries
is read off its cases and `Delivery.process` is opened here only.

* `archive_recorded`: giving a message up takes one of the courses of `Delivery.Archival`.
* `processTried_recorded`: every delivery takes one of the courses of `Delivery.Course`.
-/

namespace Redelivery

set_option autoImplicit false

/-- A call of a delivery on its services, with the answer. -/
inductive Call where
  | handled (answer : Attempt Unit)
  | published (publication : Publication) (answer : Outcome)
  | acknowledged (answer : Outcome)
  | rejected (requeue : Bool) (answer : Outcome)

/-- A service gave the answer of the call in one of its states. -/
def Call.AnsweredBy {σ α : Type} (services : Services σ α) : Call → Prop
  | handled answer => ∃ data context state, (services.handle data context state).1 = answer
  | published publication answer => ∃ state, (services.publish publication state).1 = answer
  | acknowledged answer => ∃ state, (services.acknowledge state).1 = answer
  | rejected requeue answer => ∃ state, (services.reject requeue state).1 = answer

/-- The services with every call written down behind the earlier ones. -/
def Services.recorded {σ α : Type} (services : Services σ α) : Services (σ × List Call) α where
  propagator := services.propagator
  handle data context state :=
    let told := services.handle data context state.1
    (told.1, told.2, state.2 ++ [.handled told.1])
  publish publication state :=
    let told := services.publish publication state.1
    (told.1, told.2, state.2 ++ [.published publication told.1])
  acknowledge state :=
    let told := services.acknowledge state.1
    (told.1, told.2, state.2 ++ [.acknowledged told.1])
  reject requeue state :=
    let told := services.reject requeue state.1
    (told.1, told.2, state.2 ++ [.rejected requeue told.1])

namespace Delivery

variable {σ α : Type}

/-- The copy of a message that goes to junk: its octets, without headers. -/
def junkCopy (cls : MessageClass) (body : Octets) : Publication :=
  ⟨cls.junk.exchange, cls.junk.key, body, []⟩

/-! ## Courses -/

/-- The calls by which a message is given up, and the result. -/
inductive Archival (cls : MessageClass) (body : Octets) (disposition : Disposition) :
    List Call → Except Failure Disposition → Prop where
  /-- A class that is switched off publishes nothing. -/
  | disabled (off : cls.enabled = false) (answer : Outcome) :
      Archival cls body disposition [.rejected false answer]
        (.error (.classDisabled cls.junk.queue))
  | refused (on : cls.enabled = true) (failure : Failure) (answer : Outcome) :
      Archival cls body disposition
        [.published (junkCopy cls body) (.error failure), .rejected false answer]
        (.error (.archiving cls.junk.exchange))
  | settled (on : cls.enabled = true) :
      Archival cls body disposition
        [.published (junkCopy cls body) (.ok ()), .acknowledged (.ok ())] (.ok disposition)
  | unsettled (on : cls.enabled = true) (failure : Failure) :
      Archival cls body disposition
        [.published (junkCopy cls body) (.ok ()), .acknowledged (.error failure)] (.error failure)

/-- The calls of a delivery and its end, by what the decoder made of the body. -/
inductive Course (cls : MessageClass) (body : Octets) (count : Int) :
    Attempt α → List Call → Ending → Prop where
  /-- The decoder panicked. -/
  | abandoned (text : Option String) : Course cls body count (.panicked text) [] .panicked
  | undecodable (failure : Failure) {calls : List Call} {result : Except Failure Disposition}
      (archival : Archival cls body .unparseable calls result) :
      Course cls body count (.failed failure) calls (.returned result)
  | acknowledged (data : α) :
      Course cls body count (.done data) [.handled (.done ()), .acknowledged (.ok ())]
        (.returned (.ok .acknowledged))
  | unacknowledged (data : α) (failure : Failure) :
      Course cls body count (.done data) [.handled (.done ()), .acknowledged (.error failure)]
        (.returned (.error failure))
  | retried (data : α) (answer : Attempt Unit) (failed : answer ≠ .done ())
      (below : count < cls.limit) :
      Course cls body count (.done data) [.handled answer, .rejected false (.ok ())]
        (.returned (.ok (.retried count)))
  | unrejected (data : α) (answer : Attempt Unit) (failed : answer ≠ .done ())
      (below : count < cls.limit) (failure : Failure) :
      Course cls body count (.done data) [.handled answer, .rejected false (.error failure)]
        (.returned (.error failure))
  | exhausted (data : α) (answer : Attempt Unit) (failed : answer ≠ .done ())
      (reached : cls.limit ≤ count) {calls : List Call} {result : Except Failure Disposition}
      (archival : Archival cls body (.exhausted count) calls result) :
      Course cls body count (.done data) (.handled answer :: calls) (.returned result)

/-! ## Recording -/

/-- A recorded run beside the plain one: it reports the same, leaves the same state, and
has written down calls that the services answered. -/
structure Recorded (services : Services σ α) (plain : Report × σ) (log calls : List Call)
    (run : Report × σ × List Call) : Prop where
  report : run.1 = plain.1
  state : run.2.1 = plain.2
  log : run.2.2 = log ++ calls
  answered : ∀ call ∈ calls, call.AnsweredBy services

variable {services : Services σ α}

theorem Recorded.after {plain : Report × σ} {log calls : List Call} {run : Report × σ × List Call}
    {call : Call} (told : Recorded services plain (log ++ [call]) calls run)
    (answered : call.AnsweredBy services) : Recorded services plain log (call :: calls) run where
  report := told.report
  state := told.state
  log := by rw [told.log, List.append_assoc, List.singleton_append]
  answered := by
    intro each member
    rcases List.mem_cons.mp member with rfl | member
    · exact answered
    · exact told.answered each member

variable (services) (cls : MessageClass) (body : Octets)

theorem junk_of_disabled (off : cls.enabled = false) (context : Trace.Context) :
    Publication.junk cls body context = .error (.classDisabled cls.junk.queue) := by
  simp [Publication.junk, off]

theorem junk_of_enabled (on : cls.enabled = true) :
    Publication.junk cls body [] = .ok (junkCopy cls body) := by
  simp [Publication.junk, on, junkCopy, Trace.Context.inject]

section Archive

variable (disposition : Disposition) (span : Trace.Span) (state : σ) (log : List Call)

theorem archive_recorded_disabled (off : cls.enabled = false) :
    ∃ calls result, Archival cls body disposition calls result ∧
      (archive services cls body disposition span state).1.ending = .returned result ∧
      Recorded services (archive services cls body disposition span state) log calls
        (archive services.recorded cls body disposition span (state, log)) := by
  rcases rejected : services.reject false state with ⟨answer, next⟩
  have turned : Call.AnsweredBy services (.rejected false answer) := ⟨state, by rw [rejected]⟩
  cases answer <;> refine ⟨_, _, .disabled off _, ?_, ⟨?_, ?_, ?_, by simpa using turned⟩⟩ <;>
    simp [archive, Desk.archive, Services.desk, PublishRequest.sendJunk,
      junk_of_disabled cls body off, Services.recorded, rejected]

theorem archive_recorded_refused (on : cls.enabled = true) {refusal : Failure} {middle : σ}
    (published : services.publish (junkCopy cls body) state = (.error refusal, middle)) :
    ∃ calls result, Archival cls body disposition calls result ∧
      (archive services cls body disposition span state).1.ending = .returned result ∧
      Recorded services (archive services cls body disposition span state) log calls
        (archive services.recorded cls body disposition span (state, log)) := by
  rcases rejected : services.reject false middle with ⟨answer, next⟩
  have sent : Call.AnsweredBy services (.published (junkCopy cls body) (.error refusal)) :=
    ⟨state, by rw [published]⟩
  have turned : Call.AnsweredBy services (.rejected false answer) := ⟨middle, by rw [rejected]⟩
  cases answer <;>
    refine ⟨_, _, .refused on _ _, ?_, ⟨?_, ?_, ?_, by simpa using ⟨sent, turned⟩⟩⟩ <;>
    simp [archive, Desk.archive, Services.desk, PublishRequest.sendJunk,
      junk_of_enabled cls body on, Services.recorded, published, rejected]

theorem archive_recorded_published (on : cls.enabled = true) {middle : σ}
    (published : services.publish (junkCopy cls body) state = (.ok (), middle)) :
    ∃ calls result, Archival cls body disposition calls result ∧
      (archive services cls body disposition span state).1.ending = .returned result ∧
      Recorded services (archive services cls body disposition span state) log calls
        (archive services.recorded cls body disposition span (state, log)) := by
  rcases acknowledged : services.acknowledge middle with ⟨answer, next⟩
  have sent : Call.AnsweredBy services (.published (junkCopy cls body) (.ok ())) :=
    ⟨state, by rw [published]⟩
  have settled : Call.AnsweredBy services (.acknowledged answer) :=
    ⟨middle, by rw [acknowledged]⟩
  cases answer with
  | ok =>
      refine ⟨_, _, .settled on, ?_, ⟨?_, ?_, ?_, by simpa using ⟨sent, settled⟩⟩⟩ <;>
        simp [archive, Desk.archive, Services.desk, PublishRequest.sendJunk,
          junk_of_enabled cls body on, Services.recorded, published, acknowledged]
  | error failure =>
      refine ⟨_, _, .unsettled on failure, ?_, ⟨?_, ?_, ?_, by simpa using ⟨sent, settled⟩⟩⟩ <;>
        simp [archive, Desk.archive, Services.desk, PublishRequest.sendJunk,
          junk_of_enabled cls body on, Services.recorded, published, acknowledged]

theorem archive_recorded :
    ∃ calls result, Archival cls body disposition calls result ∧
      (archive services cls body disposition span state).1.ending = .returned result ∧
      Recorded services (archive services cls body disposition span state) log calls
        (archive services.recorded cls body disposition span (state, log)) := by
  cases on : cls.enabled with
  | false => exact archive_recorded_disabled services cls body disposition span state log on
  | true =>
      rcases published : services.publish (junkCopy cls body) state with ⟨answer, middle⟩
      cases answer with
      | error refusal =>
          exact archive_recorded_refused services cls body disposition span state log on published
      | ok =>
          exact archive_recorded_published services cls body disposition span state log on
            published

end Archive

theorem settleHandled_recorded (count : Int) (data : α) (span : Trace.Span) (state : σ)
    (log : List Call) :
    ∃ calls ending, Course cls body count (.done data) (.handled (.done ()) :: calls) ending ∧
      (settleHandled services span state).1.ending = ending ∧
      Recorded services (settleHandled services span state) log calls
        (settleHandled services.recorded span (state, log)) := by
  rcases acknowledged : services.acknowledge state with ⟨answer, next⟩
  have settled : Call.AnsweredBy services (.acknowledged answer) :=
    ⟨state, by rw [acknowledged]⟩
  cases answer with
  | ok =>
      refine ⟨_, _, .acknowledged data, ?_, ⟨?_, ?_, ?_, by simpa using settled⟩⟩ <;>
        simp [settleHandled, Desk.settleHandled, Services.desk, Services.recorded, acknowledged]
  | error failure =>
      refine ⟨_, _, .unacknowledged data failure, ?_, ⟨?_, ?_, ?_, by simpa using settled⟩⟩ <;>
        simp [settleHandled, Desk.settleHandled, Services.desk, Services.recorded, acknowledged]

theorem settleFailed_recorded (count : Int) (data : α) (answer : Attempt Unit)
    (failed : answer ≠ .done ()) (failure : Failure) (span : Trace.Span) (state : σ)
    (log : List Call) :
    ∃ calls ending, Course cls body count (.done data) (.handled answer :: calls) ending ∧
      (settleFailed services cls body count failure span state).1.ending = ending ∧
      Recorded services (settleFailed services cls body count failure span state) log calls
        (settleFailed services.recorded cls body count failure span (state, log)) := by
  by_cases below : count < cls.limit
  · rcases rejected : services.reject false state with ⟨answer, next⟩
    have turned : Call.AnsweredBy services (.rejected false answer) := ⟨state, by rw [rejected]⟩
    cases answer with
    | ok =>
        refine ⟨_, _, .retried data _ failed below, ?_, ⟨?_, ?_, ?_, by simpa using turned⟩⟩ <;>
          simp [settleFailed, Desk.settleFailed, Services.desk, below, Services.recorded, rejected]
    | error second =>
        refine ⟨_, _, .unrejected data _ failed below second, ?_,
          ⟨?_, ?_, ?_, by simpa using turned⟩⟩ <;>
          simp [settleFailed, Desk.settleFailed, Services.desk, below, Services.recorded, rejected]
  · obtain ⟨calls, result, archival, ends, told⟩ := archive_recorded services cls body
      (.exhausted count) ((span.record (.failure failure)).record (.failed "retries exhausted"))
      state log
    simp only [settleFailed, Desk.settleFailed, below, if_false]
    exact ⟨calls, _, .exhausted data _ failed (Int.not_lt.mp below) archival, ends, told⟩

/-- Every delivery takes one of the courses, and its report and state are those of the
services that record nothing. -/
theorem processTried_recorded (decode : Octets → Attempt α) (count : Int) (message : Message)
    (state : σ) (log : List Call) :
    ∃ calls ending, Course cls message.body count (decode message.body) calls ending ∧
      (processTried services cls decode count message state).1.ending = ending ∧
      Recorded services (processTried services cls decode count message state) log calls
        (processTried services.recorded cls decode count message (state, log)) := by
  cases decoded : decode message.body with
  | panicked text =>
      simp only [processTried, Desk.processTried, decoded]
      exact ⟨[], _, .abandoned text, rfl, rfl, rfl, by simp, by simp⟩
  | failed failure =>
      simp only [processTried, Desk.processTried, decoded]
      obtain ⟨calls, result, archival, ends, told⟩ := archive_recorded services cls message.body
        .unparseable _ state log
      exact ⟨calls, _, .undecodable failure archival, ends, told⟩
  | done data =>
      rcases handled : services.handle data (Trace.Span.opened services.propagator
        cls.direct.queue message.headers).parent state with ⟨answer, middle⟩
      have asked : Call.AnsweredBy services (.handled answer) := ⟨data, _, state, by rw [handled]⟩
      simp only [processTried, Desk.processTried, decoded, Services.desk, Services.recorded,
        handled]
      cases answer with
      | done =>
          obtain ⟨calls, ending, course, ends, told⟩ := settleHandled_recorded services cls
            message.body count data _ middle (log ++ [.handled (.done ())])
          exact ⟨_, _, course, ends, told.after asked⟩
      | failed failure =>
          obtain ⟨calls, ending, course, ends, told⟩ := settleFailed_recorded services cls
            message.body count data (.failed failure) (by simp) failure _ middle
            (log ++ [.handled (.failed failure)])
          exact ⟨_, _, course, ends, told.after asked⟩
      | panicked text =>
          obtain ⟨calls, ending, course, ends, told⟩ := settleFailed_recorded services cls
            message.body count data (.panicked text) (by simp) (panicFailure text) _ middle
            (log ++ [.handled (.panicked text)])
          exact ⟨_, _, course, ends, told.after asked⟩

end Delivery

end Redelivery
