import Redelivery.Delivery
/-!
# The errands of a delivery

A delivery runs errands at its desk: it has the message handled, sends a copy to junk, and
settles the message. `Desk.noted` is a desk at which every errand is written down with its
answer. The answers are any answers, so every combination of failures is among the runs, and the
number of earlier tries is any number, so all of this holds under every counter.

`Served` lists the ways that a delivery can go, each with its errands, with what it records on
its span, and with its end. All that is said of one delivery is read off these cases.

* `Desk.processTried_served`: every delivery goes one of these ways, and it goes the same way at
  a desk where nothing is written down.
* `Desk.settles_once`: the message is settled by one errand, junk is asked for exactly when it
  is due, and the result is the first failure or what was intended.
-/

namespace Redelivery

set_option autoImplicit false

/-- An errand at a desk, with the answer. -/
inductive Desk.Errand (α : Type) where
  | handled (data : α) (answer : Attempt Unit)
  | junked (cls : MessageClass) (body : Octets) (answer : Outcome)
  | acknowledged (answer : Outcome)
  | rejected (requeue : Bool) (answer : Outcome)

namespace Desk.Errand

variable {α : Type}

def handles : Desk.Errand α → Bool
  | handled _ _ => true
  | _ => false

def junks : Desk.Errand α → Bool
  | junked _ _ _ => true
  | _ => false

def settles : Desk.Errand α → Bool
  | acknowledged _ | rejected _ _ => true
  | _ => false

/-- What went wrong with an errand other than the handling of the message. -/
def fault? : Desk.Errand α → Option Failure
  | handled _ _ => none
  | junked _ _ answer | acknowledged answer | rejected _ answer =>
      match answer with
      | .ok () => none
      | .error failure => some failure

/-- What went wrong with an errand. -/
def failure? : Desk.Errand α → Option Failure
  | handled _ (.failed failure) => some failure
  | handled _ (.panicked text) => some (Delivery.panicFailure text)
  | errand => errand.fault?

end Desk.Errand

namespace Desk

variable {σ α : Type}

/-- The desk with every errand written down behind the earlier ones. -/
def noted (desk : Desk σ α) : Desk (σ × List (Errand α)) α where
  propagator := desk.propagator
  handle data context state :=
    let told := desk.handle data context state.1
    (told.1, told.2, state.2 ++ [.handled data told.1])
  sendJunk cls body state :=
    let told := desk.sendJunk cls body state.1
    (told.1, told.2, state.2 ++ [.junked cls body told.1])
  acknowledge state :=
    let told := desk.acknowledge state.1
    (told.1, told.2, state.2 ++ [.acknowledged told.1])
  reject requeue state :=
    let told := desk.reject requeue state.1
    (told.1, told.2, state.2 ++ [.rejected requeue told.1])

/-- The errands of a delivery of a message that was tried `count` times before, in order. -/
def errands (desk : Desk σ α) (cls : MessageClass) (decode : Octets → Attempt α) (count : Int)
    (message : Message) (state : σ) : List (Errand α) :=
  (desk.noted.processTried cls decode count message (state, [])).2.2

end Desk

/-! ## The ways of a delivery -/

/-- The errands by which a message is given up, what they leave on the span, and the result. -/
inductive Archived {α : Type} (cls : MessageClass) (body : Octets) (disposition : Disposition) :
    List (Desk.Errand α) → List Trace.SpanEvent → Except Failure Disposition → Prop where
  | refused (failure : Failure) :
      Archived cls body disposition [.junked cls body (.error failure), .rejected false (.ok ())]
        [.failure failure] (.error failure)
  /-- Junk took no copy, and the message could not be rejected either. -/
  | stranded (failure second : Failure) :
      Archived cls body disposition
        [.junked cls body (.error failure), .rejected false (.error second)]
        [.failure failure, .failure second] (.error failure)
  | settled :
      Archived cls body disposition [.junked cls body (.ok ()), .acknowledged (.ok ())] []
        (.ok disposition)
  | unsettled (failure : Failure) :
      Archived cls body disposition
        [.junked cls body (.ok ()), .acknowledged (.error failure)] [.failure failure]
        (.error failure)

/-- The failure that the handling of a message comes to. -/
inductive Failed : Attempt Unit → Failure → Prop where
  | failed (failure : Failure) : Failed (.failed failure) failure
  | panicked (text : Option String) : Failed (.panicked text) (Delivery.panicFailure text)

/-- The errands of a delivery, what it records on its span and its end, by what the decoder
made of the body. -/
inductive Served {α : Type} (cls : MessageClass) (body : Octets) (count : Int) :
    Attempt α → List (Desk.Errand α) → List Trace.SpanEvent → Ending → Prop where
  /-- The decoder panicked. -/
  | abandoned (text : Option String) : Served cls body count (.panicked text) [] [] .panicked
  | undecodable (failure : Failure) {errands : List (Desk.Errand α)} {events : List Trace.SpanEvent}
      {result : Except Failure Disposition}
      (archived : Archived cls body .unparseable errands events result) :
      Served cls body count (.failed failure) errands
        (.failure failure :: .failed "unparseable message" :: events) (.returned result)
  | acknowledged (data : α) :
      Served cls body count (.done data) [.handled data (.done ()), .acknowledged (.ok ())]
        [.succeeded] (.returned (.ok .acknowledged))
  | unacknowledged (data : α) (failure : Failure) :
      Served cls body count (.done data) [.handled data (.done ()), .acknowledged (.error failure)]
        [.failure failure, .failed "error to ack msg"] (.returned (.error failure))
  | retried (data : α) {answer : Attempt Unit} {failure : Failure} (failed : Failed answer failure)
      (below : count < cls.limit) :
      Served cls body count (.done data) [.handled data answer, .rejected false (.ok ())]
        [.failure failure, .failed "requeuing msg for latter"] (.returned (.ok (.retried count)))
  | unrejected (data : α) {answer : Attempt Unit} {failure : Failure}
      (failed : Failed answer failure) (below : count < cls.limit) (second : Failure) :
      Served cls body count (.done data) [.handled data answer, .rejected false (.error second)]
        [.failure failure, .failed "requeuing msg for latter", .failure second]
        (.returned (.error second))
  | exhausted (data : α) {answer : Attempt Unit} {failure : Failure}
      (failed : Failed answer failure) (reached : cls.limit ≤ count)
      {errands : List (Desk.Errand α)} {events : List Trace.SpanEvent}
      {result : Except Failure Disposition}
      (archived : Archived cls body (.exhausted count) errands events result) :
      Served cls body count (.done data) (.handled data answer :: errands)
        (.failure failure :: .failed "retries exhausted" :: events) (.returned result)

/-! ## Writing down -/

namespace Desk

variable {σ α : Type}

/-- A run beside the same run with its errands written down: both report the same and leave the
same state. The errands and what the span records come behind the earlier ones. -/
structure Noted (plain : Report × σ) (span : Trace.Span) (log errands : List (Errand α))
    (events : List Trace.SpanEvent) (ending : Ending) (run : Report × σ × List (Errand α)) :
    Prop where
  run : run = (plain.1, plain.2, log ++ errands)
  report : plain.1 = ⟨ending, { span with events := span.events ++ events }⟩

theorem Noted.after {plain : Report × σ} {span : Trace.Span} {log errands : List (Errand α)}
    {errand : Errand α} {events : List Trace.SpanEvent} {ending : Ending}
    {run : Report × σ × List (Errand α)}
    (noted : Noted plain span (log ++ [errand]) errands events ending run) :
    Noted plain span log (errand :: errands) events ending run where
  run := by simpa using noted.run
  report := noted.report

variable (desk : Desk σ α) (cls : MessageClass) (body : Octets) (span : Trace.Span) (state : σ)
  (log : List (Errand α))

theorem archive_served (disposition : Disposition) :
    ∃ errands events result, Archived cls body disposition errands events result ∧
      Noted (desk.archive cls body disposition span state) span log errands events
        (.returned result) (desk.noted.archive cls body disposition span (state, log)) := by
  rcases copied : desk.sendJunk cls body state with ⟨failure | _, middle⟩
  · rcases rejected : desk.reject false middle with ⟨second | _, last⟩
    · refine ⟨_, _, _, .stranded failure second, ?_, ?_⟩ <;>
        simp [archive, noted, copied, rejected, Trace.Span.record]
    · refine ⟨_, _, _, .refused failure, ?_, ?_⟩ <;>
        simp [archive, noted, copied, rejected, Trace.Span.record]
  · rcases acknowledged : desk.acknowledge middle with ⟨failure | _, last⟩
    · refine ⟨_, _, _, .unsettled failure, ?_, ?_⟩ <;>
        simp [archive, noted, copied, acknowledged, Trace.Span.record]
    · refine ⟨_, _, _, .settled, ?_, ?_⟩ <;>
        simp [archive, noted, copied, acknowledged]

theorem settleHandled_served (count : Int) (data : α) :
    ∃ errands events ending,
      Served cls body count (.done data) (.handled data (.done ()) :: errands) events ending ∧
      Noted (desk.settleHandled span state) span log errands events ending
        (desk.noted.settleHandled span (state, log)) := by
  rcases acknowledged : desk.acknowledge state with ⟨failure | _, last⟩
  · refine ⟨_, _, _, .unacknowledged data failure, ?_, ?_⟩ <;>
      simp [settleHandled, noted, acknowledged, Trace.Span.record]
  · refine ⟨_, _, _, .acknowledged data, ?_, ?_⟩ <;>
      simp [settleHandled, noted, acknowledged, Trace.Span.record]

theorem settleFailed_served (count : Int) (data : α) {answer : Attempt Unit} {failure : Failure}
    (failed : Failed answer failure) :
    ∃ errands events ending,
      Served cls body count (.done data) (.handled data answer :: errands) events ending ∧
      Noted (desk.settleFailed cls body count failure span state) span log errands events ending
        (desk.noted.settleFailed cls body count failure span (state, log)) := by
  by_cases below : count < cls.limit
  · rcases rejected : desk.reject false state with ⟨second | _, last⟩
    · refine ⟨_, _, _, .unrejected data failed below second, ?_, ?_⟩ <;>
        simp [settleFailed, noted, below, rejected, Trace.Span.record]
    · refine ⟨_, _, _, .retried data failed below, ?_, ?_⟩ <;>
        simp [settleFailed, noted, below, rejected, Trace.Span.record]
  · obtain ⟨errands, events, result, archived, run, report⟩ := archive_served desk cls body
      ((span.record (.failure failure)).record (.failed "retries exhausted")) state log
      (.exhausted count)
    refine ⟨errands, _, _, .exhausted data failed (Int.not_lt.mp below) archived, ?_, ?_⟩
    · simpa only [settleFailed, below, if_false] using run
    · simpa [settleFailed, below, Trace.Span.record] using report

/-- Every delivery goes one of its ways, whether or not its errands are written down. -/
theorem processTried_served (decode : Octets → Attempt α) (count : Int) (message : Message) :
    ∃ errands events ending,
      Served cls message.body count (decode message.body) errands events ending ∧
      Noted (desk.processTried cls decode count message state)
        (Trace.Span.opened desk.propagator cls.direct.queue message.headers) log errands events
        ending (desk.noted.processTried cls decode count message (state, log)) := by
  have same : desk.noted.propagator = desk.propagator := rfl
  simp only [processTried, same]
  generalize Trace.Span.opened desk.propagator cls.direct.queue message.headers = span
  cases decode message.body with
  | panicked text =>
      refine ⟨[], [], _, .abandoned text, ?_, ?_⟩ <;> simp
  | failed failure =>
      obtain ⟨errands, events, result, archived, run, report⟩ := archive_served desk cls
        message.body ((span.record (.failure failure)).record (.failed "unparseable message"))
        state log .unparseable
      refine ⟨errands, _, _, .undecodable failure archived, run, ?_⟩
      simpa [Trace.Span.record] using report
  | done data =>
      rcases handled : desk.handle data span.parent state with ⟨answer, middle⟩
      have written : desk.noted.handle data span.parent (state, log) =
          (answer, middle, log ++ [.handled data answer]) := by
        simp [noted, handled]
      simp only [handled, written]
      cases answer with
      | done =>
          obtain ⟨errands, events, ending, served, noted⟩ := settleHandled_served desk cls
            message.body span middle (log ++ [.handled data (.done ())]) count data
          exact ⟨_, _, _, served, noted.after⟩
      | failed failure =>
          obtain ⟨errands, events, ending, served, noted⟩ := settleFailed_served desk cls
            message.body span middle (log ++ [.handled data (.failed failure)]) count data
            (.failed failure)
          exact ⟨_, _, _, served, noted.after⟩
      | panicked text =>
          obtain ⟨errands, events, ending, served, noted⟩ := settleFailed_served desk cls
            message.body span middle (log ++ [.handled data (.panicked text)]) count data
            (.panicked text)
          exact ⟨_, _, _, served, noted.after⟩

section Process

variable (decode : Octets → Attempt α) (count : Int) (message : Message)

/-- To write the errands down changes neither the report nor the state. -/
theorem processTried_noted :
    desk.noted.processTried cls decode count message (state, []) =
      ((desk.processTried cls decode count message state).1,
        (desk.processTried cls decode count message state).2,
        desk.errands cls decode count message state) := by
  obtain ⟨errands, events, ending, -, run, -⟩ :=
    processTried_served desk cls state [] decode count message
  rw [Desk.errands, run]

/-- The errands of a delivery, what its span records and its end are those of one of its ways. -/
theorem served_of_processTried :
    ∃ events ending,
      Served cls message.body count (decode message.body)
        (desk.errands cls decode count message state) events ending ∧
      (desk.processTried cls decode count message state).1 =
        ⟨ending, { Trace.Span.opened desk.propagator cls.direct.queue message.headers with
          events := events }⟩ := by
  obtain ⟨errands, events, ending, served, run, report⟩ :=
    processTried_served desk cls state [] decode count message
  have written : desk.errands cls decode count message state = errands := by
    rw [Desk.errands, run, List.nil_append]
  rw [written]
  exact ⟨events, ending, served, report⟩

end Process

end Desk

/-! ## The law of settlement -/

section Settlement

variable {α : Type} {cls : MessageClass} {body : Octets} {count : Int} {decoded : Attempt α}
  {errands : List (Desk.Errand α)} {events : List Trace.SpanEvent} {ending : Ending}
  {disposition : Disposition} {result : Except Failure Disposition}

/-- What a delivery comes to if none of its errands but the handling fails. -/
def intended (limit count : Int) : List (Desk.Errand α) → Disposition
  | .handled _ (.done ()) :: _ => .acknowledged
  | .handled _ _ :: _ => if count < limit then .retried count else .exhausted count
  | _ => .unparseable

/-- Every acknowledgement stands behind a success: the message was handled, or junk took its
copy. -/
def Earned (errands : List (Desk.Errand α)) : Prop :=
  ∀ earlier answer later, errands = earlier ++ .acknowledged answer :: later →
    (∃ data, .handled data (.done ()) ∈ earlier) ∨ ∃ cls body, .junked cls body (.ok ()) ∈ earlier

/-- What holds of the errands of a delivery and of its end. -/
structure SettlesOnce (cls : MessageClass) (body : Octets) (count : Int) (decoded : Attempt α)
    (errands : List (Desk.Errand α)) (ending : Ending) : Prop where
  /-- There is one acknowledgement or one rejection. -/
  once : errands.countP Desk.Errand.settles = 1
  /-- A rejection never asks the broker to queue the message again. -/
  unqueued : ∀ requeue answer, .rejected requeue answer ∈ errands → requeue = false
  earned : Earned errands
  handledOnce : errands.countP Desk.Errand.handles ≤ 1
  handled : ∀ data, (∃ answer, .handled data answer ∈ errands) ↔ decoded = .done data
  junkedOnce : errands.countP Desk.Errand.junks ≤ 1
  unchanged : ∀ cls' body' answer, .junked cls' body' answer ∈ errands → cls' = cls ∧ body' = body
  junked : (∃ cls body answer, .junked cls body answer ∈ errands) ↔
    (∃ failure, decoded = .failed failure) ∨
      ∃ data answer, .handled data answer ∈ errands ∧ answer ≠ .done () ∧ cls.limit ≤ count
  /-- The result is the first failure of an errand other than the handling. -/
  ended : ending = .returned
    (match errands.findSome? Desk.Errand.fault? with
      | some failure => .error failure
      | none => .ok (intended cls.limit count errands))

theorem Failed.ne_done {answer : Attempt Unit} {failure : Failure}
    (failed : Failed answer failure) :
    answer ≠ .done () := by
  cases failed <;> nofun

theorem Archived.once (archived : Archived cls body disposition errands events result) :
    errands.countP Desk.Errand.settles = 1 ∧ errands.countP Desk.Errand.handles = 0 ∧
      errands.countP Desk.Errand.junks = 1 := by
  cases archived <;> exact ⟨rfl, rfl, rfl⟩

theorem Archived.unqueued (archived : Archived cls body disposition errands events result) :
    ∀ requeue answer, .rejected requeue answer ∈ errands → requeue = false := by
  cases archived <;> simp

theorem Archived.unhandled (archived : Archived cls body disposition errands events result)
    (data : α) (answer : Attempt Unit) : .handled data answer ∉ errands := by
  cases archived <;> simp

theorem Archived.junked_iff (archived : Archived cls body disposition errands events result)
    (cls' : MessageClass) (body' : Octets) :
    (∃ answer, .junked cls' body' answer ∈ errands) ↔ cls' = cls ∧ body' = body := by
  cases archived <;> simp

theorem Archived.result_eq (archived : Archived cls body disposition errands events result) :
    result = match errands.findSome? Desk.Errand.fault? with
      | some failure => .error failure
      | none => .ok disposition := by
  cases archived <;> rfl

/-- A message that is given up before it was handled could not be decoded. -/
theorem Archived.intended_eq (archived : Archived cls body disposition errands events result)
    (limit : Int) : intended limit count errands = .unparseable := by
  cases archived <;> rfl

theorem Earned.after {errand : Desk.Errand α} (earned : Earned errands)
    (other : ∀ answer, errand ≠ .acknowledged answer) : Earned (errand :: errands) := by
  intro earlier answer later split
  cases earlier with
  | nil =>
      cases split
      exact absurd rfl (other answer)
  | cons first rest =>
      cases split
      refine (earned rest answer later rfl).imp ?_ ?_
      · rintro ⟨data, member⟩
        exact ⟨data, List.mem_cons_of_mem _ member⟩
      · rintro ⟨cls, body, member⟩
        exact ⟨cls, body, List.mem_cons_of_mem _ member⟩

theorem Earned.pair {first : Desk.Errand α} (answer : Outcome)
    (success : (∃ data, first = .handled data (.done ())) ∨
      ∃ cls body, first = .junked cls body (.ok ())) : Earned [first, .acknowledged answer] := by
  intro earlier answer' later split
  have placed : earlier = [first] := by
    match earlier with
    | [] =>
        cases split
        rcases success with ⟨_, impossible⟩ | ⟨_, _, impossible⟩ <;> cases impossible
    | [_] =>
        cases split
        rfl
    | _ :: _ :: rest => simp at split
  rw [placed]
  refine success.imp ?_ ?_
  · rintro ⟨data, rfl⟩
    exact ⟨data, List.mem_singleton_self _⟩
  · rintro ⟨cls, body, rfl⟩
    exact ⟨cls, body, List.mem_singleton_self _⟩

theorem Earned.none (unacknowledged : ∀ answer, .acknowledged answer ∉ errands) :
    Earned errands := by
  rintro earlier answer later rfl
  exact absurd (List.mem_append_right _ List.mem_cons_self) (unacknowledged answer)

theorem Archived.earned (archived : Archived cls body disposition errands events result) :
    Earned errands := by
  cases archived with
  | refused failure | stranded failure second => exact .none (by simp)
  | settled | unsettled failure => exact .pair _ (.inr ⟨cls, body, rfl⟩)

theorem settlesOnce_handled {data : α} {answer : Attempt Unit} {last : Desk.Errand α}
    (settles : last.settles = true) (unqueued : ∀ answer, last ≠ .rejected true answer)
    (earned : Earned [.handled data answer, last])
    (unjunked : answer = .done () ∨ count < cls.limit)
    (ended : ending = .returned
      (match last.fault? with
        | some failure => .error failure
        | none => .ok (intended cls.limit count [.handled data answer, last]))) :
    SettlesOnce cls body count (.done data) [.handled data answer, last] ending := by
  cases last with
  | handled _ _ | junked _ _ _ => cases settles
  | acknowledged reply =>
      refine ⟨rfl, by simp, earned, Nat.le_refl 1, by simp [eq_comm], Nat.zero_le 1, by simp,
        ?_, ?_⟩
      · rcases unjunked with rfl | below
        · simp
        · simp [Int.not_le.mpr below]
      · cases reply <;> exact ended
  | rejected requeue reply =>
      have lets : requeue = false := by
        cases requeue with
        | false => rfl
        | true => exact absurd rfl (unqueued reply)
      refine ⟨rfl, by simp [lets], earned, Nat.le_refl 1, by simp [eq_comm], Nat.zero_le 1, by simp,
        ?_, ?_⟩
      · rcases unjunked with rfl | below
        · simp
        · simp [Int.not_le.mpr below]
      · cases reply <;> exact ended

theorem intended_failed {data : α} {answer : Attempt Unit} {failure : Failure}
    (failed : Failed answer failure) (limit : Int) :
    intended limit count (.handled data answer :: errands) =
      if count < limit then .retried count else .exhausted count := by
  cases failed <;> rfl

theorem settlesOnce_exhausted {data : α} {answer : Attempt Unit} {failure : Failure}
    (failed : Failed answer failure) (reached : cls.limit ≤ count)
    (archived : Archived cls body (.exhausted count) errands events result) :
    SettlesOnce cls body count (.done data) (.handled data answer :: errands)
      (.returned result) := by
  obtain ⟨once, unhandled, junked⟩ := archived.once
  have copied := archived.junked_iff
  refine ⟨?_, ?_, archived.earned.after nofun, ?_, ?_, ?_, ?_, ?_, ?_⟩
  · simpa [Desk.Errand.settles] using once
  · simpa using archived.unqueued
  · refine Nat.le_of_eq ?_
    rw [List.countP_cons_of_pos rfl, unhandled]
  · simp [archived.unhandled, eq_comm]
  · simp [Desk.Errand.junks, junked]
  · intro cls' body' answer' member
    exact (copied cls' body').mp ⟨answer', by simpa using member⟩
  · refine ⟨fun _ => .inr ⟨data, answer, List.mem_cons_self, failed.ne_done, reached⟩, fun _ => ?_⟩
    obtain ⟨answer', member⟩ := (copied cls body).mpr ⟨rfl, rfl⟩
    exact ⟨cls, body, answer', List.mem_cons_of_mem _ member⟩
  · rw [archived.result_eq, intended_failed failed, if_neg (Int.not_lt.mpr reached)]
    rfl

/-- A delivery settles its message by the law, in each of its ways, unless the decoder
panics. -/
theorem Served.settlesOnce (served : Served cls body count decoded errands events ending)
    (reads : ∀ text, decoded ≠ .panicked text) :
    SettlesOnce cls body count decoded errands ending := by
  cases served with
  | abandoned text => exact absurd rfl (reads text)
  | undecodable failure archived =>
      obtain ⟨once, unhandled, junked⟩ := archived.once
      have copied := archived.junked_iff
      refine ⟨once, archived.unqueued, archived.earned, by omega, ?_, by omega, ?_, ?_, ?_⟩
      · intro data
        simp [archived.unhandled data]
      · exact fun cls' body' answer member => (copied cls' body').mp ⟨answer, member⟩
      · exact ⟨fun _ => .inl ⟨failure, rfl⟩, fun _ => ⟨cls, body, (copied cls body).mpr ⟨rfl, rfl⟩⟩⟩
      · rw [archived.result_eq, archived.intended_eq]
  | acknowledged data | unacknowledged data failure =>
      exact settlesOnce_handled rfl nofun (.pair _ (.inl ⟨data, rfl⟩)) (.inl rfl) rfl
  | retried data failed below =>
      refine settlesOnce_handled rfl nofun (.none (by simp)) (.inr below) ?_
      rw [intended_failed failed, if_pos below]
      rfl
  | unrejected data failed below second =>
      exact settlesOnce_handled rfl nofun (.none (by simp)) (.inr below) rfl
  | exhausted data failed reached archived => exact settlesOnce_exhausted failed reached archived

/-- **One delivery settles its message once**, whatever its class, its headers and its handler
are, however often its counter says that it was tried, and whatever its errands come to. It
acknowledges only behind a success and never rejects for another place in the queue. Junk is
asked for a copy of the body exactly if the body could not be decoded or the handling failed at
the limit, the handler is asked exactly if it could, and both only once. The result is the first
failure of a copy, an acknowledgement or a rejection, or else what was intended. -/
theorem Desk.settles_once {σ : Type} (desk : Desk σ α) (cls : MessageClass)
    (decode : Octets → Attempt α) (count : Int) (message : Message) (state : σ)
    (reads : ∀ text, decode message.body ≠ .panicked text) :
    desk.noted.processTried cls decode count message (state, []) =
        ((desk.processTried cls decode count message state).1,
          (desk.processTried cls decode count message state).2,
          desk.errands cls decode count message state) ∧
      SettlesOnce cls message.body count (decode message.body)
        (desk.errands cls decode count message state)
        (desk.processTried cls decode count message state).1.ending := by
  obtain ⟨events, ending, served, report⟩ :=
    served_of_processTried desk cls state decode count message
  refine ⟨processTried_noted desk cls state decode count message, ?_⟩
  rw [report]
  exact served.settlesOnce reads

/-- A desk where nothing succeeds. -/
def Desk.broken : Desk Unit α where
  propagator := .standard
  handle _ _ state := (.failed (.handling "boom"), state)
  sendJunk cls _ state := (.error (.archiving cls.junk.exchange), state)
  acknowledge state := (.error .acknowledging, state)
  reject _ state := (.error .rejecting, state)

/-- Three failures in one delivery: the message is rejected once, and the result is that
junk took no copy. -/
theorem Desk.settles_once_broken :
    (∀ text, Attempt.done [1, 2] ≠ (.panicked text : Attempt Octets)) ∧
      Desk.broken.errands .blank .done 1 ⟨[1, 2], [], true⟩ () =
        [.handled [1, 2] (.failed (.handling "boom")),
          .junked .blank [1, 2] (.error (.archiving "")), .rejected false (.error .rejecting)] ∧
      (Desk.broken.processTried .blank .done 1 ⟨[1, 2], [], true⟩ ()).1.ending =
        .returned (.error (.archiving "")) ∧
      SettlesOnce .blank [1, 2] 1 (.done [1, 2])
        (Desk.broken.errands .blank .done 1 ⟨[1, 2], [], true⟩ ())
        (Desk.broken.processTried .blank .done 1 ⟨[1, 2], [], true⟩ ()).1.ending :=
  ⟨nofun, rfl, rfl,
    (Desk.settles_once Desk.broken .blank .done 1 ⟨[1, 2], [], true⟩ () nofun).2⟩

end Settlement

end Redelivery
