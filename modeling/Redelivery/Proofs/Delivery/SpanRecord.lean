import Redelivery.Proofs.Delivery.Errands
/-!
# What a span tells of its delivery

The span of a delivery has its status set once, and an exception for every failure of the
delivery, in the order in which the failures happened: the decoder's, the handler's, and those
of a copy for junk, an acknowledgement and a rejection. The status is good exactly if the
message was handled and acknowledged, and then there is no exception.

* `Served.tellsTruth`: what the span records in each of the ways of a delivery.
* `Desk.span_tells_truth`: the same of every delivery, whatever its errands come to.
-/

namespace Redelivery

set_option autoImplicit false

namespace Trace.SpanEvent

def setsStatus : SpanEvent → Bool
  | succeeded | failed _ => true
  | failure _ => false

def exception? : SpanEvent → Option String
  | failure cause => some cause.message
  | succeeded | failed _ => none

end Trace.SpanEvent

open Trace (SpanEvent)

variable {α : Type} {cls : MessageClass} {body : Octets} {count : Int} {decoded : Attempt α}
  {errands : List (Desk.Errand α)} {events : List SpanEvent} {ending : Ending}
  {disposition : Disposition} {result : Except Failure Disposition}

def exceptions (events : List SpanEvent) : List String := events.filterMap SpanEvent.exception?

/-- All that went wrong in a delivery, in order. -/
def failures (decoded : Attempt α) (errands : List (Desk.Errand α)) : List Failure :=
  (match decoded with
    | .failed failure => [failure]
    | .done _ | .panicked _ => []) ++ errands.filterMap Desk.Errand.failure?

/-- What holds of the events on a span, beside the errands and the end of its delivery. -/
structure TellsTruth (decoded : Attempt α) (errands : List (Desk.Errand α))
    (events : List SpanEvent) (ending : Ending) : Prop where
  /-- The status is set once. -/
  once : events.countP SpanEvent.setsStatus = 1
  succeeded : .succeeded ∈ events ↔ ending = .returned (.ok .acknowledged)
  unblemished : .succeeded ∈ events → exceptions events = []
  blemished : .succeeded ∉ events →
    (∃ description, .failed description ∈ events) ∧ exceptions events ≠ []
  returned : ∀ failure, ending = .returned (.error failure) → failure.message ∈ exceptions events
  /-- Every failure has its exception, in the order in which they happened. -/
  whole : exceptions events = (failures decoded errands).map Failure.message

/-! ## What is recorded of failures -/

theorem exceptions_failures (causes : List Failure) :
    exceptions (causes.map SpanEvent.failure) = causes.map Failure.message := by
  simp [exceptions, List.filterMap_map, Function.comp_def, SpanEvent.exception?]

theorem countP_failures (causes : List Failure) :
    (causes.map SpanEvent.failure).countP SpanEvent.setsStatus = 0 := by
  simp [List.countP_eq_zero, SpanEvent.setsStatus]

theorem Archived.events_eq (archived : Archived cls body disposition errands events result) :
    events = (errands.filterMap Desk.Errand.failure?).map SpanEvent.failure := by
  cases archived <;> rfl

theorem Archived.mem_of_error (archived : Archived cls body disposition errands events result)
    {failure : Failure} (returned : result = .error failure) :
    failure ∈ errands.filterMap Desk.Errand.failure? := by
  cases archived <;> cases returned <;> exact List.mem_cons_self

theorem Archived.ne_acknowledged (archived : Archived cls body disposition errands events result)
    (other : disposition ≠ .acknowledged) : result ≠ .ok .acknowledged := by
  cases archived <;> simp [other]

theorem Failed.failures_eq {answer : Attempt Unit} {failure : Failure}
    (failed : Failed answer failure) (data : α) :
    failures (.done data) (.handled data answer :: errands) =
      failure :: errands.filterMap Desk.Errand.failure? := by
  cases failed <;> rfl

/-- A delivery that failed first, then had its status set, and then failed some more. -/
theorem tellsTruth_of_failures (first : Failure) (further : List Failure) (description : String)
    (all : failures decoded errands = first :: further)
    (unsuccessful : ending ≠ .returned (.ok .acknowledged))
    (told : ∀ failure, ending = .returned (.error failure) → failure ∈ first :: further) :
    TellsTruth decoded errands
      (.failure first :: .failed description :: further.map SpanEvent.failure) ending := by
  have texts : exceptions
      (.failure first :: .failed description :: further.map SpanEvent.failure) =
        (first :: further).map Failure.message := by
    rw [List.map_cons, ← exceptions_failures]
    rfl
  have silent : SpanEvent.succeeded ∉
      (.failure first :: .failed description :: further.map SpanEvent.failure) := by simp
  refine ⟨?_, ?_, ?_, ?_, ?_, ?_⟩
  · rw [List.countP_cons_of_neg (by simp [SpanEvent.setsStatus]), List.countP_cons_of_pos rfl,
      countP_failures]
  · exact ⟨fun member => absurd member silent, fun acknowledged => absurd acknowledged unsuccessful⟩
  · exact fun member => absurd member silent
  · refine fun _ => ⟨⟨description, by simp⟩, ?_⟩
    rw [texts]
    exact List.cons_ne_nil _ _
  · intro failure returned
    rw [texts]
    exact List.mem_map_of_mem (told failure returned)
  · rw [texts, all]

/-- A span tells the truth in each of the ways of its delivery, unless the decoder panics. -/
theorem Served.tellsTruth (served : Served cls body count decoded errands events ending)
    (reads : ∀ text, decoded ≠ .panicked text) : TellsTruth decoded errands events ending := by
  cases served with
  | abandoned text => exact absurd rfl (reads text)
  | undecodable failure archived =>
      rw [archived.events_eq]
      refine tellsTruth_of_failures _ _ _ rfl ?_ ?_
      · exact fun acknowledged => archived.ne_acknowledged nofun (Ending.returned.inj acknowledged)
      · exact fun failure returned =>
          List.mem_cons_of_mem _ (archived.mem_of_error (Ending.returned.inj returned))
  | acknowledged data =>
      exact ⟨rfl, by simp, fun _ => rfl, fun silent => absurd List.mem_cons_self silent, nofun, rfl⟩
  | unacknowledged data failure =>
      refine tellsTruth_of_failures _ [] _ rfl nofun ?_
      rintro _ ⟨⟩
      exact List.mem_cons_self
  | @retried data answer failure failed below =>
      exact tellsTruth_of_failures _ [] _ (failed.failures_eq data) nofun nofun
  | @unrejected data answer failure failed below second =>
      refine tellsTruth_of_failures _ [second] _ (failed.failures_eq data) nofun ?_
      rintro _ ⟨⟩
      exact List.mem_cons_of_mem _ List.mem_cons_self
  | @exhausted data answer failure failed reached errands events result archived =>
      rw [archived.events_eq]
      refine tellsTruth_of_failures _ _ _ (failed.failures_eq data) ?_ ?_
      · exact fun acknowledged => archived.ne_acknowledged nofun (Ending.returned.inj acknowledged)
      · exact fun failure returned =>
          List.mem_cons_of_mem _ (archived.mem_of_error (Ending.returned.inj returned))

/-- **The span of a delivery tells the truth about it**, whatever its errands come to: it is the
span that was opened for the message, its status is set once, good exactly if the message was
handled and acknowledged, and each failure of the delivery stands on it as one exception with
its own text, in the order in which the failures happened. -/
theorem Desk.span_tells_truth {σ : Type} (desk : Desk σ α) (cls : MessageClass)
    (decode : Octets → Attempt α) (count : Int) (message : Message) (state : σ)
    (reads : ∀ text, decode message.body ≠ .panicked text) :
    ∃ events,
      (desk.processTried cls decode count message state).1.span =
        { Trace.Span.opened desk.propagator cls.direct.queue message.headers with events } ∧
      TellsTruth (decode message.body) (desk.errands cls decode count message state) events
        (desk.processTried cls decode count message state).1.ending := by
  obtain ⟨events, ending, served, report⟩ :=
    served_of_processTried desk cls state decode count message
  rw [report]
  exact ⟨events, rfl, served.tellsTruth reads⟩

/-- Two failures behind the status: the message cannot be decoded, junk takes no copy, and it
cannot be rejected. -/
theorem Desk.span_tells_truth_broken :
    let decode : Octets → Attempt Unit := fun _ => .failed (.decodingPayload "EOF")
    (∀ text, decode [] ≠ .panicked text) ∧
      (Desk.broken.processTried .blank decode 0 ⟨[], [], false⟩ ()).1.span.events =
        [.failure (.decodingPayload "EOF"), .failed "unparseable message",
          .failure (.archiving ""), .failure .rejecting] ∧
      ∃ events,
        (Desk.broken.processTried .blank decode 0 ⟨[], [], false⟩ ()).1.span =
          { Trace.Span.opened .standard "" [] with events } ∧
        TellsTruth (decode []) (Desk.broken.errands .blank decode 0 ⟨[], [], false⟩ ()) events
          (Desk.broken.processTried .blank decode 0 ⟨[], [], false⟩ ()).1.ending :=
  ⟨nofun, rfl, Desk.span_tells_truth Desk.broken .blank _ 0 ⟨[], [], false⟩ () nofun⟩

end Redelivery
