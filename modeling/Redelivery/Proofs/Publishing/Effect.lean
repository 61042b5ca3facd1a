import Redelivery.Proofs.SwitchedOff
/-!
# What a request does to the publisher

A request hands over one publication or none. None is handed over for a class that is switched
off, nor for a payload that cannot be written; otherwise the publication is the request's own
(`PublishRequest.publication`) and its answer decides the outcome, which on the junk route is
reported as a failure to archive and on the direct route as it came.

* `PublishRequest.send_switchedOn`: a request for a class that is on, over any publisher. With
  `send_switchedOff` this is all that a request can do.
* `PublishRequest.at_most_one_publication`: the calls of a request and its outcome.

A publisher may answer with any failure, also with one that a request has reasons of its own
for. On the direct route such an answer cannot be told from a refusal by the outcome
(`PublishRequest.answered_as_disabled`), only by the call.
-/

namespace Redelivery

set_option autoImplicit false

variable {σ : Type}

def Publisher.noted (publisher : Publisher σ) :
    Publisher (σ × List (Publication × Outcome)) := fun publication state =>
  let told := publisher publication state.1
  (told.1, told.2, state.2 ++ [(publication, told.1)])

namespace PublishRequest

/-! ## What a request asks for -/

def toJunk : PublishRequest → Bool
  | junk _ | junkJson _ => true
  | direct _ | directAfter _ _ | directJson _ | directJsonIncremented _ _ => false

def route (cls : MessageClass) (request : PublishRequest) : Route :=
  if request.toJunk then cls.junk else cls.direct

/-- The octets to be published: those that were given, or the JSON text of a value. -/
def octets? : PublishRequest → Except Failure Octets
  | direct payload | directAfter payload _ | junk payload => .ok payload
  | directJson payload | directJsonIncremented payload _ | junkJson payload => payload.encode?

/-- The delay that a request asks for. -/
def delay? (cls : MessageClass) : PublishRequest → Option Int
  | direct _ | directJson _ => some cls.delay
  | directAfter _ delay => some delay
  | directJsonIncremented _ times => some (Publication.incrementedDelay cls times)
  | junk _ | junkJson _ => none

def publication (cls : MessageClass) (context : Trace.Context) (request : PublishRequest)
    (octets : Octets) : Publication where
  exchange := (request.route cls).exchange
  key := (request.route cls).key
  payload := octets
  headers := context.inject <| (request.delay? cls).elim [] fun delay =>
    [(Publication.delayHeader, Header.ofInt delay)]

/-- How a request reports the failure of its publication. -/
def reported (cls : MessageClass) (request : PublishRequest) (failure : Failure) : Failure :=
  if request.toJunk then .archiving cls.junk.exchange else failure

theorem encodingPayload_of_error {request : PublishRequest} {failure : Failure}
    (unwritable : request.octets? = .error failure) :
    ∃ reason, failure = .encodingPayload reason := by
  have written : ∀ {payload : JsonPayload}, payload.encode? = .error failure →
      ∃ reason, failure = .encodingPayload reason := by
    intro payload unwritable
    cases payload with
    | value content => cases unwritable
    | unwritable reason => cases unwritable; exact ⟨reason, rfl⟩
  cases request with
  | direct | directAfter | junk => cases unwritable
  | directJson | directJsonIncremented | junkJson => exact written unwritable

theorem mapError_reported {cls : MessageClass} {request : PublishRequest}
    (onDirect : request.toJunk = false) (answer : Outcome) :
    answer.mapError (request.reported cls) = answer := by
  cases answer with
  | ok => rfl
  | error failure =>
      show Except.error (request.reported cls failure) = Except.error failure
      rw [reported, onDirect]
      rfl

/-! ## Sending -/

section SwitchedOn

variable {cls : MessageClass} (on : cls.enabled = true) (publisher : Publisher σ)
  (context : Trace.Context) (state : σ)

include on

theorem sendDirect_switchedOn (octets : Octets) (delay : Int) :
    sendDirect publisher cls octets delay context state =
      publisher ⟨cls.direct.exchange, cls.direct.key, octets,
        context.inject [(Publication.delayHeader, Header.ofInt delay)]⟩ state := by
  simp [sendDirect, Publication.direct, on]

theorem sendJunk_switchedOn (octets : Octets) :
    sendJunk publisher cls octets context state =
      let told := publisher ⟨cls.junk.exchange, cls.junk.key, octets, context.inject []⟩ state
      (told.1.mapError fun _ => .archiving cls.junk.exchange, told.2) := by
  simp only [sendJunk, Publication.junk, on, if_true]
  rcases publisher ⟨cls.junk.exchange, cls.junk.key, octets, context.inject []⟩ state with
    ⟨_ | _, next⟩ <;> rfl

/-- A request for a class that is on fails if its payload cannot be written, and otherwise
hands over its publication and reports the answer. -/
theorem send_switchedOn (request : PublishRequest) :
    request.send publisher cls context state =
      match request.octets? with
      | .error failure => (.error failure, state)
      | .ok octets =>
          let told := publisher (request.publication cls context octets) state
          (told.1.mapError (request.reported cls), told.2) := by
  have onDirect : ∀ {asked : PublishRequest} (delay : Int) (octets : Octets),
      asked.toJunk = false → asked.delay? cls = some delay →
      sendDirect publisher cls octets delay context state =
        let told := publisher (asked.publication cls context octets) state
        (told.1.mapError (asked.reported cls), told.2) := by
    intro asked delay octets isDirect delayed
    have handed : asked.publication cls context octets =
        ⟨cls.direct.exchange, cls.direct.key, octets,
          context.inject [(Publication.delayHeader, Header.ofInt delay)]⟩ := by
      rw [publication, route, isDirect, delayed]
      rfl
    rw [sendDirect_switchedOn on, handed]
    simp only [mapError_reported isDirect]
  cases request with
  | direct payload => exact onDirect cls.delay payload rfl rfl
  | directAfter payload delay => exact onDirect delay payload rfl rfl
  | junk payload => exact sendJunk_switchedOn on publisher context state payload
  | directJson payload =>
      simp only [send, octets?]
      cases payload.encode? with
      | error failure => rfl
      | ok octets => exact onDirect cls.delay octets rfl rfl
  | directJsonIncremented payload times =>
      simp only [send, octets?, on, if_true]
      cases payload.encode? with
      | error failure => rfl
      | ok octets => exact onDirect (Publication.incrementedDelay cls times) octets rfl rfl
  | junkJson payload =>
      simp only [send, octets?]
      cases payload.encode? with
      | error failure => rfl
      | ok octets => exact sendJunk_switchedOn on publisher context state octets

end SwitchedOn

/-! ## Calls and outcome -/

/-- What a request comes to: the calls of the publisher, each with its answer, and the outcome. -/
structure Effect (cls : MessageClass) (request : PublishRequest)
    (calls : List (Publication × Outcome)) (outcome : Outcome) : Prop where
  atMostOnce : calls.length ≤ 1
  silent : cls.enabled = false ∨ (∃ failure, request.octets? = .error failure) → calls = []
  /-- What is handed over goes the way of the request and carries its octets. -/
  own : ∀ call ∈ calls, call.1.exchange = (request.route cls).exchange ∧
    call.1.key = (request.route cls).key ∧ request.octets? = .ok call.1.payload
  ok_iff : outcome = .ok () ↔ ∃ publication, calls = [(publication, .ok ())]
  failed : ∀ publication failure, calls = [(publication, .error failure)] →
    outcome = .error (request.reported cls failure)
  /-- Without a call the class is off, or the payload cannot be written. -/
  refused : calls = [] →
    cls.enabled = false ∧ outcome = .error (.classDisabled (request.route cls).queue) ∨
      ∃ reason, request.octets? = .error (.encodingPayload reason) ∧
        outcome = .error (.encodingPayload reason)
  /-- The failure of a class that is off has that reason, or is an answer on the direct route. -/
  disabled : ∀ queue, outcome = .error (.classDisabled queue) → cls.enabled = false ∨
    request.toJunk = false ∧ ∃ publication, calls = [(publication, .error (.classDisabled queue))]
  /-- So has the failure of a payload that cannot be written. -/
  unwritable : ∀ reason, outcome = .error (.encodingPayload reason) →
    request.octets? = .error (.encodingPayload reason) ∨ request.toJunk = false ∧
      ∃ publication, calls = [(publication, .error (.encodingPayload reason))]

namespace Effect

variable {cls : MessageClass} {request : PublishRequest}

theorem of_disabled (off : cls.enabled = false) :
    Effect cls request [] (.error (.classDisabled (request.route cls).queue)) where
  atMostOnce := Nat.zero_le 1
  silent _ := rfl
  own := nofun
  ok_iff := by simp
  failed := nofun
  refused _ := .inl ⟨off, rfl⟩
  disabled _ _ := .inl off
  unwritable := nofun

theorem of_unwritable {reason : String}
    (unwritable : request.octets? = .error (.encodingPayload reason)) :
    Effect cls request [] (.error (.encodingPayload reason)) where
  atMostOnce := Nat.zero_le 1
  silent _ := rfl
  own := nofun
  ok_iff := by simp
  failed := nofun
  refused _ := .inr ⟨reason, unwritable, rfl⟩
  disabled := nofun
  unwritable := by
    rintro _ ⟨⟩
    exact .inl unwritable

/-- A failure other than that of archiving is an answer on the direct route. -/
theorem answer_of_error {answer : Outcome} {failure : Failure}
    (failed : answer.mapError (request.reported cls) = .error failure)
    (other : failure ≠ .archiving cls.junk.exchange) :
    request.toJunk = false ∧ answer = .error failure := by
  cases answer with
  | ok => cases failed
  | error cause =>
      have same : request.reported cls cause = failure := Except.error.inj failed
      rw [reported] at same
      cases junk : request.toJunk with
      | true =>
          rw [if_pos junk] at same
          exact absurd same.symm other
      | false =>
          rw [if_neg (by simp [junk])] at same
          exact ⟨rfl, congrArg Except.error same⟩

theorem of_called (on : cls.enabled = true) {octets : Octets}
    (written : request.octets? = .ok octets) (context : Trace.Context) (answer : Outcome) :
    Effect cls request [(request.publication cls context octets, answer)]
      (answer.mapError (request.reported cls)) where
  atMostOnce := Nat.le_refl 1
  silent := by
    rintro (off | ⟨failure, unwritable⟩)
    · rw [on] at off
      cases off
    · rw [written] at unwritable
      cases unwritable
  own := by
    intro call member
    rw [List.mem_singleton.mp member]
    exact ⟨rfl, rfl, written⟩
  ok_iff := by cases answer <;> simp [Except.mapError]
  failed := by
    rintro _ failure ⟨⟩
    rfl
  refused := nofun
  disabled := by
    intro queue failed
    obtain ⟨onDirect, answered⟩ := answer_of_error failed nofun
    exact .inr ⟨onDirect, _, by rw [answered]⟩
  unwritable := by
    intro reason failed
    obtain ⟨onDirect, answered⟩ := answer_of_error failed nofun
    exact .inr ⟨onDirect, _, by rw [answered]⟩

end Effect

/-- A request for a class that is off says so, or that its payload cannot be written. -/
theorem refusal_cases (cls : MessageClass) (request : PublishRequest) :
    request.refusal cls = .classDisabled (request.route cls).queue ∨
      request.octets? = .error (request.refusal cls) := by
  cases request with
  | direct | directAfter | junk | directJsonIncremented => exact .inl rfl
  | directJson payload =>
      simp only [refusal, octets?]
      cases payload.encode? with
      | ok octets => exact .inl rfl
      | error failure => exact .inr rfl
  | junkJson payload =>
      simp only [refusal, octets?]
      cases payload.encode? with
      | ok octets => exact .inl rfl
      | error failure => exact .inr rfl

/-- **A request calls the publisher at most once**, with its own publication, and its outcome is
that call's or a refusal of its own. The publisher answers as it will, and what it keeps is the
same as without the record. -/
theorem at_most_one_publication (publisher : Publisher σ) (cls : MessageClass)
    (context : Trace.Context) (request : PublishRequest) (state : σ) :
    let run := request.send publisher.noted cls context (state, [])
    (run.1, run.2.1) = request.send publisher cls context state ∧
      (∀ call ∈ run.2.2, (publisher call.1 state).1 = call.2) ∧
      Effect cls request run.2.2 run.1 := by
  cases on : cls.enabled with
  | false =>
      rw [send_switchedOff on, send_switchedOff on]
      refine ⟨rfl, nofun, ?_⟩
      rcases refusal_cases cls request with disabled | unwritable
      · rw [disabled]
        exact .of_disabled on
      · obtain ⟨reason, same⟩ := encodingPayload_of_error unwritable
        rw [same] at unwritable ⊢
        exact .of_unwritable unwritable
  | true =>
      rw [send_switchedOn on, send_switchedOn on]
      cases written : request.octets? with
      | error failure =>
          obtain ⟨reason, rfl⟩ := encodingPayload_of_error written
          exact ⟨rfl, nofun, .of_unwritable written⟩
      | ok octets =>
          refine ⟨rfl, ?_, .of_called on written context _⟩
          intro call member
          rw [List.mem_singleton.mp member]

/-! ## Poles -/

def answering (answer : Outcome) : Publisher Unit := fun _ world => (answer, world)

/-- An answer on the direct route can be any failure, also that of a class that is off or of a
payload that cannot be written. -/
theorem answered_as_disabled :
    ticks.enabled = true ∧ (PublishRequest.direct [1]).octets? = .ok [1] ∧
      (PublishRequest.direct [1]).send (answering (.error (.classDisabled "elsewhere"))) ticks []
        () = (.error (.classDisabled "elsewhere"), ()) ∧
      (PublishRequest.direct [1]).send (answering (.error (.encodingPayload "too long"))) ticks []
        () = (.error (.encodingPayload "too long"), ()) :=
  ⟨rfl, rfl, rfl, rfl⟩

end PublishRequest

end Redelivery
