import Redelivery.Publication
import Redelivery.RetryCounter
import Redelivery.Trace.Span
/-!
# Deliveries

What becomes of one delivered message. It is decoded and handled; success is
acknowledged, failure is rejected so that the message returns by the dead-letter
route, and a message that cannot be decoded or has used up its retries is archived:
published to junk and then acknowledged, or rejected if the archive refuses it.

`Desk.process` talks to the world through a `Desk`, whose state is the caller's, and reports
how the delivery ended together with the span that followed it. How often the message was
tried before is all that it takes from the retry counter (`processTried`). `Delivery.process`
is the same for `Services`, whose copies go to junk through a publisher.
-/

namespace Redelivery

set_option autoImplicit false

/-- How a call into the application ends. -/
inductive Attempt (α : Type) where
  | done (result : α)
  | failed (failure : Failure)
  /-- It panicked, with a text or with something else. -/
  | panicked (text : Option String)

/-- A delivered message. -/
structure Message where
  body : Octets
  headers : Headers
  redelivered : Bool

/-- What a delivery asks of the world. -/
structure Desk (σ α : Type) where
  propagator : Trace.Propagator
  handle : α → Trace.Context → σ → Attempt Unit × σ
  /-- Copies a body to the junk of its class. -/
  sendJunk : MessageClass → Octets → σ → Outcome × σ
  acknowledge : σ → Outcome × σ
  /-- Rejects; the flag asks the broker to queue the message again. -/
  reject : Bool → σ → Outcome × σ

/-- A desk whose copies go to junk through a publisher. -/
structure Services (σ α : Type) where
  propagator : Trace.Propagator
  handle : α → Trace.Context → σ → Attempt Unit × σ
  publish : Publisher σ
  acknowledge : σ → Outcome × σ
  reject : Bool → σ → Outcome × σ

/-- The desk that services make up. -/
def Services.desk {σ α : Type} (services : Services σ α) : Desk σ α where
  propagator := services.propagator
  handle := services.handle
  sendJunk cls body := PublishRequest.sendJunk services.publish cls body []
  acknowledge := services.acknowledge
  reject := services.reject

/-- What became of a message that was settled as intended. -/
inductive Disposition where
  | acknowledged
  | retried (count : Int)
  | unparseable
  | exhausted (count : Int)
  deriving DecidableEq

/-- How the processing of a delivery ended. -/
inductive Ending where
  | returned (result : Except Failure Disposition)
  /-- The decoder panicked, and the message is left as it is. -/
  | panicked

/-- The end of a delivery and the span that followed it. -/
structure Report where
  ending : Ending
  span : Trace.Span

/-- How one class of messages is consumed. -/
structure Consumption (α : Type) where
  cls : MessageClass
  counter : RetryCounter
  decode : Octets → Attempt α

/-- The failure that a panic of the handler counts as. -/
def Delivery.panicFailure : Option String → Failure
  | some text => .handling ("handler panicked: " ++ text)
  | none => .handling "handler panicked"

namespace Desk

variable {σ α : Type}

/-- Publishes a message to junk and settles it; the disposition is what it comes to
if both succeed. -/
def archive (desk : Desk σ α) (cls : MessageClass) (body : Octets) (disposition : Disposition)
    (span : Trace.Span) (state : σ) : Report × σ :=
  match desk.sendJunk cls body state with
  | (.error failure, state) =>
      let span := span.record (.failure failure)
      match desk.reject false state with
      | (.ok (), state) => (⟨.returned (.error failure), span⟩, state)
      | (.error second, state) =>
          (⟨.returned (.error failure), span.record (.failure second)⟩, state)
  | (.ok (), state) =>
      match desk.acknowledge state with
      | (.ok (), state) => (⟨.returned (.ok disposition), span⟩, state)
      | (.error failure, state) =>
          (⟨.returned (.error failure), span.record (.failure failure)⟩, state)

/-- Settles a message that was handled. -/
def settleHandled (desk : Desk σ α) (span : Trace.Span) (state : σ) : Report × σ :=
  match desk.acknowledge state with
  | (.ok (), state) => (⟨.returned (.ok .acknowledged), span.record .succeeded⟩, state)
  | (.error failure, state) =>
      (⟨.returned (.error failure),
        (span.record (.failure failure)).record (.failed "error to ack msg")⟩, state)

/-- Settles a message whose handling failed: below the limit it is rejected for another
try, at the limit it is archived. -/
def settleFailed (desk : Desk σ α) (cls : MessageClass) (body : Octets) (count : Int)
    (failure : Failure) (span : Trace.Span) (state : σ) : Report × σ :=
  let span := span.record (.failure failure)
  if count < cls.limit then
    let span := span.record (.failed "requeuing msg for latter")
    match desk.reject false state with
    | (.ok (), state) => (⟨.returned (.ok (.retried count)), span⟩, state)
    | (.error second, state) =>
        (⟨.returned (.error second), span.record (.failure second)⟩, state)
  else
    desk.archive cls body (.exhausted count) (span.record (.failed "retries exhausted")) state

/-- Processes a delivery of a message that was tried `count` times before. -/
def processTried (desk : Desk σ α) (cls : MessageClass) (decode : Octets → Attempt α)
    (count : Int) (message : Message) (state : σ) : Report × σ :=
  let span := Trace.Span.opened desk.propagator cls.direct.queue message.headers
  match decode message.body with
  | .panicked _ => (⟨.panicked, span⟩, state)
  | .failed failure =>
      desk.archive cls message.body .unparseable
        ((span.record (.failure failure)).record (.failed "unparseable message")) state
  | .done data =>
      match desk.handle data span.parent state with
      | (.done (), state) => desk.settleHandled span state
      | (.failed failure, state) =>
          desk.settleFailed cls message.body count failure span state
      | (.panicked text, state) =>
          desk.settleFailed cls message.body count (Delivery.panicFailure text) span state

/-- Processes one delivery, with the number of earlier tries that its message tells. -/
def process (desk : Desk σ α) (consumption : Consumption α) (message : Message)
    (state : σ) : Report × σ :=
  desk.processTried consumption.cls consumption.decode
    (consumption.counter.count message.headers message.redelivered) message state

end Desk

namespace Delivery

variable {σ α : Type}

/-! The same at the desk of services. -/

def archive (services : Services σ α) (cls : MessageClass) (body : Octets)
    (disposition : Disposition) (span : Trace.Span) (state : σ) : Report × σ :=
  services.desk.archive cls body disposition span state

def settleHandled (services : Services σ α) (span : Trace.Span) (state : σ) : Report × σ :=
  services.desk.settleHandled span state

def settleFailed (services : Services σ α) (cls : MessageClass) (body : Octets) (count : Int)
    (failure : Failure) (span : Trace.Span) (state : σ) : Report × σ :=
  services.desk.settleFailed cls body count failure span state

def processTried (services : Services σ α) (cls : MessageClass) (decode : Octets → Attempt α)
    (count : Int) (message : Message) (state : σ) : Report × σ :=
  services.desk.processTried cls decode count message state

def process (services : Services σ α) (consumption : Consumption α) (message : Message)
    (state : σ) : Report × σ :=
  services.desk.process consumption message state

end Delivery

end Redelivery
