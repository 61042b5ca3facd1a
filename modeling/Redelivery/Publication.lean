import Redelivery.Failure
import Redelivery.Json.Value
import Redelivery.MessageClass
import Redelivery.Trace.Context
/-!
# Publications

A publication is a message on its way to an exchange. `direct` and `junk` make the
two that a class allows, and refuse when the class is switched off; `Request` lists
the ways in which an application asks for one, and `send` passes what was made to
whoever publishes. A publication to junk that is refused is reported as a failure to
archive, any other as the publisher reports it.
-/

namespace Redelivery

set_option autoImplicit false

/-- A message for an exchange. Every message is persistent JSON under a fresh random
identifier, so neither of these is part of it. -/
structure Publication where
  exchange : String
  key : String
  payload : Octets
  headers : Headers

/-- How a publication is handed over; the state is whatever the publisher keeps. -/
abbrev Publisher (σ : Type) := Publication → σ → Outcome × σ

namespace Publication

/-- The content type of every message. -/
def contentType : String := "application/json"

/-- The delivery mode of every message: it outlives a restart of the broker. -/
def deliveryMode : Nat := 2

/-- The header that asks a delaying exchange to wait. -/
def delayHeader : String := "x-delay"

/-- A message on the direct route, to be delivered after a delay. -/
def direct (cls : MessageClass) (payload : Octets) (delay : Int) (context : Trace.Context) :
    Except Failure Publication :=
  if cls.enabled then
    .ok {
      exchange := cls.direct.exchange
      key := cls.direct.key
      payload
      headers := context.inject [(delayHeader, Header.ofInt delay)] }
  else .error (.classDisabled cls.direct.queue)

/-- A message on the junk route. -/
def junk (cls : MessageClass) (payload : Octets) (context : Trace.Context) :
    Except Failure Publication :=
  if cls.enabled then
    .ok {
      exchange := cls.junk.exchange
      key := cls.junk.key
      payload
      headers := context.inject [] }
  else .error (.classDisabled cls.junk.queue)

/-- The signed 64-bit number nearest to a whole number. -/
def saturate (value : Int) : Int := max (-(Int.pow 2 63)) (min (Int.pow 2 63 - 1) value)

/-- The delay of a class taken a number of times. -/
def incrementedDelay (cls : MessageClass) (times : Int) : Int := saturate (cls.delay * times)

end Publication

/-- A payload that is still to be written as JSON: a value, or something that cannot
be written, for a reason. -/
inductive JsonPayload where
  | value (content : Json.Value)
  | unwritable (reason : String)

/-- The octets of a payload. -/
def JsonPayload.encode? : JsonPayload → Except Failure Octets
  | value content => .ok (Utf8.encode content.compact)
  | unwritable reason => .error (.encodingPayload reason)

/-- The ways to ask for a publication. -/
inductive PublishRequest where
  | direct (payload : Octets)
  | directAfter (payload : Octets) (delay : Int)
  | junk (payload : Octets)
  | directJson (payload : JsonPayload)
  /-- After the delay of the class taken a number of times. -/
  | directJsonIncremented (payload : JsonPayload) (times : Int)
  | junkJson (payload : JsonPayload)

namespace PublishRequest

/-- Hands over a publication on the direct route. -/
def sendDirect {σ : Type} (publisher : Publisher σ) (cls : MessageClass) (payload : Octets)
    (delay : Int) (context : Trace.Context) (state : σ) : Outcome × σ :=
  match Publication.direct cls payload delay context with
  | .ok publication => publisher publication state
  | .error failure => (.error failure, state)

/-- Hands over a publication on the junk route. -/
def sendJunk {σ : Type} (publisher : Publisher σ) (cls : MessageClass) (payload : Octets)
    (context : Trace.Context) (state : σ) : Outcome × σ :=
  match Publication.junk cls payload context with
  | .ok publication =>
      match publisher publication state with
      | (.ok (), state) => (.ok (), state)
      | (.error _, state) => (.error (.archiving cls.junk.exchange), state)
  | .error failure => (.error failure, state)

/-- Carries out a request. A JSON payload is written before the class is looked at,
except for an incremented delay. -/
def send {σ : Type} (publisher : Publisher σ) (cls : MessageClass) (context : Trace.Context)
    (request : PublishRequest) (state : σ) : Outcome × σ :=
  match request with
  | direct payload => sendDirect publisher cls payload cls.delay context state
  | directAfter payload delay => sendDirect publisher cls payload delay context state
  | junk payload => sendJunk publisher cls payload context state
  | directJson payload =>
      match payload.encode? with
      | .ok octets => sendDirect publisher cls octets cls.delay context state
      | .error failure => (.error failure, state)
  | directJsonIncremented payload times =>
      if cls.enabled then
        match payload.encode? with
        | .ok octets =>
            sendDirect publisher cls octets (Publication.incrementedDelay cls times) context state
        | .error failure => (.error failure, state)
      else (.error (.classDisabled cls.direct.queue), state)
  | junkJson payload =>
      match payload.encode? with
      | .ok octets => sendJunk publisher cls octets context state
      | .error failure => (.error failure, state)

end PublishRequest

end Redelivery
