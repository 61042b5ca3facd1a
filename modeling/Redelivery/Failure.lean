/-!
# Failures

A `Failure` is a cause: one constructor per thing that can go wrong between an
application and its broker, with the names and texts needed to tell two causes
apart. `Failure.message` is the only place where causes are worded.
-/

namespace Redelivery

set_option autoImplicit false

/-- What went wrong. -/
inductive Failure where
  /-- A background task died. -/
  | internal
  | configuration (reason : String)
  | connecting (reason : String)
  | openingChannel (reason : String)
  | notConnected
  | connectionClosed (reason : String)
  /-- Nobody can announce a lost connection any more. -/
  | noticesEnded
  | declaringExchange (name : String)
  | declaringQueue (name : String)
  | bindingQueue (exchange queue : String)
  | startingConsumer (queue : String)
  | limitingPrefetch (queue : String)
  /-- A publish to a class that is switched off; `queue` is where it would have gone. -/
  | classDisabled (queue : String)
  | encodingPayload (reason : String)
  | publishing (reason : String)
  | archiving (exchange : String)
  | decodingPayload (reason : String)
  | handling (reason : String)
  | acknowledging
  | rejecting
  | consuming (reason : String)
  deriving DecidableEq

namespace Failure

/-- A name as it stands inside a message. -/
def named (name : String) : String := "`" ++ name ++ "`"

/-- The wording of a failure. -/
def message : Failure → String
  | internal => "internal error"
  | configuration reason => "invalid configuration: " ++ reason
  | connecting reason => "failure to connect: " ++ reason
  | openingChannel reason => "failure to create a channel: " ++ reason
  | notConnected => "not connected"
  | connectionClosed reason => "connection closed: " ++ reason
  | noticesEnded => "connection close notifications stopped"
  | declaringExchange name => "failure to declare an exchange " ++ named name
  | declaringQueue name => "failure to declare a queue " ++ named name
  | bindingQueue exchange queue =>
      "failure to binding exchange " ++ named exchange ++ " to queue " ++ named queue
  | startingConsumer queue => "failure to declare consumer " ++ named queue
  | limitingPrefetch queue => "failure to configure qos " ++ named queue
  | classDisabled queue =>
      "can't publish a message to " ++ named queue ++ ": message class is disabled"
  | encodingPayload reason => "failure to serialize payload: " ++ reason
  | publishing reason => "failure to publish: " ++ reason
  | archiving exchange => "failure to publish to junk " ++ named exchange
  | decodingPayload reason => "failure to parse payload: " ++ reason
  | handling reason => "failure to handle message: " ++ reason
  | acknowledging => "failure to ack message"
  | rejecting => "failure to nack message"
  | consuming reason => "failure to consume message " ++ named reason

end Failure

/-- The answer of an operation that succeeds with nothing to say. -/
abbrev Outcome := Except Failure Unit

end Redelivery
