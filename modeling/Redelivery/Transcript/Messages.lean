import Redelivery.Connection.Notice
import Redelivery.Delivery
import Redelivery.Rehearsal.Broker
import Redelivery.Transcript.Definitions
/-!
# Messages in transcripts

The JSON form of publications, spans and notices, and of the methods that a scripted
broker received. A random identifier is written as the word for its kind.
-/

namespace Redelivery.Transcript

set_option autoImplicit false

open Json (Value)

/-- What stands for a random identifier. -/
def randomIdentifier : String := "uuid4"

def ofProperties (publication : Publication) : List (String × Value) :=
  [("content_type", .text Publication.contentType),
    ("delivery_mode", ofNat Publication.deliveryMode), ("message_id", .text randomIdentifier),
    ("headers", ofHeaders publication.headers), ("other_properties", .array [])]

def ofPublication (publication : Publication) : Value :=
  .object ([("publish", .array [.text publication.exchange, .text publication.key]),
    ("payload", ofOctets publication.payload)] ++ ofProperties publication)

def ofTrace (context : Trace.Context) : Value :=
  .array (context.map fun (name, value) => .array [.text name, .text value])

def ofSpanEvent : Trace.SpanEvent → Value
  | .failure failure =>
      .object [("event", .text "exception"),
        ("attributes", .object [("exception.message", .text failure.message)])]
  | .succeeded => .object [("status", .text "ok")]
  | .failed description =>
      .object [("status", .text "error"), ("description", .text description)]

def ofSpan (span : Trace.Span) : Value :=
  .object [("name", .text span.name), ("kind", .text span.kind.word),
    ("parent", ofTrace span.parent), ("events", .array (span.events.map ofSpanEvent))]

def ofNotice (notice : Notice) : Value :=
  .object [("generation", ofNat notice.generation), ("reason", .text notice.reason)]

def ofTag (tag : ConsumerTag) : Value := .text (tag.queue ++ "-" ++ randomIdentifier)

/-- The flags that are set, of those that are named. -/
def ofFlags (flags : List (String × Bool)) : String × Value :=
  ("flags", .array ((flags.filter Prod.snd).map fun flag => .text flag.1))

open Rehearsal in
/-- The arguments of a method. -/
def ofArguments : Method → List (String × Value)
  | .openConnection target name =>
      [("vhost", .text target.vhost), ("login", .array [.text target.user, .text target.password]),
        ("name", .text name)]
  | .closeConnection code text => [("code", ofNat code), ("text", .text text)]
  | .openChannel => []
  | .declare (.exchange definition) =>
      [("name", .text definition.name), ("type", .text definition.declaredKind),
        ofFlags [("durable", definition.durable)], ("arguments", ofHeaders definition.arguments)]
  | .declare (.queue definition) =>
      [("name", .text definition.name), ofFlags [("durable", definition.durable)],
        ("arguments", ofHeaders definition.arguments)]
  | .declare (.binding definition) =>
      [("queue", .text definition.queue), ("exchange", .text definition.exchange),
        ("routing_key", .text definition.key), ofFlags [], ("arguments", ofHeaders [])]
  | .limitPrefetch count => [("prefetch_count", ofNat count), ofFlags []]
  | .startConsumer tag =>
      [("queue", .text tag.queue), ("tag", ofTag tag), ofFlags [], ("arguments", ofHeaders [])]
  | .cancelConsumer tag => [("tag", ofTag tag), ofFlags []]
  | .publish publication =>
      [("exchange", .text publication.exchange), ("routing_key", .text publication.key),
        ofFlags [], ("properties", .object (ofProperties publication)),
        ("payload", ofOctets publication.payload)]
  | .acknowledge delivery => [("delivery_tag", ofNat delivery), ofFlags []]
  | .reject delivery requeue =>
      [("delivery_tag", ofNat delivery), ofFlags [("requeue", requeue)]]

def ofFrame (frame : Rehearsal.Frame) : Value :=
  .object ([("conn", ofNat frame.channel.connection), ("channel", ofNat frame.channel.number),
    ("method", .text frame.method.word)] ++ ofArguments frame.method)

end Redelivery.Transcript
