import Redelivery.Settings.Basic
import Redelivery.Topology.Plan
import Redelivery.Transcript.Headers
/-!
# Definitions in transcripts

The JSON form of what an application is configured with and of what it declares. A
definition to be declared is read as a name and a list of setters.
-/

namespace Redelivery.Transcript

set_option autoImplicit false

open Json (Value)

def ofMessageClass (cls : MessageClass) : Value :=
  .object [("enabled", .boolean cls.enabled), ("exchange_kind", .text cls.kind.word),
    ("exchange_direct", .text cls.direct.exchange), ("queue_direct", .text cls.direct.queue),
    ("routing_key_direct", .text cls.direct.key), ("exchange_dlx", .text cls.deadLetter.exchange),
    ("queue_dlq", .text cls.deadLetter.queue), ("routing_key_dlx", .text cls.deadLetter.key),
    ("exchange_junk", .text cls.junk.exchange), ("queue_junk", .text cls.junk.queue),
    ("routing_key_junk", .text cls.junk.key), ("ttl", .integer cls.ttl),
    ("delay", .integer cls.delay), ("limit", .integer cls.limit)]

def ofExchange (exchange : Exchange) : Value :=
  .object [("name", .text exchange.name), ("kind", .text exchange.kind.word),
    ("delayed", .boolean exchange.delayed), ("durable", .boolean exchange.durable),
    ("declared_kind", .text exchange.declaredKind), ("arguments", ofHeaders exchange.arguments)]

def ofQueue (queue : Queue) : Value :=
  .object [("name", .text queue.name), ("durable", .boolean queue.durable),
    ("ttl", optional .integer queue.ttl),
    ("dead_letter", optional (fun (exchange, key) => .array [.text exchange, .text key])
      queue.deadLetter),
    ("arguments", ofHeaders queue.arguments)]

def ofBinding (binding : Binding) : Value :=
  .object [("queue", .text binding.queue), ("exchange", .text binding.exchange),
    ("routing_key", .text binding.key)]

def ofRetryCycle (cycle : RetryCycle) : Value :=
  .object [("exchanges", .array (cycle.exchanges.map ofExchange)),
    ("queues", .array (cycle.queues.map ofQueue)),
    ("bindings", .array (cycle.bindings.map ofBinding))]

/-- The sizing of a consumer as it is configured and as it takes effect. -/
def ofSizing (sizing : ConsumerSizing) : Value :=
  .object [("configured", .object [("prefetch_count", optional ofNat sizing.prefetch),
      ("worker_count", optional ofNat sizing.workers),
      ("task_buffer", optional ofNat sizing.buffer)]),
    ("prefetch_count", ofNat sizing.effectivePrefetch),
    ("worker_count", match sizing.effectiveWorkers with
      | .fixed count => ofNat count
      | .machine => .text "available_parallelism"),
    ("task_buffer", ofNat sizing.effectiveBuffer)]

def ofAddress (address : BrokerAddress) : List (String × Value) :=
  [("host", .text address.host), ("port", ofNat address.port), ("user", .text address.user),
    ("password", .text address.password), ("vhost", .text address.vhost),
    ("namespace", optional .text address.space),
    ("recovery_interval_secs", ofNat address.recoverySeconds), ("uri", .text address.uri)]

/-- A 64-bit integer. -/
def int64? : Value → Option Int
  | .integer value => if -(Int.pow 2 63) ≤ value ∧ value < Int.pow 2 63 then some value else none
  | _ => none

/-- Applies a setter to an exchange. -/
def setExchange? (exchange : Exchange) : Value → Option Exchange
  | .array [.text "kind", .text kind] => (ExchangeKind.named.lookup kind).map exchange.withKind
  | .array [.text "delayed", .text kind] => (ExchangeKind.named.lookup kind).map exchange.delaying
  | .array [.text "durable"] => some exchange.lasting
  | _ => none

/-- Applies a setter to a queue. -/
def setQueue? (queue : Queue) : Value → Option Queue
  | .array [.text "ttl", ttl] => (int64? ttl).map queue.expiring
  | .array [.text "dead_letter", .text exchange, .text key] =>
      some (queue.deadLettering exchange key)
  | .array [.text "durable"] => some queue.lasting
  | _ => none

/-- Applies a setter to a binding. -/
def setBinding? (binding : Binding) : Value → Option Binding
  | .array [.text "exchange", .text exchange] => some (binding.withExchange exchange)
  | .array [.text "routing_key", .text key] => some (binding.withKey key)
  | _ => none

end Redelivery.Transcript
