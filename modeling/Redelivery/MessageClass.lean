import Redelivery.Failure
import Redelivery.Json.Reader
/-!
# Message classes

A message class is one kind of message with the three routes it travels: the direct
route to its consumers, the dead-letter route on which a failed message waits before
it returns to the direct one, and the junk route for messages that are given up.
-/

namespace Redelivery

set_option autoImplicit false

/-- How an exchange chooses among its queues. -/
inductive ExchangeKind where
  | direct
  | fanout
  | topic
  deriving DecidableEq, Inhabited

namespace ExchangeKind

/-- The broker's word for a kind. -/
def word : ExchangeKind → String
  | direct => "direct"
  | fanout => "fanout"
  | topic => "topic"

/-- The kinds by their words. -/
def named : List (String × ExchangeKind) :=
  [direct, fanout, topic].map fun kind => (kind.word, kind)

/-- Reads a kind from its word. -/
def reader : Json.Reader ExchangeKind := Json.Reader.choice named

end ExchangeKind

/-- A way from an exchange to a queue. -/
structure Route where
  exchange : String
  queue : String
  key : String
  deriving DecidableEq

namespace Route

/-- The route with a text put before each of its names. -/
def withPrefix (lead : String) (route : Route) : Route :=
  ⟨lead ++ route.exchange, lead ++ route.queue, lead ++ route.key⟩

def unnamed : Route := ⟨"", "", ""⟩

end Route

/-- A kind of message. Times are milliseconds: `ttl` is the wait on the dead-letter
route, `delay` the wait before a first delivery. `limit` is the number of retries
at which a failing message is given up. -/
structure MessageClass where
  enabled : Bool
  kind : ExchangeKind
  direct : Route
  deadLetter : Route
  junk : Route
  ttl : Int
  delay : Int
  limit : Int
  deriving DecidableEq

namespace MessageClass

/-- The class with a text put before every name on its routes. -/
def withPrefix (lead : String) (cls : MessageClass) : MessageClass :=
  { cls with
    direct := cls.direct.withPrefix lead
    deadLetter := cls.deadLetter.withPrefix lead
    junk := cls.junk.withPrefix lead }

/-- The class of which nothing is said. -/
def blank : MessageClass := ⟨false, .direct, .unnamed, .unnamed, .unnamed, 0, 0, 0⟩

/-- The members of a class, in the order in which an array lists them. -/
def memberNames : List String :=
  ["enabled", "exchange_kind", "exchange_direct", "queue_direct", "routing_key_direct",
    "exchange_dlx", "queue_dlq", "routing_key_dlx", "exchange_junk", "queue_junk",
    "routing_key_junk", "ttl", "delay", "limit"]

/-- Reads a class; the names of its routes must be given. -/
def reader : Json.Reader MessageClass := fun depth raw => do
  let slots ← Json.Reader.slots? memberNames depth raw
  let name (member : String) := slots.required member Json.Reader.text
  let number (member : String) := slots.defaulted member Json.Reader.int64 0
  return {
    enabled := ← slots.defaulted "enabled" Json.Reader.boolean false
    kind := ← slots.defaulted "exchange_kind" ExchangeKind.reader .direct
    direct := ⟨← name "exchange_direct", ← name "queue_direct", ← name "routing_key_direct"⟩
    deadLetter := ⟨← name "exchange_dlx", ← name "queue_dlq", ← name "routing_key_dlx"⟩
    junk := ⟨← name "exchange_junk", ← name "queue_junk", ← name "routing_key_junk"⟩
    ttl := ← number "ttl"
    delay := ← number "delay"
    limit := ← number "limit" }

end MessageClass

end Redelivery
