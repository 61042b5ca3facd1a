import Redelivery.Failure
import Redelivery.Header
import Redelivery.MessageClass
/-!
# Declarations

The exchanges, queues and bindings that an application asks its broker for. A
definition starts from its name and is filled in by setters; the arguments that go
to the broker are computed from what was set.
-/

namespace Redelivery

set_option autoImplicit false

/-- An exchange to be declared. A delayed exchange keeps the kind it had when it was
made delayed as the kind behind the delay, whatever is set later. -/
structure Exchange where
  name : String
  kind : ExchangeKind
  behindDelay : Option ExchangeKind
  durable : Bool
  deriving DecidableEq

namespace Exchange

/-- A direct exchange that is neither delayed nor durable. -/
def ofName (name : String) : Exchange := ⟨name, .direct, none, false⟩

def withKind (exchange : Exchange) (kind : ExchangeKind) : Exchange := { exchange with kind }

/-- Makes an exchange delay its messages before it routes them by `kind`. -/
def delaying (exchange : Exchange) (kind : ExchangeKind) : Exchange :=
  { exchange with kind, behindDelay := some kind }

def lasting (exchange : Exchange) : Exchange := { exchange with durable := true }

def delayed (exchange : Exchange) : Bool := exchange.behindDelay.isSome

/-- The type under which an exchange is declared. -/
def declaredKind (exchange : Exchange) : String :=
  if exchange.delayed then "x-delayed-message" else exchange.kind.word

/-- The arguments with which an exchange is declared. -/
def arguments (exchange : Exchange) : Headers :=
  match exchange.behindDelay with
  | some kind => [("x-delayed-type", Header.ofText kind.word)]
  | none => []

end Exchange

/-- A queue to be declared. -/
structure Queue where
  name : String
  durable : Bool
  /-- How long a message may wait, in milliseconds. -/
  ttl : Option Int
  /-- The exchange and the key to which rejected and expired messages go. -/
  deadLetter : Option (String × String)
  deriving DecidableEq

namespace Queue

def ofName (name : String) : Queue := ⟨name, false, none, none⟩

def lasting (queue : Queue) : Queue := { queue with durable := true }

def expiring (queue : Queue) (ttl : Int) : Queue := { queue with ttl := some ttl }

def deadLettering (queue : Queue) (exchange key : String) : Queue :=
  { queue with deadLetter := some (exchange, key) }

/-- The arguments with which a queue is declared. -/
def arguments (queue : Queue) : Headers :=
  (match queue.deadLetter with
    | some (exchange, key) =>
        [("x-dead-letter-exchange", Header.ofText exchange),
          ("x-dead-letter-routing-key", Header.ofText key)]
    | none => [])
  ++ (match queue.ttl with
    | some ttl => [("x-message-ttl", Header.ofInt ttl)]
    | none => [])

end Queue

/-- A binding of a queue to an exchange. -/
structure Binding where
  queue : String
  exchange : String
  key : String
  deriving DecidableEq

namespace Binding

def ofQueue (queue : String) : Binding := ⟨queue, "", ""⟩

def withExchange (binding : Binding) (exchange : String) : Binding := { binding with exchange }

def withKey (binding : Binding) (key : String) : Binding := { binding with key }

end Binding

/-- One thing that a broker is asked for. -/
inductive Declaration where
  | exchange (definition : Exchange)
  | queue (definition : Queue)
  | binding (definition : Binding)
  deriving DecidableEq

/-- The failure of a broker that refuses a declaration. -/
def Declaration.failure : Declaration → Failure
  | exchange definition => .declaringExchange definition.name
  | queue definition => .declaringQueue definition.name
  | binding definition => .bindingQueue definition.exchange definition.queue

end Redelivery
