import Redelivery.Topology.Declaration
/-!
# Installation plans

A plan collects what is to be declared: an exchange or a queue once per name, the
first definition winning, and a binding once. `RetryCycle.ofClass` says what a
message class needs, `Plan.declarations` in which order a plan is installed, and
`install` asks for one declaration after the other until one is refused.
-/

namespace Redelivery

set_option autoImplicit false

/-- What one message class needs: from the direct queue a failed message goes to the
dead-letter queue, waits there for its time to live and returns to the direct
exchange; the junk queue leads nowhere. -/
structure RetryCycle where
  exchanges : List Exchange
  queues : List Queue
  bindings : List Binding
  deriving DecidableEq

namespace RetryCycle

/-- The binding that a route stands for. -/
def bindingOf (route : Route) : Binding := ⟨route.queue, route.exchange, route.key⟩

def ofClass (cls : MessageClass) : RetryCycle where
  exchanges :=
    [((Exchange.ofName cls.direct.exchange).delaying cls.kind).lasting,
      ((Exchange.ofName cls.deadLetter.exchange).withKind cls.kind).lasting,
      ((Exchange.ofName cls.junk.exchange).withKind cls.kind).lasting]
  queues :=
    [((Queue.ofName cls.direct.queue).deadLettering
        cls.deadLetter.exchange cls.deadLetter.key).lasting,
      (((Queue.ofName cls.deadLetter.queue).expiring cls.ttl).deadLettering
        cls.direct.exchange cls.direct.key).lasting,
      (Queue.ofName cls.junk.queue).lasting]
  bindings := [cls.direct, cls.deadLetter, cls.junk].map bindingOf

end RetryCycle

/-- A collection of declarations. -/
structure Plan where
  exchanges : List Exchange
  queues : List Queue
  bindings : List Binding
  deriving DecidableEq

namespace Plan

def empty : Plan := ⟨[], [], []⟩

/-- Adds an exchange unless its name is taken. -/
def addExchange (plan : Plan) (exchange : Exchange) : Plan :=
  if plan.exchanges.any (·.name = exchange.name) then plan
  else { plan with exchanges := plan.exchanges ++ [exchange] }

/-- Adds a queue unless its name is taken. -/
def addQueue (plan : Plan) (queue : Queue) : Plan :=
  if plan.queues.any (·.name = queue.name) then plan
  else { plan with queues := plan.queues ++ [queue] }

/-- Adds a binding unless it is there. -/
def addBinding (plan : Plan) (binding : Binding) : Plan :=
  if plan.bindings.contains binding then plan
  else { plan with bindings := plan.bindings ++ [binding] }

/-- Adds one declaration. -/
def add (plan : Plan) : Declaration → Plan
  | .exchange definition => plan.addExchange definition
  | .queue definition => plan.addQueue definition
  | .binding definition => plan.addBinding definition

/-- Adds all that a class needs. -/
def addClass (plan : Plan) (cls : MessageClass) : Plan :=
  let cycle := RetryCycle.ofClass cls
  let plan := cycle.exchanges.foldl addExchange plan
  let plan := cycle.queues.foldl addQueue plan
  cycle.bindings.foldl addBinding plan

/-- The plan of a list of classes. -/
def ofClasses (classes : List MessageClass) : Plan := classes.foldl addClass empty

/-- What a plan declares, in the order of its installation. -/
def declarations (plan : Plan) : List Declaration :=
  plan.exchanges.map .exchange ++ plan.queues.map .queue ++ plan.bindings.map .binding

end Plan

/-- Declares one thing after the other until one is refused. -/
def install {σ : Type} (declare : Declaration → σ → Bool × σ) :
    List Declaration → σ → Outcome × σ
  | [], state => (.ok (), state)
  | declaration :: rest, state =>
      match declare declaration state with
      | (true, state) => install declare rest state
      | (false, state) => (.error declaration.failure, state)

/-- The classes that take part: a class that is switched off is left out. -/
def enabledClasses (classes : List MessageClass) : List MessageClass :=
  classes.filter MessageClass.enabled

end Redelivery
