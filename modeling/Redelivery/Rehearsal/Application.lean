import Redelivery.Rehearsal.Broker
import Redelivery.Roster
import Redelivery.Subscription.Collector
import Redelivery.Subscription.Opening
import Redelivery.Supervisor
/-!
# Rehearsing an application

All parts together against a scripted broker: one connection, the topology and the
subscriptions of a list of classes, and a supervisor. An `Act` of the rehearsal is
over when all that follows from it has happened: the signals of the broker have
reached the parts they concern, and the supervisor has nothing left to do. Resting
takes no time here.
-/

namespace Redelivery.Rehearsal

set_option autoImplicit false

/-- What does not change during a rehearsal. -/
structure Setup where
  /-- What the address of the broker says. -/
  target : Option DialTarget
  /-- The name of the connection. -/
  name : String
  classes : List MessageClass
  prefetch : Nat

/-- How far the collector of a subscription has come. -/
inductive Collecting where
  | running
  | ended (outcome : Outcome)
  /-- It was told to give up when the subscription was stopped. -/
  | aborted

/-- A subscription that was opened, the class it is for, and its collector. -/
structure Inflow where
  subscription : Subscription
  cls : MessageClass
  collecting : Collecting

/-- An application and its broker. -/
structure Application where
  manager : Manager
  broker : Broker
  /-- Every subscription that was opened. -/
  inflows : List Inflow
  /-- The subscriptions on the roster. -/
  active : List Subscription
  /-- A subscription that is kept apart from the roster. -/
  apart : Option Subscription
  supervisor : Option Supervisor

namespace Application

/-- An application that has done nothing yet. -/
def fresh : Application := ⟨.fresh, .idle, [], [], none, none⟩

/-- Does something with the connection of the application. -/
def withConnection {α : Type} (change : Manager × Broker → α × (Manager × Broker))
    (app : Application) : α × Application :=
  let (result, manager, broker) := change (app.manager, app.broker)
  (result, { app with manager, broker })

/-! ## Signals -/

/-- The stream of a consumer ended: its collector ends, and says so if that was a
failure. A collector that has ended before is not concerned. -/
def endStream (tag : ConsumerTag) (error : Option String) (app : Application) : Application :=
  let outcome : Outcome := match error with
    | none => .ok ()
    | some reason => .error (.consuming reason)
  match app.inflows.find? fun inflow => inflow.subscription.tag = tag with
  | some ⟨subscription, _, .running⟩ =>
      { app with
        inflows := app.inflows.map fun inflow =>
          if inflow.subscription.tag = tag then { inflow with collecting := .ended outcome }
          else inflow
        manager := { app.manager with
          notices := Collector.announce subscription.generation outcome app.manager.notices } }
  | _ => app

/-- A signal reaches the part that it concerns. -/
def heed (app : Application) : Signal → Application
  | .connectionLost connection reason =>
      { app with manager := app.manager.lost connection reason }
  | .streamEnded tag error => app.endStream tag error

/-- All signals that are there reach the parts that they concern. -/
def heedAll (app : Application) : Application :=
  let (signals, broker) := app.broker.takeSignals
  signals.foldl heed { app with broker }

/-! ## Parts -/

def connect (setup : Setup) (app : Application) : Outcome × Application :=
  let (outcome, app) :=
    app.withConnection (Manager.connect (Broker.wire setup.target setup.name))
  (outcome, app.heedAll)

def close (setup : Setup) (app : Application) : Outcome × Application :=
  let (outcome, app) :=
    app.withConnection (Manager.close (Broker.wire setup.target setup.name))
  (outcome, app.heedAll)

/-- Declares a plan on the channel to publish on. -/
def install (setup : Setup) (plan : Plan) (app : Application) : Outcome × Application :=
  let (outcome, app) := app.withConnection
    (Manager.install (Broker.wire setup.target setup.name) plan.declarations)
  (outcome, app.heedAll)

/-- Declares what the classes need. -/
def registerTopology (setup : Setup) (app : Application) : Outcome × Application :=
  app.install setup (Plan.ofClasses (enabledClasses setup.classes))

/-- Publishes on the connection in use. -/
def publish (setup : Setup) : Publisher Application := fun publication app =>
  let (outcome, app) := app.withConnection
    (Manager.publish (Broker.wire setup.target setup.name) publication)
  (outcome, app.heedAll)

/-- Opens a subscription of a class. -/
def subscribe (setup : Setup) (cls : MessageClass) (app : Application) :
    Except Failure (Option Subscription) × Application :=
  let (result, app) := app.withConnection
    (Subscription.opened (Broker.wire setup.target setup.name) cls setup.prefetch)
  let app : Application := match result with
    | .ok (some subscription) =>
        { app with inflows := app.inflows ++ [⟨subscription, cls, .running⟩] }
    | _ => app
  (result, app.heedAll)

/-- Stops a subscription: cancels its consumer, and tells its collector to give up. -/
def stopSubscription (setup : Setup) (subscription : Subscription) (app : Application) :
    Application :=
  let (_, broker) := (Broker.wire setup.target setup.name).cancelConsumer
    subscription.channel subscription.tag app.broker
  let inflows := app.inflows.map fun inflow =>
    if inflow.subscription.tag = subscription.tag then
      match inflow.collecting with
      | .running => { inflow with collecting := .aborted }
      | .ended _ | .aborted => inflow
    else inflow
  { app with broker, inflows }.heedAll

/-- What is learned by waiting for a subscription to end, if it does: the outcome of
its collector, where one that gave up did no wrong. -/
def joinSubscription (subscription : Subscription) (app : Application) : Option Outcome :=
  match app.inflows.find? fun inflow => inflow.subscription.tag = subscription.tag with
  | some ⟨_, _, .ended outcome⟩ => some outcome
  | some ⟨_, _, .aborted⟩ => some (.ok ())
  | some ⟨_, _, .running⟩ | none => none

/-- Ends a subscription on the roster. -/
def retireSubscription (setup : Setup) : Subscription → Application → Application :=
  Roster.retire (fun subscription app => ((), app.stopSubscription setup subscription))
    (fun subscription app => (app.joinSubscription subscription, app))

/-- Ends the subscriptions on the roster and subscribes every class again. -/
def registerConsumers (setup : Setup) (app : Application) : Outcome × Application :=
  let (outcome, active, app) := Roster.register (retireSubscription setup) (subscribe setup)
    setup.classes app.active { app with active := [] }
  (outcome, { app with active })

/-- Ends the subscriptions on the roster. -/
def shutdown (setup : Setup) (app : Application) : Application :=
  let (active, app) :=
    Roster.shutdown (retireSubscription setup) app.active { app with active := [] }
  { app with active }

/-! ## Recovery -/

/-- The restore steps: first the topology, then the consumers. -/
def restoreSteps (setup : Setup) : List (Application → Outcome × Application) :=
  [registerTopology setup, registerConsumers setup]

/-- What the supervisor does next, if there is anything. -/
def supervise? (setup : Setup) (app : Application) : Option Application := do
  let supervisor ← app.supervisor
  let steps := restoreSteps setup
  match supervisor.look app.manager.generation app.manager.notices with
  | some (supervisor, notices) =>
      some { app with supervisor, manager := { app.manager with notices } }
  | none =>
      match supervisor.phase with
      | .resting => some { app with supervisor := supervisor.rested }
      | .reconnecting =>
          let (outcome, app) := app.connect setup
          let result : Attempt Unit := match outcome with
            | .ok () => .done ()
            | .error failure => .failed failure
          some { app with supervisor := supervisor.reconnected steps.length result }
      | .restoring index => do
          let step ← steps[index]?
          let (outcome, app) := step app
          some { app with supervisor := supervisor.restored steps.length outcome }
      | .watching | .ended _ => none

/-- The supervisor goes on until it has nothing to do, in at most `fuel` turns. -/
def superviseAll (setup : Setup) : Nat → Application → Application
  | 0, app => app
  | fuel + 1, app =>
      match app.supervise? setup with
      | none => app
      | some next => superviseAll setup fuel next

/-- No more turns than this can follow one another: an attempt fails only by a rule,
which it uses up, and raises no more notices than there are consumers, and one. -/
def turns (setup : Setup) (app : Application) : Nat :=
  (app.manager.notices.pending.length + app.inflows.length + setup.classes.length + 8)
    * ((app.broker.rules.map fun rule => rule.skip + 1).foldl (· + ·) 0 + 2)

/-- All that follows from what was done happens. -/
def settle (setup : Setup) (app : Application) : Application :=
  let app := app.heedAll
  app.superviseAll setup (app.turns setup)

/-- Starts a supervisor, if there is somebody who could hand it the notices. -/
def startSupervisor (app : Application) : Application :=
  if app.manager.notices.reader.isSome then { app with supervisor := some .started } else app

/-- Asks the supervisor to stop. -/
def stopSupervisor (app : Application) : Application :=
  { app with supervisor := app.supervisor.map Supervisor.stop }

/-- What is learned by waiting for the supervisor to end, if there is one that does. -/
def joinSupervisor (app : Application) : Option Outcome × Application :=
  match app.supervisor with
  | none => (none, app)
  | some supervisor =>
      match supervisor.outcome? with
      | some outcome => (some outcome, { app with supervisor := none })
      | none => (none, app)

/-! ## Deliveries -/

/-- The answer of a broker to a settlement that was sent, or the failure of one that
could not be. -/
def settleDelivery (channel : Channel) (method : Method) (failure : Failure)
    (app : Application) : Outcome × Application :=
  match app.broker.post channel method with
  | (true, broker) => (.ok (), { app with broker }.heedAll)
  | (false, broker) => (.error failure, { app with broker })

/-- The broker delivers a message to the newest consumer of a queue, and the message is
processed; `ν` is what the handler keeps apart from the application. -/
def deliver {α ν : Type} (setup : Setup) (counter : MessageClass → RetryCounter)
    (decode : Octets → Attempt α)
    (handle : α → Trace.Context → Application × ν → Attempt Unit × (Application × ν))
    (queue : String) (message : Message) (app : Application) (kept : ν) :
    Option Report × (Application × ν) :=
  match app.broker.newestConsumer? queue with
  | none => (none, app, kept)
  | some consumer =>
      match app.inflows.find? fun inflow => inflow.subscription.tag = consumer.tag with
      | none => (none, app, kept)
      | some inflow =>
          let (delivery, broker) := app.broker.deliver consumer.channel
          let lift (change : Application → Outcome × Application) :
              Application × ν → Outcome × (Application × ν) :=
            fun (app, kept) =>
              let (outcome, app) := change app
              (outcome, app, kept)
          let services : Services (Application × ν) α := {
            propagator := .standard
            handle
            publish := fun publication => lift (publish setup publication)
            acknowledge := lift
              (settleDelivery consumer.channel (.acknowledge delivery) .acknowledging)
            reject := fun requeue => lift
              (settleDelivery consumer.channel (.reject delivery requeue) .rejecting) }
          let (report, state) := Delivery.process services
            ⟨inflow.cls, counter inflow.cls, decode⟩ message ({ app with broker }, kept)
          (some report, state)

/-! ## What the broker does -/

/-- Lets the broker do something. -/
def withBroker (change : Broker → Broker) (app : Application) : Application :=
  { app with broker := change app.broker }.heedAll

/-- The broker cancels the newest consumer of a queue; says whether there was one. -/
def cancelConsumer (queue : String) (app : Application) : Bool × Application :=
  let (found, broker) := app.broker.cancel queue
  (found, { app with broker }.heedAll)

/-- Adds rules to those that the broker follows. -/
def addRules (rules : List Rule) (app : Application) : Application :=
  { app with broker := { app.broker with rules := app.broker.rules ++ rules } }

/-- Whether the connection in use is up, and the numbers of its channels. -/
def channels (app : Application) : Option (Bool × Nat × Nat) :=
  app.manager.link.map fun link =>
    (app.broker.isUp link.connection, link.produce.number, link.consume.number)

/-- Hands out the methods received since it was last asked. -/
def takeRecord (app : Application) : List Frame × Application :=
  let (record, broker) := app.broker.takeRecord
  (record, { app with broker })

end Application

end Redelivery.Rehearsal
