import Redelivery.Connection.Notice
import Redelivery.Connection.Wire
import Redelivery.Topology.Plan
/-!
# The connection of an application

A `Manager` owns at most one connection, with a channel to publish on and a channel
to consume on. Every connection that was established has a generation of its own, one
more than the one before; whatever is said about a connection is said under its
generation, so that what concerns a connection that has since been replaced can be
told apart.

`Connecting` cuts an attempt to connect, and `Closing` a closure, into the steps between
which other work can happen; `Manager.connect` and `Manager.close` take them one after
the other.
-/

namespace Redelivery

set_option autoImplicit false

/-- A connection in use. -/
structure Link where
  generation : Nat
  connection : ConnectionId
  produce : Channel
  consume : Channel
  deriving DecidableEq

/-- The connection of an application. -/
structure Manager where
  /-- How many connections were established. -/
  generation : Nat
  link : Option Link
  notices : NoticeStream
  /-- The connections whose loss is announced, each with its generation. -/
  watched : List (ConnectionId × Nat)

/-- A point in an attempt to connect: what has been done, and what comes next. -/
inductive Connecting where
  | dialing
  | openingProduce (connection : ConnectionId)
  | openingConsume (connection : ConnectionId) (produce : Channel)
  /-- Both channels are open; the generation is counted next. -/
  | numbering (connection : ConnectionId) (produce consume : Channel)
  /-- The generation is counted; the link is stored next. -/
  | storing (link : Link)
  /-- The link is stored; the one it replaced is closed next. -/
  | retiring (previous : Link)
  /-- A channel was refused; the connection is closed next. -/
  | withdrawing (connection : ConnectionId) (reason : String)
  | finished (outcome : Outcome)

namespace Connecting

variable {σ : Type}

/-- The reason given when a connection is closed because it is not wanted. -/
def closingReason : String := "closing"

/-- Takes the next step of an attempt. -/
def step (wire : Wire σ) : Connecting → Manager × σ → Connecting × (Manager × σ)
  | dialing, (manager, state) =>
      match wire.dial state with
      | (.ok connection, state) => (openingProduce connection, manager, state)
      | (.error reason, state) => (finished (.error (.connecting reason)), manager, state)
  | openingProduce connection, (manager, state) =>
      match wire.openChannel connection state with
      | (.ok produce, state) => (openingConsume connection produce, manager, state)
      | (.error reason, state) => (withdrawing connection reason, manager, state)
  | openingConsume connection produce, (manager, state) =>
      match wire.openChannel connection state with
      | (.ok consume, state) => (numbering connection produce consume, manager, state)
      | (.error reason, state) => (withdrawing connection reason, manager, state)
  | numbering connection produce consume, (manager, state) =>
      let generation := manager.generation + 1
      (storing ⟨generation, connection, produce, consume⟩,
        { manager with generation, watched := (connection, generation) :: manager.watched },
        state)
  | storing link, (manager, state) =>
      match manager.link with
      | some previous => (retiring previous, { manager with link := some link }, state)
      | none => (finished (.ok ()), { manager with link := some link }, state)
  | retiring previous, (manager, state) =>
      let (_, state) := wire.disconnect previous.connection closingReason state
      (finished (.ok ()), manager, state)
  | withdrawing connection reason, (manager, state) =>
      let (_, state) := wire.disconnect connection closingReason state
      (finished (.error (.openingChannel reason)), manager, state)
  | finished outcome, (manager, state) => (finished outcome, manager, state)

/-- Takes a number of steps. -/
def steps (wire : Wire σ) : Nat → Connecting → Manager × σ → Connecting × (Manager × σ)
  | 0, point, state => (point, state)
  | count + 1, point, state =>
      let (point, state) := step wire point state
      steps wire count point state

/-- The outcome of an attempt, once it has one. -/
def outcome? : Connecting → Option Outcome
  | finished outcome => some outcome
  | _ => none

/-- The number of steps of the longest attempt: dialing, two channels, the generation,
the link, and the link it replaced. -/
def longest : Nat := 6

end Connecting

/-- A point in closing the connection of an application: what comes next. -/
inductive Closing where
  /-- The stream of notices is ended next. -/
  | silencing
  /-- The link is forgotten next. -/
  | forgetting
  /-- The link is forgotten; its connection is closed next. -/
  | parting (link : Link)
  | finished (outcome : Outcome)

namespace Closing

variable {σ : Type}

/-- The reason given when an application closes its connection. -/
def shutdownReason : String := "shutdown"

/-- Takes the next step of a closure. -/
def step (wire : Wire σ) : Closing → Manager × σ → Closing × (Manager × σ)
  | silencing, (manager, state) =>
      (forgetting, { manager with notices := manager.notices.close }, state)
  | forgetting, (manager, state) =>
      match manager.link with
      | some link => (parting link, { manager with link := none }, state)
      | none => (finished (.ok ()), manager, state)
  | parting link, (manager, state) =>
      match wire.disconnect link.connection shutdownReason state with
      | (.ok (), state) => (finished (.ok ()), manager, state)
      | (.error reason, state) => (finished (.error (.connectionClosed reason)), manager, state)
  | finished outcome, (manager, state) => (finished outcome, manager, state)

/-- Takes a number of steps. -/
def steps (wire : Wire σ) : Nat → Closing → Manager × σ → Closing × (Manager × σ)
  | 0, point, state => (point, state)
  | count + 1, point, state =>
      let (point, state) := step wire point state
      steps wire count point state

/-- The outcome of a closure, once it has one. -/
def outcome? : Closing → Option Outcome
  | finished outcome => some outcome
  | _ => none

/-- The number of steps of the longest closure: the stream, the link, the connection. -/
def longest : Nat := 3

end Closing

namespace Manager

variable {σ : Type}

/-- The manager of an application that has not connected yet. -/
def fresh : Manager := ⟨0, none, .untaken, []⟩

/-- Connects: dials, opens two channels, and replaces the connection in use. -/
def connect (wire : Wire σ) (state : Manager × σ) : Outcome × (Manager × σ) :=
  let (point, state) := Connecting.steps wire Connecting.longest .dialing state
  (point.outcome?.getD (.error .internal), state)

/-- Raises a notice about a generation. -/
def report (generation : Nat) (reason : String) (manager : Manager) : Manager :=
  { manager with notices := manager.notices.raise ⟨generation, reason⟩ }

/-- The broker ended a connection, or it broke. -/
def lost (connection : ConnectionId) (reason : String) (manager : Manager) : Manager :=
  match manager.watched.lookup connection with
  | some generation => manager.report generation reason
  | none => manager

/-- Hands out the stream of notices, if it can be. -/
def takeNotices (manager : Manager) : Bool × Manager :=
  let (taken, notices) := manager.notices.take
  (taken, { manager with notices })

/-- Ends the stream of notices and closes the connection in use. The connection is
forgotten even if closing it fails. -/
def close (wire : Wire σ) (state : Manager × σ) : Outcome × (Manager × σ) :=
  let (point, state) := Closing.steps wire Closing.longest .silencing state
  (point.outcome?.getD (.error .internal), state)

/-- The connection in use. -/
def inUse (manager : Manager) : Except Failure Link :=
  match manager.link with
  | some link => .ok link
  | none => .error .notConnected

/-- What is announced when the channel to publish on turns out to be gone. -/
def unusableReason (fault : PublishFault) : String := "produce channel unusable: " ++ fault.reason

/-- Publishes on the connection in use. Whatever the broker confirms counts as
published; a fault that leaves the channel unusable is announced. -/
def publish (wire : Wire σ) : Publisher (Manager × σ) := fun publication (manager, state) =>
  match manager.link with
  | none => (.error .notConnected, manager, state)
  | some link =>
      match wire.publish link.produce publication state with
      | (.ok _, state) => (.ok (), manager, state)
      | (.error fault, state) =>
          let manager :=
            if fault.unusable then manager.report link.generation (unusableReason fault)
            else manager
          (.error (.publishing publication.exchange), manager, state)

/-- Declares one thing after the other on the channel to publish on. -/
def install (wire : Wire σ) (declarations : List Declaration) :
    Manager × σ → Outcome × (Manager × σ)
  | (manager, state) =>
      match manager.link with
      | none => (.error .notConnected, manager, state)
      | some link =>
          let (outcome, state) := Redelivery.install (wire.declare link.produce) declarations state
          (outcome, manager, state)

end Manager

end Redelivery
