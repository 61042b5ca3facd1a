import Redelivery.Publication
import Redelivery.Topology.Declaration
/-!
# Wires

What a client can ask of a broker, one function per request. The state behind a
`Wire` is whatever answers: a broker that follows a script, one that refuses every
call, or a bare record of what was asked.
-/

namespace Redelivery

set_option autoImplicit false

/-- A connection, numbered by the attempts to dial. -/
abbrev ConnectionId := Nat

/-- A channel of a connection. -/
structure Channel where
  connection : ConnectionId
  number : Nat
  deriving DecidableEq

/-- The tag of a consumer: its queue and a part that no other tag shares. -/
structure ConsumerTag where
  queue : String
  serial : Nat
  deriving DecidableEq

/-- What a broker says of a message that it took. -/
inductive Confirmation where
  /-- Nothing, because the channel was never asked to confirm. -/
  | unasked
  | positive
  | negative
  deriving DecidableEq

/-- What kind of error a client met. -/
inductive FaultKind where
  /-- The channel is in a state in which it cannot be used. -/
  | channelState
  /-- The connection is in a state in which it cannot be used. -/
  | connectionState
  | other
  deriving DecidableEq

/-- Why a message could not be sent or was not confirmed. -/
structure PublishFault where
  reason : String
  kind : FaultKind
  /-- The channel is connected, the fault notwithstanding. -/
  connected : Bool
  deriving DecidableEq

/-- The channel is not connected any more, or cannot be used in the state that it is in. -/
def PublishFault.unusable (fault : PublishFault) : Bool :=
  !fault.connected || decide (fault.kind ≠ .other)

/-- What a client can ask of a broker. -/
structure Wire (σ : Type) where
  dial : σ → Except String ConnectionId × σ
  openChannel : ConnectionId → σ → Except String Channel × σ
  /-- Closes a connection, giving a reason. -/
  disconnect : ConnectionId → String → σ → Except String Unit × σ
  /-- Declares something; says whether it was accepted. -/
  declare : Channel → Declaration → σ → Bool × σ
  /-- Sends a message and waits for its confirmation; either may fail. -/
  publish : Channel → Publication → σ → Except PublishFault Confirmation × σ
  /-- Limits how many messages the broker sends ahead. -/
  limitPrefetch : Channel → Nat → σ → Bool × σ
  /-- Starts a consumer of a queue under a fresh tag. -/
  startConsumer : Channel → String → σ → Option ConsumerTag × σ
  cancelConsumer : Channel → ConsumerTag → σ → Bool × σ

end Redelivery
