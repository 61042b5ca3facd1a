import Redelivery.Connection.Wire
/-!
# Observed wires

What is said of a client is often said of what it asks of its broker. An `Observer` says what is
to be noted of a request and its answer; an observed wire answers as the wire itself does, and
keeps the notes in the order in which they were taken.
-/

namespace Redelivery

set_option autoImplicit false

/-- What is noted of each request and its answer; nothing, unless it is said. -/
structure Observer (τ : Type) where
  dial : Except String ConnectionId → List τ := fun _ => []
  openChannel : ConnectionId → Except String Channel → List τ := fun _ _ => []
  disconnect : ConnectionId → String → Except String Unit → List τ := fun _ _ _ => []
  declare : Channel → Declaration → Bool → List τ := fun _ _ _ => []
  publish : Channel → Publication → Except PublishFault Confirmation → List τ := fun _ _ _ => []
  limitPrefetch : Channel → Nat → Bool → List τ := fun _ _ _ => []
  startConsumer : Channel → String → Option ConsumerTag → List τ := fun _ _ _ => []
  cancelConsumer : Channel → ConsumerTag → Bool → List τ := fun _ _ _ => []

/-- The wire with the notes of an observer behind the earlier ones. -/
def Wire.observed {σ τ : Type} (wire : Wire σ) (observer : Observer τ) : Wire (σ × List τ) where
  dial state :=
    let told := wire.dial state.1
    (told.1, told.2, state.2 ++ observer.dial told.1)
  openChannel connection state :=
    let told := wire.openChannel connection state.1
    (told.1, told.2, state.2 ++ observer.openChannel connection told.1)
  disconnect connection reason state :=
    let told := wire.disconnect connection reason state.1
    (told.1, told.2, state.2 ++ observer.disconnect connection reason told.1)
  declare channel declaration state :=
    let told := wire.declare channel declaration state.1
    (told.1, told.2, state.2 ++ observer.declare channel declaration told.1)
  publish channel publication state :=
    let told := wire.publish channel publication state.1
    (told.1, told.2, state.2 ++ observer.publish channel publication told.1)
  limitPrefetch channel count state :=
    let told := wire.limitPrefetch channel count state.1
    (told.1, told.2, state.2 ++ observer.limitPrefetch channel count told.1)
  startConsumer channel queue state :=
    let told := wire.startConsumer channel queue state.1
    (told.1, told.2, state.2 ++ observer.startConsumer channel queue told.1)
  cancelConsumer channel tag state :=
    let told := wire.cancelConsumer channel tag state.1
    (told.1, told.2, state.2 ++ observer.cancelConsumer channel tag told.1)

end Redelivery
