import Redelivery.Connection.Manager
/-!
# Opening a subscription

A subscription of a class is a consumer of its direct queue on the channel to consume
on, bound to the generation of the connection that it was opened on. A class that is
switched off has none.
-/

namespace Redelivery

set_option autoImplicit false

/-- An open subscription. -/
structure Subscription where
  tag : ConsumerTag
  channel : Channel
  generation : Nat
  deriving DecidableEq

namespace Subscription

/-- The queue that is consumed. -/
def queue (subscription : Subscription) : String := subscription.tag.queue

/-- Opens a subscription: limits how many messages may be sent ahead, then starts the
consumer. -/
def opened {σ : Type} (wire : Wire σ) (cls : MessageClass) (prefetch : Nat) :
    Manager × σ → Except Failure (Option Subscription) × (Manager × σ)
  | (manager, state) =>
      if cls.enabled then
        match manager.link with
        | none => (.error .notConnected, manager, state)
        | some link =>
            match wire.limitPrefetch link.consume prefetch state with
            | (false, state) => (.error (.limitingPrefetch cls.direct.queue), manager, state)
            | (true, state) =>
                match wire.startConsumer link.consume cls.direct.queue state with
                | (none, state) => (.error (.startingConsumer cls.direct.queue), manager, state)
                | (some tag, state) =>
                    (.ok (some ⟨tag, link.consume, link.generation⟩), manager, state)
      else (.ok none, manager, state)

end Subscription

end Redelivery
