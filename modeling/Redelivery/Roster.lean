import Redelivery.Failure
/-!
# Rosters

The subscriptions of an application, one for each of its inbounds. To register is to
end all that are active and to subscribe every inbound again, in order; the first
that fails ends the attempt, and what was opened before it stays active.
-/

namespace Redelivery

set_option autoImplicit false

namespace Roster

variable {ι υ σ : Type}

/-- The name of this restore step. -/
def stepName : String := "consumers"

/-- Stops a subscription and waits for its end. Whatever either reports is passed over. -/
def retire {ρ τ : Type} (stop : υ → σ → ρ × σ) (join : υ → σ → τ × σ) (subscription : υ)
    (state : σ) : σ :=
  (join subscription (stop subscription state).2).2

/-- Ends every subscription of a list, in order. -/
def endAll (retire : υ → σ → σ) (active : List υ) (state : σ) : σ :=
  active.foldl (fun state subscription => retire subscription state) state

/-- Subscribes one inbound after the other. An inbound may have no subscription. -/
def subscribeAll (subscribe : ι → σ → Except Failure (Option υ) × σ) :
    List ι → List υ → σ → Outcome × List υ × σ
  | [], active, state => (.ok (), active, state)
  | inbound :: rest, active, state =>
      match subscribe inbound state with
      | (.ok (some subscription), state) =>
          subscribeAll subscribe rest (active ++ [subscription]) state
      | (.ok none, state) => subscribeAll subscribe rest active state
      | (.error failure, state) => (.error failure, active, state)

/-- Ends the active subscriptions and subscribes every inbound again. -/
def register (retire : υ → σ → σ) (subscribe : ι → σ → Except Failure (Option υ) × σ)
    (inbounds : List ι) (active : List υ) (state : σ) : Outcome × List υ × σ :=
  subscribeAll subscribe inbounds [] (endAll retire active state)

/-- Ends the active subscriptions; none is left. -/
def shutdown (retire : υ → σ → σ) (active : List υ) (state : σ) : List υ × σ :=
  ([], endAll retire active state)

end Roster

end Redelivery
