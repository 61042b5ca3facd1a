import Redelivery.Connection.Notice
import Redelivery.Failure
import Redelivery.Subscription.TaskQueue
/-!
# Collectors

A collector moves the deliveries of a subscription into the task queue, in order and
one at a time. It ends with its stream of deliveries, well or with the error of the
stream, or when nobody takes tasks any more; in each case it finishes the queue. An
end that is a failure is announced under the generation of the subscription.
-/

namespace Redelivery

set_option autoImplicit false

/-- A collector: the deliveries that are still to come from the stream, and the one it
holds until there is room in the queue. -/
inductive Collector (δ : Type) where
  | pulling (stream : List (Except String δ))
  | holding (delivery : δ) (stream : List (Except String δ))
  | ended (outcome : Outcome)

namespace Collector

variable {δ : Type}

/-- The failure of a collector whose tasks nobody takes. -/
def queueClosed : Failure := .consuming "task queue closed"

/-- Takes the next step, if there is one: a collector that holds a delivery waits for
room, and one that has ended stays so. -/
def step : Collector δ → TaskQueue δ → Option (Collector δ × TaskQueue δ)
  | pulling [], queue => some (ended (.ok ()), queue.finish)
  | pulling (.error reason :: _), queue => some (ended (.error (.consuming reason)), queue.finish)
  | pulling (.ok delivery :: stream), queue => some (holding delivery stream, queue)
  | holding delivery stream, queue =>
      match queue.offer delivery with
      | .accepted queue => some (pulling stream, queue)
      | .full => none
      | .refused => some (ended (.error queueClosed), queue.finish)
  | ended _, _ => none

/-- How many steps a collector can take at most. -/
def remaining : Collector δ → Nat
  | pulling stream => 2 * stream.length + 1
  | holding _ stream => 2 * stream.length + 2
  | ended _ => 0

/-- A step brings a collector nearer to its end. -/
theorem remaining_lt_of_step {collector next : Collector δ} {queue after : TaskQueue δ}
    (taken : collector.step queue = some (next, after)) : next.remaining < collector.remaining := by
  cases collector with
  | ended outcome => simp [step] at taken
  | pulling stream =>
      match stream with
      | [] =>
          simp only [step, Option.some.injEq, Prod.mk.injEq] at taken
          simp [← taken.1, remaining]
      | .error reason :: rest =>
          simp only [step, Option.some.injEq, Prod.mk.injEq] at taken
          simp [← taken.1, remaining]
      | .ok delivery :: rest =>
          simp only [step, Option.some.injEq, Prod.mk.injEq] at taken
          simp only [← taken.1, remaining, List.length_cons]
          omega
  | holding delivery stream =>
      simp only [step] at taken
      split at taken
      · simp only [Option.some.injEq, Prod.mk.injEq] at taken
        simp only [← taken.1, remaining]
        omega
      · simp at taken
      · simp only [Option.some.injEq, Prod.mk.injEq] at taken
        simp [← taken.1, remaining]

/-- Takes steps until the collector has ended or has to wait for room. -/
def fill (collector : Collector δ) (queue : TaskQueue δ) : Collector δ × TaskQueue δ :=
  match taken : collector.step queue with
  | none => (collector, queue)
  | some (next, after) =>
      have := remaining_lt_of_step taken
      fill next after
termination_by collector.remaining

/-- The outcome of a collector that has ended. -/
def outcome? : Collector δ → Option Outcome
  | ended outcome => some outcome
  | _ => none

/-- Announces the outcome of a collector, if it is a failure. -/
def announce (generation : Nat) (outcome : Outcome) (notices : NoticeStream) : NoticeStream :=
  match outcome with
  | .ok () => notices
  | .error failure => notices.raise ⟨generation, failure.message⟩

end Collector

end Redelivery
