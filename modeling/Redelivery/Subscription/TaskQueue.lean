/-!
# Task queues

The bounded queue between the one who collects deliveries and the workers who
process them. Tasks leave in the order in which they came. The collecting side
finishes a queue when it has nothing more to put in; the working side abandons it
when no worker is left.
-/

namespace Redelivery

set_option autoImplicit false

/-- A bounded queue of tasks. -/
structure TaskQueue (τ : Type) where
  capacity : Nat
  items : List τ
  /-- Nothing more will be put in. -/
  finished : Bool
  /-- Nothing more will be taken out. -/
  abandoned : Bool

/-- What becomes of a task that is offered to a queue. -/
inductive Offer (τ : Type) where
  | accepted (queue : TaskQueue τ)
  /-- There is no room at the moment. -/
  | full
  /-- Nobody would ever take it. -/
  | refused

namespace TaskQueue

variable {τ : Type}

/-- An empty queue. -/
def ofCapacity (capacity : Nat) : TaskQueue τ := ⟨capacity, [], false, false⟩

def hasRoom (queue : TaskQueue τ) : Bool := decide (queue.items.length < queue.capacity)

/-- Offers a task. -/
def offer (task : τ) (queue : TaskQueue τ) : Offer τ :=
  if queue.abandoned then .refused
  else if queue.hasRoom then .accepted { queue with items := queue.items ++ [task] }
  else .full

def finish (queue : TaskQueue τ) : TaskQueue τ := { queue with finished := true }

def abandon (queue : TaskQueue τ) : TaskQueue τ := { queue with abandoned := true }

/-- Takes out the oldest task. -/
def take? (queue : TaskQueue τ) : Option (τ × TaskQueue τ) :=
  match queue.items with
  | [] => none
  | task :: rest => some (task, { queue with items := rest })

end TaskQueue

end Redelivery
