import Redelivery.Subscription.Collector
/-!
# Rehearsing a collector

A collector alone with its queue and a reader of the queue. The reader may read all
there is, or only so many deliveries: before each of them the collector works as far
as it can, once more after the last, and then the reader goes away.
-/

namespace Redelivery.Rehearsal

set_option autoImplicit false

/-- How much the reader of a queue reads. -/
inductive Reading where
  | all
  | first (count : Nat)

/-- A collector, its queue, and what was read so far. -/
structure CollectorRun (δ : Type) where
  collector : Collector δ
  queue : TaskQueue δ
  read : List δ

namespace CollectorRun

variable {δ : Type}

/-- A collector before its first step. -/
def start (capacity : Nat) (stream : List (Except String δ)) : CollectorRun δ :=
  ⟨.pulling stream, .ofCapacity capacity, []⟩

/-- The collector works as far as it can. -/
def fill (run : CollectorRun δ) : CollectorRun δ :=
  let (collector, queue) := run.collector.fill run.queue
  { run with collector, queue }

/-- The reader reads one delivery, if there is one. -/
def readOne (run : CollectorRun δ) : CollectorRun δ :=
  match run.queue.take? with
  | some (delivery, queue) => { run with queue, read := run.read ++ [delivery] }
  | none => run

/-- The collector works, and the reader reads, a number of times. -/
def readMany : Nat → CollectorRun δ → CollectorRun δ
  | 0, run => run
  | count + 1, run => readMany count run.fill.readOne

/-- The reader goes away. -/
def leave (run : CollectorRun δ) : CollectorRun δ := { run with queue := run.queue.abandon }

/-- The whole run. A reader who reads all there is needs no more rounds than there are
deliveries; one who reads nothing is gone from the start. -/
def finish (capacity : Nat) (stream : List (Except String δ)) (reading : Reading) :
    CollectorRun δ :=
  let run := start capacity stream
  match reading with
  | .all => (readMany (stream.length + 1) run).fill
  | .first 0 => run.leave.fill
  | .first count => (readMany count run).fill.leave.fill

end CollectorRun

end Redelivery.Rehearsal
