import Redelivery.Subscription.WorkerPool
/-!
# Rehearsing a worker pool

A worker pool under a clock that only moves when nothing else can happen. A sender
puts jobs into the queue, in order, none before its time, waiting while the queue is
full; a job takes its time and ends, panics, or kills its worker. The pool may be
stopped at some time, or let go of at once, which does not stop it.

What is due at one time happens in the order in which it was put on the calendar;
then sender and workers go on until neither can.
-/

namespace Redelivery.Rehearsal

set_option autoImplicit false

/-- How a job comes out. -/
inductive JobManner where
  | returns
  /-- It panics when its time is over, which its worker survives. -/
  | panics
  /-- It kills its worker before it has begun. -/
  | kills
  deriving DecidableEq

/-- A job: how long it takes, when it may be sent, and how it comes out. -/
structure Job where
  duration : Nat
  notBefore : Nat
  manner : JobManner
  deriving DecidableEq

/-- What is noted about a job. -/
inductive JobEvent where
  | ended
  | panicked
  | sent
  | started
  | killed
  /-- There was no worker any more. -/
  | refused
  deriving DecidableEq

/-- The place of an event among those of the same time. -/
def JobEvent.rank : JobEvent → Nat
  | ended | panicked => 0
  | sent => 1
  | started | killed => 2
  | refused => 3

/-- The word under which an event is listed. -/
def JobEvent.word : JobEvent → String
  | ended => "end"
  | panicked => "panic"
  | sent => "sent"
  | started => "start"
  | killed => "killed"
  | refused => "refused"

/-- An event of a job, given by its index, at a time. -/
structure JobNote where
  time : Nat
  event : JobEvent
  job : Nat
  deriving DecidableEq

namespace JobNote

/-- The order in which notes are listed: by time, then by kind, then by job. -/
def precedes (first second : JobNote) : Bool :=
  if first.time ≠ second.time then decide (first.time < second.time)
  else if first.event.rank ≠ second.event.rank then
    decide (first.event.rank < second.event.rank)
  else decide (first.job ≤ second.job)

end JobNote

/-- Who acts when a time on the calendar has come. -/
inductive Actor where
  | stopper
  | sender
  | worker (index : Nat)
  deriving DecidableEq

/-- A rehearsal of a pool. -/
structure PoolRun where
  now : Nat
  pool : WorkerPool (Nat × Job)
  /-- The jobs that were not sent yet, by index. -/
  unsent : List (Nat × Job)
  /-- Who acts when, in the order of the times. -/
  calendar : List (Nat × Actor)
  notes : List JobNote
  /-- The most jobs that ran at once. -/
  peak : Nat
  /-- When a worker last departed. -/
  departed : Nat

namespace PoolRun

def note (event : JobEvent) (job : Nat) (run : PoolRun) : PoolRun :=
  { run with notes := run.notes ++ [⟨run.now, event, job⟩] }

/-- Puts an entry after all that are due no later. -/
def enter (due : Nat) (actor : Actor) : List (Nat × Actor) → List (Nat × Actor)
  | [] => [(due, actor)]
  | entry :: rest =>
      if due < entry.1 then (due, actor) :: entry :: rest else entry :: enter due actor rest

def schedule (due : Nat) (actor : Actor) (run : PoolRun) : PoolRun :=
  { run with calendar := enter due actor run.calendar }

/-- The sender sends what it can of the jobs that are left. -/
def sendAll : List (Nat × Job) → PoolRun → PoolRun
  | [], run => { run with unsent := [], pool := { run.pool with queue := run.pool.queue.finish } }
  | (index, job) :: rest, run =>
      if run.now < job.notBefore then
        let run := { run with unsent := (index, job) :: rest }
        if run.calendar.any (·.2 = .sender) then run else run.schedule job.notBefore .sender
      else
        match run.pool.queue.offer (index, job) with
        | .accepted queue =>
            sendAll rest ({ run with pool := { run.pool with queue } }.note .sent index)
        | .full => { run with unsent := (index, job) :: rest }
        | .refused =>
            { run with
              unsent := []
              pool := { run.pool with queue := run.pool.queue.finish } }.note .refused index

def send (run : PoolRun) : PoolRun := sendAll run.unsent run

/-- A worker begins a job; one that takes no time is over at once. -/
def begin (worker index : Nat) (job : Job) (run : PoolRun) : PoolRun :=
  match job.manner with
  | .kills =>
      { run with pool := run.pool.kill worker, departed := run.now }.note .killed index
  | .returns | .panics =>
      let run := { run with peak := max run.peak run.pool.busyCount }.note .started index
      if job.duration = 0 then
        let event := if job.manner = .panics then JobEvent.panicked else .ended
        { run with pool := run.pool.complete worker }.note event index
      else run.schedule (run.now + job.duration) (.worker worker)

/-- A free worker takes his turn; says whether there was anything to do. -/
def takeTurn (worker : Nat) (run : PoolRun) : Bool × PoolRun :=
  match run.pool.turn with
  | .take (index, job) _ =>
      (true, { run with pool := run.pool.receive worker }.begin worker index job)
  | .leave => (true, { run with pool := run.pool.receive worker, departed := run.now })
  | .wait => (false, run)

/-- The first worker who is free. -/
def freeWorker? (run : PoolRun) : Option Nat :=
  run.pool.workers.findIdx? fun worker => match worker with
    | .free => true
    | _ => false

/-- Sender and workers go on until neither can, in at most `fuel` turns. -/
def settle : Nat → PoolRun → PoolRun
  | 0, run => run.send
  | fuel + 1, run =>
      let run := run.send
      match run.freeWorker? with
      | none => run
      | some worker =>
          match run.takeTurn worker with
          | (true, run) => settle fuel run
          | (false, run) => run

/-- No more turns than this can follow one another: each takes a job or is a worker's
last. -/
def turns (run : PoolRun) : Nat :=
  run.unsent.length + run.pool.queue.items.length + run.pool.workers.length + 1

/-- A worker's job is over, and he looks for the next. -/
def endJob (worker : Nat) (run : PoolRun) : PoolRun :=
  match run.pool.workers[worker]? with
  | some (.busy (index, job)) =>
      let event := if job.manner = .panics then JobEvent.panicked else .ended
      let run := { run with pool := run.pool.complete worker }.note event index
      (run.takeTurn worker).2
  | _ => run

/-- What is due happens. -/
def act (run : PoolRun) : Actor → PoolRun
  | .stopper => { run with pool := run.pool.stop }
  | .sender => run.send
  | .worker index => run.endJob index

/-- All that is due at one time happens, and then what follows from it. -/
def strike (time : Nat) (run : PoolRun) : PoolRun :=
  let due := (run.calendar.takeWhile (·.1 ≤ time)).map Prod.snd
  let run := { run with now := time, calendar := run.calendar.dropWhile (·.1 ≤ time) }
  let run := due.foldl act run
  run.settle run.turns

/-- Goes from one time on the calendar to the next, at most `fuel` times. -/
def play : Nat → PoolRun → PoolRun
  | 0, run => run
  | fuel + 1, run =>
      match run.calendar with
      | [] => run
      | (time, _) :: _ => play fuel (run.strike time)

/-- A whole rehearsal, from time zero. Every entry of the calendar is the stop, the end
of a job, or the time of a job that waits to be sent. -/
def perform (size capacity : Nat) (jobs : List Job) (stopAt : Option Nat) : PoolRun :=
  let unsent := jobs.zipIdx.map fun (job, index) => (index, job)
  let start : PoolRun := {
    now := 0
    pool := .ofSize size (.ofCapacity capacity)
    unsent
    calendar := match stopAt with | some time => [(time, .stopper)] | none => []
    notes := []
    peak := 0
    departed := 0 }
  play (2 * jobs.length + 1) (start.strike 0)

/-- The notes of a run, in the order in which they are listed. -/
def listed (run : PoolRun) : List JobNote := run.notes.mergeSort JobNote.precedes

/-- When whoever stops the pool at some time, if at all, has seen all workers leave. -/
def joinedAt (run : PoolRun) (stopAt : Option Nat) : Nat := max run.departed (stopAt.getD 0)

end PoolRun

end Redelivery.Rehearsal
