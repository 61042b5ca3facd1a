import Redelivery.Supervisor
/-!
# Rehearsing a recovery

A supervisor under a clock that only moves by waiting, with scripted attempts to
reconnect and scripted restore steps; a script that is used up goes on to succeed. At
given times somebody acts on the supervisor. When the supervisor and somebody else
are due at the same time, the supervisor goes first, and it reacts to every act at
once, as far as that takes no time.
-/

namespace Redelivery.Rehearsal

set_option autoImplicit false

/-- A scripted attempt to reconnect. -/
structure ScriptedAttempt where
  duration : Nat
  result : Attempt Unit

/-- A scripted restore step. -/
structure ScriptedStep where
  name : String
  script : List Outcome

/-- What somebody does. -/
inductive RecoveryAct where
  | raiseNotice (notice : Notice)
  | stop
  /-- Ends the stream of notices. -/
  | endNotices
  /-- Changes the generation of the connection in use. -/
  | setGeneration (generation : Nat)
  /-- Only looks. -/
  | inspect

/-- The word under which an act is listed. -/
def RecoveryAct.word : RecoveryAct → String
  | raiseNotice _ => "notice"
  | stop => "stop"
  | endNotices => "close"
  | setGeneration _ => "set_generation"
  | inspect => "status"

/-- What is noted. -/
inductive RecoveryNote where
  /-- A notice was raised; says whether anybody listened. -/
  | raised (accepted : Bool)
  | reconnected (result : Attempt Unit)
  | restored (name : String) (outcome : Outcome)
  /-- Somebody acted; says whether the supervisor has ended, and the generation. -/
  | acted (act : RecoveryAct) (finished : Bool) (generation : Nat)

/-- A rehearsal of a recovery. -/
structure RecoveryRun where
  now : Nat
  interval : Nat
  /-- Whether a connection counts as a new generation. -/
  counting : Bool
  generation : Nat
  supervisor : Supervisor
  notices : NoticeStream
  attempts : List ScriptedAttempt
  steps : List ScriptedStep
  /-- When the rest, or the attempt, that is under way will be over. -/
  wake : Nat
  notes : List (Nat × RecoveryNote)

namespace RecoveryRun

def note (entry : RecoveryNote) (run : RecoveryRun) : RecoveryRun :=
  { run with notes := run.notes ++ [(run.now, entry)] }

/-- The attempt that comes next, and what is left of the script. -/
def nextAttempt : List ScriptedAttempt → ScriptedAttempt × List ScriptedAttempt
  | [] => (⟨0, .done ()⟩, [])
  | attempt :: rest => (attempt, rest)

/-- When a supervisor begins to rest, the end of the rest is fixed. -/
def settingWake (run : RecoveryRun) : RecoveryRun :=
  match run.supervisor.phase with
  | .resting => { run with wake := run.now + run.interval }
  | _ => run

/-- The attempt under way is over. -/
def endAttempt (run : RecoveryRun) : RecoveryRun :=
  let (attempt, attempts) := nextAttempt run.attempts
  let generation :=
    match attempt.result with
    | .done () => if run.counting then run.generation + 1 else run.generation
    | .failed _ | .panicked _ => run.generation
  let supervisor := run.supervisor.reconnected run.steps.length attempt.result
  let notices := if supervisor.finished then run.notices.abandon else run.notices
  ({ run with attempts, generation, supervisor, notices }.note
    (.reconnected attempt.result)).settingWake

/-- The restore step of an index runs, which takes no time. -/
def runStep (index : Nat) (run : RecoveryRun) : RecoveryRun :=
  match run.steps[index]? with
  | none => run
  | some step =>
      let outcome := step.script.headD (.ok ())
      let steps := run.steps.set index { step with script := step.script.drop 1 }
      let supervisor := run.supervisor.restored run.steps.length outcome
      ({ run with steps, supervisor }.note (.restored step.name outcome)).settingWake

/-- What the supervisor does next, if anything comes next by the given time. -/
def advance? (until? : Option Nat) (run : RecoveryRun) : Option RecoveryRun :=
  let due := match until? with
    | some time => decide (run.wake ≤ time)
    | none => true
  match run.supervisor.look run.generation run.notices with
  | some (supervisor, notices) => some { run with supervisor, notices }.settingWake
  | none =>
      match run.supervisor.phase with
      | .resting =>
          if due then
            let now := run.wake
            let wake := now + (nextAttempt run.attempts).1.duration
            some { run with now, wake, supervisor := run.supervisor.rested }
          else none
      | .reconnecting => if due then some { run with now := run.wake }.endAttempt else none
      | .restoring index => some (run.runStep index)
      | .watching | .ended _ => none

/-- Goes on until nothing comes next by the given time, in at most `fuel` turns. -/
def advanceAll (until? : Option Nat) : Nat → RecoveryRun → RecoveryRun
  | 0, run => run
  | fuel + 1, run =>
      match run.advance? until? with
      | none => run
      | some next => advanceAll until? fuel next

/-- No more turns than this can follow one another: an attempt that comes to nothing
uses up an entry of a script, one that succeeds a notice. -/
def turns (run : RecoveryRun) : Nat :=
  (run.notices.pending.length + run.attempts.length
      + (run.steps.map fun step => step.script.length).foldl (· + ·) 0 + 2) * (run.steps.length + 4)

def settle (until? : Option Nat) (run : RecoveryRun) : RecoveryRun :=
  run.advanceAll until? run.turns

/-- Carries out an act. -/
def perform (act : RecoveryAct) (run : RecoveryRun) : RecoveryRun :=
  match act with
  | .raiseNotice notice =>
      { run with notices := run.notices.raise notice }.note (.raised run.notices.listening)
  | .stop => { run with supervisor := run.supervisor.stop }
  | .endNotices => { run with notices := run.notices.close }
  | .setGeneration generation => { run with generation }
  | .inspect => run

/-- Somebody acts at a time, or as soon after it as the clock allows; the supervisor
goes first and reacts at once. -/
def actAt (time : Nat) (act : RecoveryAct) (run : RecoveryRun) : RecoveryRun :=
  let time := max time run.now
  let run := run.settle (some time)
  let run := { run with now := time }.perform act
  let run := run.settle (some time)
  run.note (.acted act run.supervisor.finished run.generation)

/-- The end of a rehearsal: the supervisor is asked to stop and awaited. -/
def conclude (run : RecoveryRun) : RecoveryRun :=
  { run with supervisor := run.supervisor.stop }.settle none

/-- A rehearsal before anything has happened. -/
def start (interval generation : Nat) (counting : Bool) (attempts : List ScriptedAttempt)
    (steps : List ScriptedStep) : RecoveryRun where
  now := 0
  interval
  counting
  generation
  supervisor := .started
  notices := NoticeStream.untaken.take.2
  attempts
  steps
  wake := 0
  notes := []

/-- A whole rehearsal. -/
def play (start : RecoveryRun) (acts : List (Nat × RecoveryAct)) : RecoveryRun :=
  (acts.foldl (fun run (time, act) => run.actAt time act) start).conclude

end RecoveryRun

end Redelivery.Rehearsal
