import Redelivery.Connection.Notice
import Redelivery.Delivery
/-!
# Recovery

A supervisor watches the notices of lost connections. A notice of the connection in
use starts a recovery: rest for an interval, reconnect, then restore what lives on a
connection, one step after the other. Whatever fails, the supervisor rests and starts
over. A request to stop ends it while it watches or rests; so does, while it watches,
the end of the notices.

A supervisor is a value with one function per thing that can happen to it. Who calls
them, and when, is left to a schedule: the rehearsals have one each.
-/

namespace Redelivery

set_option autoImplicit false

/-- What a supervisor is doing. -/
inductive SupervisorPhase where
  | watching
  | resting
  | reconnecting
  /-- The restore step of this index is running. -/
  | restoring (index : Nat)
  | ended (outcome : Outcome)

/-- A supervisor of a connection. -/
structure Supervisor where
  phase : SupervisorPhase
  /-- It was asked to stop. -/
  stopping : Bool

namespace Supervisor

/-- A supervisor that has just been started. -/
def started : Supervisor := ⟨.watching, false⟩

/-- Asks a supervisor to stop. -/
def stop (supervisor : Supervisor) : Supervisor := { supervisor with stopping := true }

def enter (phase : SupervisorPhase) (supervisor : Supervisor) : Supervisor :=
  { supervisor with phase }

/-- What a supervisor does by itself when it looks up: it obeys a request to stop
before it reads a notice, and a notice of a connection that is not in use is passed
over. A supervisor that ends lets go of the notices. There is nothing to do while no
notice is there, while it rests, and while it waits for an attempt or a step. -/
def look (live : Nat) (supervisor : Supervisor) (notices : NoticeStream) :
    Option (Supervisor × NoticeStream) :=
  match supervisor.phase with
  | .watching =>
      if supervisor.stopping then some (supervisor.enter (.ended (.ok ())), notices.abandon)
      else
        match notices.receive with
        | (.notice notice, rest) =>
            if notice.generation = live then some (supervisor.enter .resting, rest)
            else some (supervisor, rest)
        | (.ended, rest) =>
            some (supervisor.enter (.ended (.error .noticesEnded)), rest.abandon)
        | (.empty, _) | (.noReader, _) => none
  | .resting =>
      if supervisor.stopping then some (supervisor.enter (.ended (.ok ())), notices.abandon)
      else none
  | .reconnecting | .restoring _ | .ended _ => none

/-- The interval is over. -/
def rested (supervisor : Supervisor) : Supervisor :=
  match supervisor.phase with
  | .resting => supervisor.enter .reconnecting
  | _ => supervisor

/-- The step of this index comes next, if there is one; else the recovery is over. -/
def restoreFrom (index steps : Nat) (supervisor : Supervisor) : Supervisor :=
  supervisor.enter (if index < steps then .restoring index else .watching)

/-- The attempt to reconnect is over; a panic ends the supervisor. -/
def reconnected (steps : Nat) (result : Attempt Unit) (supervisor : Supervisor) : Supervisor :=
  match supervisor.phase, result with
  | .reconnecting, .done () => supervisor.restoreFrom 0 steps
  | .reconnecting, .failed _ => supervisor.enter .resting
  | .reconnecting, .panicked _ => supervisor.enter (.ended (.error .internal))
  | _, _ => supervisor

/-- A restore step is over. -/
def restored (steps : Nat) (outcome : Outcome) (supervisor : Supervisor) : Supervisor :=
  match supervisor.phase, outcome with
  | .restoring index, .ok () => supervisor.restoreFrom (index + 1) steps
  | .restoring _, .error _ => supervisor.enter .resting
  | _, _ => supervisor

/-- The outcome of a supervisor that has ended. -/
def outcome? (supervisor : Supervisor) : Option Outcome :=
  match supervisor.phase with
  | .ended outcome => some outcome
  | _ => none

def finished (supervisor : Supervisor) : Bool := supervisor.outcome?.isSome

end Supervisor

end Redelivery
