import Redelivery.Proofs.Connection.Scene
/-!
# Shutting down under a supervisor

The closure of a manager ends the stream of notices and forgets the link. A supervisor that
watches finds the end of the stream and ends itself; but a supervisor that is in the middle
of a recovery looks at nothing except the request to stop, and goes on to reconnect.

So a closure is final under a condition on the scene that it returns to. `Scene.WindsDown`
spells the condition out, with the number of steps that the supervisor still takes, and
`shutdown_final_iff` says that it is the exact one.

* `windsDown_supervisor`, `windsDown_host`: a supervisor that winds down goes on to do so.
* `windsDown_or_breaks`: every other supervisor may still connect or begin something.
* `shutdown_final_iff`: a closure is final exactly if the manager is without a link and the
  supervisor winds down.
* `resting_reconnects`: a closure during the rest before an attempt is not final.
-/

namespace Redelivery

set_option autoImplicit false

/-- The number of steps that an attempt takes before it stores its link, if it gets there. -/
def Connecting.untilStored? : Connecting → Option Nat
  | dialing => some 4
  | openingProduce _ => some 3
  | openingConsume _ _ => some 2
  | numbering _ _ _ => some 1
  | storing _ => some 0
  | _ => none

theorem Connecting.untilStored?_step {left : Nat} (point : Connecting)
    (stores : point.untilStored? = some (left + 1)) (manager : Manager) (world : Nat) :
    (point.step .obliging (manager, world)).1.untilStored? = some left := by
  cases point <;> simp [untilStored?] at stores <;>
    simp [step, Wire.obliging, untilStored?, ← stores]

namespace Scene

variable {steps count : Nat} {scene next later : Scene}

/-! ## After a closure -/

/-- The host has no attempt to connect under way. -/
def Quiet (scene : Scene) : Prop :=
  ∀ (attempt : Nat) (point : Connecting), scene.attempts[attempt]? = some point →
    scene.own ≠ some attempt → point.outcome?.isSome = true

/-- A closure has returned, and the host connects no more. -/
structure Closed (scene : Scene) : Prop where
  returned : ∃ outcome, Closing.finished outcome ∈ scene.closings
  quiet : scene.Quiet

/-- What can follow while the host begins no attempt, with the number of steps that the
supervisor takes. -/
inductive Onward (steps : Nat) (scene : Scene) : Nat → Scene → Prop where
  | here : Onward steps scene 0 scene
  | supervisor {count : Nat} {middle later : Scene} (earlier : Onward steps scene count middle)
      (step : SupervisorStep steps middle later) : Onward steps scene (count + 1) later
  | host {count : Nat} {middle later : Scene} (earlier : Onward steps scene count middle)
      (step : HostStep middle later) : Onward steps scene count later
  /-- An attempt of the host that was under way goes on. -/
  | attempt {count : Nat} {middle : Scene} (earlier : Onward steps scene count middle)
      {attempt : Nat} {point : Connecting} (other : middle.own ≠ some attempt)
      (found : middle.attempts[attempt]? = some point) (going : point.outcome? = none)
      {World : Type} (wire : Wire World) (world : World) :
      Onward steps scene count (middle.advance attempt point wire world)

/-- Nothing comes of a scene any more: whatever follows, the manager stays without a
connection, the supervisor begins neither an attempt nor a restore step, takes only so many
steps, and has one to take until it has ended. -/
structure Final (steps : Nat) (scene : Scene) : Prop where
  unconnected : ∀ count later, Onward steps scene count later →
    later.manager.inUse = .error .notConnected
  idle : ∀ count later, Onward steps scene count later → later.begun = scene.begun
  bounded : ∃ bound, ∀ count later, Onward steps scene count later → count ≤ bound
  ends : ∀ count later, Onward steps scene count later →
    later.supervisor.finished = true ∨ ∃ next, SupervisorStep steps later next

theorem inUse_eq_iff (manager : Manager) :
    manager.inUse = .error .notConnected ↔ manager.link = none := by
  cases stored : manager.link <;> simp [Manager.inUse, stored]

/-- What a closure leaves for good: the stream of notices is closed and the host is quiet. -/
structure Hushed (scene : Scene) : Prop where
  tidy : scene.Tidy
  closed : scene.manager.notices.source = .closed
  quiet : scene.Quiet

theorem hushed_of_closed (reachable : Reachable steps scene) (closed : scene.Closed) :
    scene.Hushed := by
  obtain ⟨outcome, member⟩ := closed.returned
  have tidy := reachable_tidy reachable
  exact ⟨tidy, (tidy.silenced _ member).resolve_left nofun, closed.quiet⟩

theorem quiet_supervisor (tidy : scene.Tidy) (quiet : scene.Quiet)
    (step : SupervisorStep steps scene next) : next.Quiet := by
  cases step with
  | looked looks => exact quiet
  | rested resting unstopped =>
      intro attempt point found other
      have idle : scene.own ≠ some attempt := by
        intro own
        have phase := tidy.waiting.mpr (by simp [own])
        rw [resting] at phase
        cases phase
      have inside : attempt < scene.attempts.length := by
        have bound := (List.getElem?_eq_some_iff.mp found).1
        rw [List.length_append, List.length_singleton] at bound
        have different : attempt ≠ scene.attempts.length := fun same => other (by rw [same])
        omega
      rw [List.getElem?_append_left inside] at found
      exact quiet attempt point found idle
  | advanced own found going wire world =>
      rename_i attempt point World
      intro each place reached other
      have different : each ≠ attempt := fun same => other (by rw [same]; exact own)
      rw [advance_attempts attempt point wire world found, if_neg different] at reached
      exact quiet each place reached other
  | reconnected own found =>
      rename_i attempt outcome
      intro each place reached other
      by_cases same : each = attempt
      · subst same
        rw [Option.some.inj (reached.symm.trans found)]
        rfl
      · refine quiet each place reached fun owned => same ?_
        exact Option.some.inj (owned.symm.trans own)
  | restored restoring outcome => exact quiet

theorem hushed_supervisor (hushed : scene.Hushed) (step : SupervisorStep steps scene next) :
    next.Hushed := by
  obtain ⟨tidy, closed, quiet⟩ := hushed
  refine ⟨tidy_supervisor tidy step, ?_, quiet_supervisor tidy quiet step⟩
  cases step with
  | looked looks =>
      rcases Supervisor.look_cases looks with ⟨-, -, -, rfl⟩ | ⟨-, -, notice, later, -, rfl, -⟩ |
        ⟨-, -, -, -, -, rfl⟩ <;> exact closed
  | rested resting unstopped => exact closed
  | advanced own found going wire world =>
      rw [notices_advance]
      exact closed
  | reconnected own found => exact closed
  | restored restoring outcome => exact closed

/-- What the host can still do after a closure: ask the supervisor to stop, and forget the
link once more. -/
theorem host_cases (closed : scene.manager.notices.source = .closed)
    (step : HostStep scene next) :
    next.attempts = scene.attempts ∧ next.own = scene.own ∧ next.begun = scene.begun ∧
      (next.supervisor = scene.supervisor ∨ next.supervisor = scene.supervisor.stop) ∧
      (next.manager = scene.manager ∨ next.manager = { scene.manager with link := none }) := by
  cases step with
  | stopped => exact ⟨rfl, rfl, rfl, .inr rfl, .inl rfl⟩
  | raised notice =>
      refine ⟨rfl, rfl, rfl, .inl rfl, .inl ?_⟩
      simp [NoticeStream.raise, closed]
  | taken =>
      refine ⟨rfl, rfl, rfl, .inl rfl, .inl ?_⟩
      simp [Manager.takeNotices, NoticeStream.take, closed]
  | closing => exact ⟨rfl, rfl, rfl, .inl rfl, .inl rfl⟩
  | @closed closing point found World wire world =>
      refine ⟨rfl, rfl, rfl, .inl rfl, ?_⟩
      rcases point.step_cases wire scene.manager world with
        ⟨-, -, manager⟩ | ⟨-, -, manager⟩
      · refine .inl (manager.trans ?_)
        rw [NoticeStream.close, ← closed]
      · exact manager

theorem hushed_host (hushed : scene.Hushed) (step : HostStep scene next) : next.Hushed := by
  obtain ⟨attempts, own, -, -, manager⟩ := host_cases hushed.closed step
  refine ⟨tidy_host hushed.tidy step, ?_, ?_⟩
  · rcases manager with manager | manager <;> rw [manager] <;> exact hushed.closed
  · rw [Quiet, attempts, own]
    exact hushed.quiet

/-! ## Winding down -/

/-- No notice that waits is about the connection that was counted last, or nobody will read
it. -/
def Unheard (scene : Scene) : Prop :=
  scene.supervisor.stopping = true ∨
    ∀ notice ∈ scene.manager.notices.pending, notice.generation ≠ scene.manager.generation

/-- The supervisor comes to its end without beginning anything, within a number of steps:
it has ended; it watches and will read of no lost connection; it was asked to stop, and only
an attempt that is bound to fail or the last restore step keeps it; or its attempt has stored
a link already, there is nothing to restore, and it will read of no lost connection. -/
inductive WindsDown (steps : Nat) (scene : Scene) : Nat → Prop where
  | ended {outcome : Outcome} (phase : scene.supervisor.phase = .ended outcome) :
      WindsDown steps scene 0
  | watching (phase : scene.supervisor.phase = .watching) (unheard : scene.Unheard) :
      WindsDown steps scene (scene.manager.notices.pending.length + 1)
  | resting (phase : scene.supervisor.phase = .resting)
      (stopping : scene.supervisor.stopping = true) : WindsDown steps scene 1
  | failed (phase : scene.supervisor.phase = .reconnecting)
      (stopping : scene.supervisor.stopping = true) {attempt : Nat} {failure : Failure}
      (own : scene.own = some attempt)
      (place : scene.attempts[attempt]? = some (.finished (.error failure))) :
      WindsDown steps scene 2
  | withdrawing (phase : scene.supervisor.phase = .reconnecting)
      (stopping : scene.supervisor.stopping = true) {attempt : Nat} {connection : ConnectionId}
      {reason : String} (own : scene.own = some attempt)
      (place : scene.attempts[attempt]? = some (.withdrawing connection reason)) :
      WindsDown steps scene 3
  | connected (phase : scene.supervisor.phase = .reconnecting) (nothing : steps = 0)
      (unheard : scene.Unheard) {attempt : Nat} (own : scene.own = some attempt)
      (place : scene.attempts[attempt]? = some (.finished (.ok ()))) :
      WindsDown steps scene (scene.manager.notices.pending.length + 2)
  | retiring (phase : scene.supervisor.phase = .reconnecting) (nothing : steps = 0)
      (unheard : scene.Unheard) {attempt : Nat} {previous : Link}
      (own : scene.own = some attempt)
      (place : scene.attempts[attempt]? = some (.retiring previous)) :
      WindsDown steps scene (scene.manager.notices.pending.length + 3)
  | restoring {index : Nat} (phase : scene.supervisor.phase = .restoring index)
      (stopping : scene.supervisor.stopping = true) (last : steps ≤ index + 1) :
      WindsDown steps scene (scene.manager.notices.pending.length + 2)

/-- Nothing that the host does after a closure keeps a supervisor from winding down. -/
theorem windsDown_host (closed : scene.manager.notices.source = .closed)
    (winding : WindsDown steps scene count) (step : HostStep scene next) :
    WindsDown steps next count := by
  obtain ⟨attempts, own, -, supervisor, manager⟩ := host_cases closed step
  have phase : next.supervisor.phase = scene.supervisor.phase := by
    rcases supervisor with supervisor | supervisor <;> rw [supervisor]
    rfl
  have stopping (before : scene.supervisor.stopping = true) :
      next.supervisor.stopping = true := by
    rcases supervisor with supervisor | supervisor <;> rw [supervisor]
    · exact before
    · rfl
  have pending : next.manager.notices.pending = scene.manager.notices.pending := by
    rcases manager with manager | manager <;> rw [manager]
  have generation : next.manager.generation = scene.manager.generation := by
    rcases manager with manager | manager <;> rw [manager]
  have unheard (before : scene.Unheard) : next.Unheard := by
    rw [Unheard, pending, generation]
    exact before.imp_left stopping
  cases winding with
  | ended was => exact .ended (phase.trans was)
  | watching was nothing =>
      rw [← pending]
      exact .watching (phase.trans was) (unheard nothing)
  | resting was asked => exact .resting (phase.trans was) (stopping asked)
  | failed was asked owned place =>
      exact .failed (phase.trans was) (stopping asked) (own.trans owned) (attempts ▸ place)
  | withdrawing was asked owned place =>
      exact .withdrawing (phase.trans was) (stopping asked) (own.trans owned) (attempts ▸ place)
  | connected was none nothing owned place =>
      rw [← pending]
      exact .connected (phase.trans was) none (unheard nothing) (own.trans owned)
        (attempts ▸ place)
  | retiring was none nothing owned place =>
      rw [← pending]
      exact .retiring (phase.trans was) none (unheard nothing) (own.trans owned)
        (attempts ▸ place)
  | restoring was asked last =>
      rw [← pending]
      exact .restoring (phase.trans was) (stopping asked) last

/-- A supervisor that winds down and looks up ends, or has one notice less to read. -/
theorem windsDown_looked {supervisor : Supervisor} {notices : NoticeStream}
    (winding : WindsDown steps scene count)
    (looks : scene.supervisor.look scene.manager.generation scene.manager.notices =
      some (supervisor, notices)) :
    ∃ fewer < count,
      WindsDown steps { scene with supervisor, manager := { scene.manager with notices } } fewer := by
  rcases Supervisor.look_cases looks with ⟨-, looking, rfl, rfl⟩ |
    ⟨unstopped, looking, notice, later, reader, rfl, rfl⟩ | ⟨-, looking, -, -, rfl, rfl⟩
  · refine ⟨0, ?_, .ended rfl⟩
    cases winding with
    | ended phase => simp [phase] at looking
    | _ => omega
  · cases winding with
    | watching phase unheard =>
        have pending : scene.manager.notices.pending = notice :: later := by
          rw [NoticeStream.pending, reader]
          rfl
        have stale : ∀ each ∈ notice :: later, each.generation ≠ scene.manager.generation := by
          rw [← pending]
          exact unheard.resolve_left (by simp [unstopped])
        rw [pending, if_neg (stale notice (List.mem_cons_self ..))]
        exact ⟨later.length + 1, by simp, .watching phase
          (.inr fun each member => stale each (List.mem_cons_of_mem _ member))⟩
    | ended phase | resting phase | failed phase | withdrawing phase | connected phase
    | retiring phase | restoring phase =>
        rw [looking] at phase
        cases phase
  · refine ⟨0, ?_, .ended rfl⟩
    cases winding with
    | ended phase => simp [phase] at looking
    | _ => omega

section Reconnecting

variable (waiting : scene.supervisor.phase = .reconnecting) {attempt : Nat}
  (own : scene.own = some attempt)

include waiting own

theorem windsDown_advanced {point : Connecting} (winding : WindsDown steps scene count)
    (found : scene.attempts[attempt]? = some point) (going : point.outcome? = none)
    {World : Type} (wire : Wire World) (world : World) :
    (scene.advance attempt point wire world).manager = scene.manager ∧
      ∃ fewer < count, WindsDown steps (scene.advance attempt point wire world) fewer := by
  have inside : attempt < scene.attempts.length := (List.getElem?_eq_some_iff.mp found).1
  cases winding with
  | withdrawing phase stopping owned place =>
      cases own.symm.trans owned
      cases found.symm.trans place
      exact ⟨rfl, 2, by omega, .failed phase stopping own (List.getElem?_set_self inside)⟩
  | retiring phase nothing unheard owned place =>
      cases own.symm.trans owned
      cases found.symm.trans place
      exact ⟨rfl, _, Nat.lt_succ_self _,
        .connected phase nothing unheard own (List.getElem?_set_self inside)⟩
  | failed phase stopping owned place | connected phase nothing unheard owned place =>
      cases own.symm.trans owned
      cases found.symm.trans place
      cases going
  | ended phase | watching phase | resting phase | restoring phase =>
      rw [waiting] at phase
      cases phase

theorem windsDown_reconnected {outcome : Outcome} (winding : WindsDown steps scene count)
    (found : scene.attempts[attempt]? = some (.finished outcome)) :
    let supervisor := scene.supervisor.reconnected steps (.ofOutcome outcome)
    supervisor.phase.beginnings = [] ∧
      ∃ fewer < count, WindsDown steps { scene.resumed supervisor with own := none } fewer := by
  cases winding with
  | failed phase stopping owned place =>
      cases own.symm.trans owned
      cases found.symm.trans place
      rw [Supervisor.reconnected_error waiting]
      exact ⟨rfl, 1, by omega, .resting rfl stopping⟩
  | connected phase nothing unheard owned place =>
      cases own.symm.trans owned
      cases found.symm.trans place
      rw [Supervisor.reconnected_ok waiting, if_neg (by omega)]
      exact ⟨rfl, _, Nat.lt_succ_self _, .watching rfl unheard⟩
  | withdrawing phase stopping owned place | retiring phase nothing unheard owned place =>
      cases own.symm.trans owned
      cases found.symm.trans place
  | ended phase | watching phase | resting phase | restoring phase =>
      rw [waiting] at phase
      cases phase

end Reconnecting

theorem windsDown_restored {index : Nat} (winding : WindsDown steps scene count)
    (restoring : scene.supervisor.phase = .restoring index) (outcome : Outcome) :
    (scene.supervisor.restored steps outcome).phase.beginnings = [] ∧
      ∃ fewer < count,
        WindsDown steps (scene.resumed (scene.supervisor.restored steps outcome)) fewer := by
  cases winding with
  | restoring phase stopping last =>
      cases phase.symm.trans restoring
      cases outcome with
      | error failure =>
          rw [Supervisor.restored_error restoring]
          exact ⟨rfl, 1, by omega, .resting rfl stopping⟩
      | ok =>
          rw [Supervisor.restored_ok restoring, if_neg (by omega)]
          exact ⟨rfl, _, Nat.lt_succ_self _, .watching rfl (.inl stopping)⟩
  | ended phase | watching phase | resting phase | failed phase | withdrawing phase
  | connected phase | retiring phase =>
      rw [restoring] at phase
      cases phase

theorem windsDown_resting (winding : WindsDown steps scene count)
    (resting : scene.supervisor.phase = .resting) : scene.supervisor.stopping = true := by
  cases winding with
  | resting phase stopping => exact stopping
  | ended phase | watching phase | failed phase | withdrawing phase | connected phase
  | retiring phase | restoring phase =>
      rw [resting] at phase
      cases phase

/-- Every step of a supervisor that winds down brings it nearer to its end, begins nothing
and leaves the link as it is. -/
theorem windsDown_supervisor (tidy : scene.Tidy) (winding : WindsDown steps scene count)
    (step : SupervisorStep steps scene next) :
    next.begun = scene.begun ∧ next.manager.link = scene.manager.link ∧
      ∃ fewer < count, WindsDown steps next fewer := by
  have waits (attempt : Nat) (own : scene.own = some attempt) :
      scene.supervisor.phase = .reconnecting := tidy.waiting.mpr (by simp [own])
  have nothing (supervisor : Supervisor) (none : supervisor.phase.beginnings = []) :
      (scene.resumed supervisor).begun = scene.begun := by
    rw [resumed, none, List.append_nil]
  cases step with
  | looked looks => exact ⟨rfl, rfl, windsDown_looked winding looks⟩
  | rested resting unstopped =>
      have stopping := windsDown_resting winding resting
      rw [unstopped] at stopping
      cases stopping
  | advanced own found going wire world =>
      obtain ⟨manager, shorter⟩ :=
        windsDown_advanced (waits _ own) own winding found going wire world
      exact ⟨rfl, by rw [manager], shorter⟩
  | reconnected own found =>
      obtain ⟨none, shorter⟩ := windsDown_reconnected (waits _ own) own winding found
      exact ⟨nothing _ none, rfl, shorter⟩
  | restored restoring outcome =>
      obtain ⟨none, shorter⟩ := windsDown_restored winding restoring outcome
      exact ⟨nothing _ none, rfl, shorter⟩

/-- What can follow while a supervisor winds down, by induction on what follows. -/
theorem windsDown_onward {bound : Nat} (hushed : scene.Hushed)
    (unlinked : scene.manager.link = none) (winding : WindsDown steps scene bound)
    (onward : Onward steps scene count later) :
    later.Hushed ∧ later.manager.link = none ∧ later.begun = scene.begun ∧
      ∃ left, count + left ≤ bound ∧ WindsDown steps later left := by
  induction onward with
  | here => exact ⟨hushed, unlinked, rfl, bound, by omega, winding⟩
  | supervisor earlier step ih =>
      obtain ⟨hushed, unlinked, begun, left, within, winding⟩ := ih
      obtain ⟨stepBegun, link, fewer, less, stillWinding⟩ :=
        windsDown_supervisor hushed.tidy winding step
      exact ⟨hushed_supervisor hushed step, link.trans unlinked, stepBegun.trans begun, fewer,
        by omega, stillWinding⟩
  | host earlier step ih =>
      obtain ⟨hushed, unlinked, begun, left, within, winding⟩ := ih
      obtain ⟨-, -, stepBegun, -, manager⟩ := host_cases hushed.closed step
      refine ⟨hushed_host hushed step, ?_, stepBegun.trans begun, left, within,
        windsDown_host hushed.closed winding step⟩
      rcases manager with manager | manager <;> rw [manager]
      exact unlinked
  | attempt earlier other found going wire world ih =>
      have ended := ih.1.quiet _ _ found other
      rw [going] at ended
      cases ended

/-- A supervisor of a closed manager is never stuck. -/
theorem supervisor_goes_on (steps : Nat) (hushed : scene.Hushed) :
    scene.supervisor.finished = true ∨ ∃ next, SupervisorStep steps scene next := by
  obtain ⟨tidy, closed, -⟩ := hushed
  cases phase : scene.supervisor.phase with
  | ended outcome => exact .inl (by simp [Supervisor.finished, Supervisor.outcome?, phase])
  | watching =>
      have held := tidy.reading (by simp [Supervisor.outcome?, phase])
      obtain ⟨pending, reader⟩ := Option.isSome_iff_exists.mp held
      refine .inr ?_
      cases looks : scene.supervisor.look scene.manager.generation scene.manager.notices with
      | some after => exact ⟨_, .looked looks⟩
      | none =>
          -- Only an empty stream that is still open makes it wait, and this one is closed.
          exfalso
          cases stopping : scene.supervisor.stopping with
          | true => simp [Supervisor.look, phase, stopping] at looks
          | false =>
              cases pending with
              | nil =>
                  simp [Supervisor.look, phase, stopping, NoticeStream.receive, reader, closed]
                    at looks
              | cons notice later =>
                  simp only [Supervisor.look, phase, stopping, NoticeStream.receive, reader,
                    Bool.false_eq_true, if_false] at looks
                  split at looks <;> cases looks
  | resting =>
      refine .inr ?_
      cases stopping : scene.supervisor.stopping with
      | true =>
          have looks : scene.supervisor.look scene.manager.generation scene.manager.notices =
              some (scene.supervisor.enter (.ended (.ok ())), scene.manager.notices.abandon) := by
            simp [Supervisor.look, phase, stopping]
          exact ⟨_, .looked looks⟩
      | false => exact ⟨_, .rested phase stopping⟩
  | reconnecting =>
      refine .inr ?_
      obtain ⟨attempt, own⟩ := Option.isSome_iff_exists.mp (tidy.waiting.mp phase)
      obtain ⟨point, found⟩ : ∃ point, scene.attempts[attempt]? = some point :=
        ⟨_, List.getElem?_eq_getElem (tidy.owned attempt own)⟩
      -- The world is free to answer, so any wire shows that the attempt can go on.
      cases point with
      | finished outcome => exact ⟨_, .reconnected own found⟩
      | _ => exact ⟨_, .advanced own found rfl .obliging 0⟩
  | restoring index => exact .inr ⟨_, .restored phase (.ok ())⟩

/-! ## Everything else breaks the silence -/

/-- Something comes of the scene after all: a link is stored, or the supervisor begins an
attempt or a restore step. -/
def Breaks (steps : Nat) (scene : Scene) : Prop :=
  ∃ count later, Onward steps scene count later ∧
    (later.manager.link ≠ none ∨ scene.begun.length < later.begun.length)

theorem onward_after (step : SupervisorStep steps scene next)
    (onward : Onward steps next count later) : Onward steps scene (count + 1) later := by
  induction onward with
  | here => exact .supervisor .here step
  | supervisor earlier last ih => exact .supervisor ih last
  | host earlier last ih => exact .host ih last
  | attempt earlier other found going wire world ih =>
      exact .attempt ih other found going wire world

theorem begun_grows (step : SupervisorStep steps scene next) :
    scene.begun.length ≤ next.begun.length := by
  cases step with
  | looked looks | advanced own found going wire world => exact Nat.le_refl _
  | rested resting unstopped => simp
  | reconnected own found | restored restoring outcome => simp [resumed]

theorem breaks_of_step (step : SupervisorStep steps scene next) (breaks : next.Breaks steps) :
    scene.Breaks steps := by
  obtain ⟨count, later, onward, broken⟩ := breaks
  exact ⟨count + 1, later, onward_after step onward,
    broken.imp_right fun more => Nat.lt_of_le_of_lt (begun_grows step) more⟩

theorem breaks_of_begun (step : SupervisorStep steps scene next)
    (more : scene.begun.length < next.begun.length) : scene.Breaks steps :=
  ⟨1, next, .supervisor .here step, .inr more⟩

theorem breaks_of_link (linked : scene.manager.link ≠ none) : scene.Breaks steps :=
  ⟨0, scene, .here, .inl linked⟩

/-- A supervisor that rests and was not asked to stop will reconnect. -/
theorem breaks_of_resting (resting : scene.supervisor.phase = .resting)
    (unstopped : scene.supervisor.stopping = false) : scene.Breaks steps :=
  breaks_of_begun (.rested resting unstopped) (by simp)

/-- A supervisor that watches reads of the lost connection sooner or later. -/
theorem breaks_of_watching (pending : List Notice) :
    ∀ scene : Scene, scene.supervisor.phase = .watching → scene.supervisor.stopping = false →
      scene.manager.notices.reader = some pending →
      (∃ notice ∈ pending, notice.generation = scene.manager.generation) →
      scene.Breaks steps := by
  induction pending with
  | nil =>
      rintro scene - - - ⟨notice, member, -⟩
      cases member
  | cons first others ih =>
      intro scene watching unstopped reader heard
      have looks : scene.supervisor.look scene.manager.generation scene.manager.notices =
          some (if first.generation = scene.manager.generation then
              scene.supervisor.enter .resting else scene.supervisor,
            { scene.manager.notices with reader := some others }) := by
        simp only [Supervisor.look, watching, unstopped, NoticeStream.receive, reader,
          Bool.false_eq_true, if_false]
        split <;> rfl
      refine breaks_of_step (.looked looks) ?_
      by_cases live : first.generation = scene.manager.generation
      · rw [if_pos live]
        exact breaks_of_resting rfl unstopped
      · rw [if_neg live]
        refine ih _ watching unstopped rfl ?_
        obtain ⟨notice, member, same⟩ := heard
        rcases List.mem_cons.mp member with rfl | member
        · exact absurd same live
        · exact ⟨notice, member, same⟩

theorem breaks_of_heard (watching : scene.supervisor.phase = .watching)
    (heard : ¬ scene.Unheard) : scene.Breaks steps := by
  obtain ⟨unstopped, live⟩ := not_or.mp heard
  cases reader : scene.manager.notices.reader with
  | none => simp [NoticeStream.pending, reader] at live
  | some pending =>
      refine breaks_of_watching pending scene watching (by simpa using unstopped) reader ?_
      simpa [NoticeStream.pending, reader] using live

theorem breaks_of_attempt (left : Nat) :
    ∀ (scene : Scene) (attempt : Nat) (point : Connecting), scene.own = some attempt →
      scene.attempts[attempt]? = some point → point.untilStored? = some left →
      scene.Breaks steps := by
  induction left with
  | zero =>
      intro scene attempt point own found stores
      cases point with
      | storing link =>
          refine breaks_of_step (.advanced own found rfl .obliging 0) (breaks_of_link ?_)
          cases stored : scene.manager.link <;> simp [advance, Connecting.step, stored]
      | _ => simp [Connecting.untilStored?] at stores
  | succ left ih =>
      intro scene attempt point own found stores
      have going : point.outcome? = none := by
        cases point <;> first | rfl | simp [Connecting.untilStored?] at stores
      refine breaks_of_step (.advanced own found going .obliging 0) ?_
      refine ih _ attempt _ own ?_ (Connecting.untilStored?_step point stores scene.manager 0)
      rw [advance_attempts attempt point _ _ found, if_pos rfl]

section Reconnecting

variable (waiting : scene.supervisor.phase = .reconnecting) {attempt : Nat}
  (own : scene.own = some attempt)

include waiting own

theorem breaks_of_failed (unstopped : scene.supervisor.stopping = false) {failure : Failure}
    (found : scene.attempts[attempt]? = some (.finished (.error failure))) :
    scene.Breaks steps := by
  refine breaks_of_step (.reconnected own found) ?_
  rw [Supervisor.reconnected_error waiting]
  exact breaks_of_resting rfl unstopped

theorem breaks_of_connected (more : ¬ (steps = 0 ∧ scene.Unheard))
    (found : scene.attempts[attempt]? = some (.finished (.ok ()))) : scene.Breaks steps := by
  by_cases restores : 0 < steps
  · refine breaks_of_begun (.reconnected own found) ?_
    rw [Supervisor.reconnected_ok waiting, if_pos restores]
    simp [resumed, Supervisor.enter, SupervisorPhase.beginnings]
  · refine breaks_of_step (.reconnected own found) ?_
    rw [Supervisor.reconnected_ok waiting, if_neg restores]
    exact breaks_of_heard rfl fun unheard => more ⟨by omega, unheard⟩

end Reconnecting

theorem breaks_of_restoring {index : Nat} (phase : scene.supervisor.phase = .restoring index)
    (more : ¬ (scene.supervisor.stopping = true ∧ steps ≤ index + 1)) : scene.Breaks steps := by
  by_cases last : steps ≤ index + 1
  · have unstopped : scene.supervisor.stopping = false := by
      simpa using fun stopping => more ⟨stopping, last⟩
    refine breaks_of_step (.restored phase (.error .internal)) ?_
    rw [Supervisor.restored_error phase]
    exact breaks_of_resting rfl unstopped
  · refine breaks_of_begun (.restored phase (.ok ())) ?_
    rw [Supervisor.restored_ok phase, if_pos (by omega)]
    simp [resumed, Supervisor.enter, SupervisorPhase.beginnings]

theorem windsDown_or_breaks_reconnecting (steps : Nat) (tidy : scene.Tidy)
    (waiting : scene.supervisor.phase = .reconnecting) :
    (∃ count, WindsDown steps scene count) ∨ scene.Breaks steps := by
  obtain ⟨attempt, own⟩ := Option.isSome_iff_exists.mp (tidy.waiting.mp waiting)
  obtain ⟨point, found⟩ : ∃ point, scene.attempts[attempt]? = some point :=
    ⟨_, List.getElem?_eq_getElem (tidy.owned attempt own)⟩
  have inside : attempt < scene.attempts.length := tidy.owned attempt own
  cases point with
  | dialing | openingProduce | openingConsume | numbering | storing =>
      exact .inr (breaks_of_attempt _ scene attempt _ own found rfl)
  | withdrawing connection reason =>
      cases stopping : scene.supervisor.stopping with
      | true => exact .inl ⟨3, .withdrawing waiting stopping own found⟩
      | false =>
          refine .inr (breaks_of_step (.advanced own found rfl .obliging 0) ?_)
          exact breaks_of_failed waiting own stopping (List.getElem?_set_self inside)
  | retiring previous =>
      by_cases calm : steps = 0 ∧ scene.Unheard
      · exact .inl ⟨_, .retiring waiting calm.1 calm.2 own found⟩
      · refine .inr (breaks_of_step (.advanced own found rfl .obliging 0) ?_)
        exact breaks_of_connected waiting own calm (List.getElem?_set_self inside)
  | finished outcome =>
      cases outcome with
      | error failure =>
          cases stopping : scene.supervisor.stopping with
          | true => exact .inl ⟨2, .failed waiting stopping own found⟩
          | false => exact .inr (breaks_of_failed waiting own stopping found)
      | ok =>
          by_cases calm : steps = 0 ∧ scene.Unheard
          · exact .inl ⟨_, .connected waiting calm.1 calm.2 own found⟩
          · exact .inr (breaks_of_connected waiting own calm found)

/-- A supervisor that does not wind down may still connect or begin something. -/
theorem windsDown_or_breaks (steps : Nat) (tidy : scene.Tidy) :
    (∃ count, WindsDown steps scene count) ∨ scene.Breaks steps := by
  cases phase : scene.supervisor.phase with
  | ended outcome => exact .inl ⟨0, .ended phase⟩
  | watching =>
      by_cases unheard : scene.Unheard
      · exact .inl ⟨_, .watching phase unheard⟩
      · exact .inr (breaks_of_heard phase unheard)
  | resting =>
      cases stopping : scene.supervisor.stopping with
      | true => exact .inl ⟨1, .resting phase stopping⟩
      | false => exact .inr (breaks_of_resting phase stopping)
  | reconnecting => exact windsDown_or_breaks_reconnecting steps tidy phase
  | restoring index =>
      by_cases last : scene.supervisor.stopping = true ∧ steps ≤ index + 1
      · exact .inl ⟨_, .restoring phase last.1 last.2⟩
      · exact .inr (breaks_of_restoring phase last)

/-- **When a closure is final**: exactly if it returns to a manager without a link and to a
supervisor that winds down. -/
theorem shutdown_final_iff (reachable : Reachable steps scene) (closed : scene.Closed) :
    Final steps scene ↔ scene.manager.link = none ∧ ∃ count, WindsDown steps scene count := by
  have hushed := hushed_of_closed reachable closed
  constructor
  · intro final
    have unlinked := (inUse_eq_iff _).mp (final.unconnected 0 scene .here)
    -- What does not wind down stores a link or begins something, and after the end nothing does.
    refine ⟨unlinked, (windsDown_or_breaks steps hushed.tidy).resolve_right ?_⟩
    rintro ⟨count, later, onward, linked | more⟩
    · exact linked ((inUse_eq_iff _).mp (final.unconnected count later onward))
    · rw [final.idle count later onward] at more
      exact Nat.lt_irrefl _ more
  · rintro ⟨unlinked, bound, winding⟩
    refine ⟨fun count later onward => ?_, fun count later onward => ?_,
      ⟨bound, fun count later onward => ?_⟩, fun count later onward => ?_⟩
    · exact (inUse_eq_iff _).mpr (windsDown_onward hushed unlinked winding onward).2.1
    · exact (windsDown_onward hushed unlinked winding onward).2.2.1
    · obtain ⟨-, -, -, left, within, -⟩ := windsDown_onward hushed unlinked winding onward
      omega
    · exact supervisor_goes_on steps (windsDown_onward hushed unlinked winding onward).1

/-! ## Poles -/

def closeOn (scene : Scene) : Scene :=
  match scene.closings[0]? with
  | some point =>
      { scene with
        manager := (point.step .obliging (scene.manager, 0)).2.1
        closings := scene.closings.set 0 (point.step .obliging (scene.manager, 0)).1 }
  | none => scene

theorem reachable_closeOn (reachable : Reachable steps scene) : Reachable steps scene.closeOn := by
  unfold closeOn
  split
  · rename_i point found
    exact .host reachable (.closed found _ _)
  · exact reachable

def closedAtWatch : Scene := { started with closings := [.silencing] }.closeOn.closeOn

/-- The closure of an idle scene is final. -/
theorem closedAtWatch_final : Reachable 0 closedAtWatch ∧ closedAtWatch.Closed ∧
    (Final 0 closedAtWatch ↔
      closedAtWatch.manager.link = none ∧ ∃ count, WindsDown 0 closedAtWatch count) ∧
    Final 0 closedAtWatch := by
  have reachable : Reachable 0 closedAtWatch :=
    reachable_closeOn (reachable_closeOn (.host .started .closing))
  have closed : closedAtWatch.Closed := ⟨⟨.ok (), List.mem_singleton_self _⟩, nofun⟩
  have same := shutdown_final_iff reachable closed
  exact ⟨reachable, closed, same, same.mpr ⟨rfl, _, .watching rfl (.inr nofun)⟩⟩

/-- A supervisor that rests, since the one connection of the host was lost. -/
def atRest : Scene :=
  { [0, 0, 0, 0, 0].foldl goOn { started with attempts := [.dialing] } with
    supervisor := ⟨.resting, false⟩ }

theorem reachable_atRest : Reachable 0 atRest := by
  have dialing : Reachable 0 { started with attempts := [.dialing] } := .connect .started .begun
  have connected := reachable_goOns [0, 0, 0, 0, 0] _ dialing rfl
  have lost := Reachable.host connected (.raised ⟨1, "connection lost"⟩)
  exact .supervisor lost (.looked rfl)

/-- The host closes while the supervisor rests. -/
def closedAtRest : Scene := { atRest with closings := [.silencing] }.closeOn.closeOn.closeOn

/-- A closure while the supervisor rests is not final: the supervisor reconnects, and the
manager that was closed has a connection again. -/
theorem resting_reconnects : Reachable 0 closedAtRest ∧ closedAtRest.Closed ∧
    closedAtRest.manager.inUse = .error .notConnected ∧ closedAtRest.begun = [] ∧
    ∃ later, Onward 0 closedAtRest 6 later ∧
      later.manager.inUse = .ok ⟨2, 2, ⟨2, 2⟩, ⟨2, 2⟩⟩ ∧ later.begun = [.reconnect] := by
  have reachable : Reachable 0 closedAtRest :=
    reachable_closeOn (reachable_closeOn (reachable_closeOn (.host reachable_atRest .closing)))
  have quiet (attempt : Nat) (point : Connecting)
      (found : closedAtRest.attempts[attempt]? = some point) : point.outcome?.isSome = true := by
    have member : point ∈ [Connecting.finished (.ok ())] := List.mem_of_getElem? found
    rw [List.mem_singleton.mp member]
    rfl
  refine ⟨reachable, ⟨⟨.ok (), List.mem_singleton_self _⟩, fun attempt point found _ =>
    quiet attempt point found⟩, rfl, rfl, ?_⟩
  have resumed : Onward 0 closedAtRest 1 _ := .supervisor .here (.rested rfl rfl)
  have dialed := Onward.supervisor resumed (.advanced rfl rfl rfl .obliging 2)
  have opened := Onward.supervisor dialed (.advanced rfl rfl rfl .obliging 2)
  have both := Onward.supervisor opened (.advanced rfl rfl rfl .obliging 2)
  have counted := Onward.supervisor both (.advanced rfl rfl rfl .obliging 2)
  have stored := Onward.supervisor counted (.advanced rfl rfl rfl .obliging 2)
  exact ⟨_, stored, rfl, rfl⟩

end Scene

end Redelivery
