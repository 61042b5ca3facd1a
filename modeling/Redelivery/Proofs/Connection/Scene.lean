import Redelivery.Connection.Manager
import Redelivery.Supervisor
/-!
# A manager, its host and its supervisor

The manager of a connection is shared: the host connects and closes, the supervisor
reconnects, and notices come in from wherever a connection is used. A `Scene` holds all that
is under way between them, and the steps of a scene are the steps of the definitions that
run: `Connecting.step` and `Closing.step` under any wire, and the functions of `Supervisor`.
So a reachable scene has any number of attempts to connect, cut into their steps and put in
any order.

* `SupervisorStep`, `HostStep`, `ConnectStep`: who does what. A step of the supervisor is
  never a choice of the host, which matters when the host falls silent.
* `Reachable`: the scenes of a started supervisor.
* `reachable_tidy`: what ties the supervisor to its attempt and to the stream of notices.
-/

namespace Redelivery

set_option autoImplicit false

/-- What a supervisor begins in the course of a recovery. -/
inductive Beginning where
  | reconnect
  | restore (index : Nat)
  deriving DecidableEq

/-! ## Steps of an attempt and of a closure -/

namespace Connecting

def isNumbering : Connecting → Bool
  | numbering _ _ _ => true
  | _ => false

def isStoring : Connecting → Bool
  | storing _ => true
  | _ => false

/-- The link of the attempt was stored, or will never be. -/
def isPast : Connecting → Bool
  | retiring _ => true
  | finished _ => true
  | _ => false

theorem isStoring_of_isPast {point : Connecting} (past : point.isPast = true) :
    point.isStoring = false := by
  cases point with
  | storing link => cases past
  | _ => rfl

/-- What a step of an attempt does: it counts, it stores, or it leaves the manager alone. -/
theorem step_cases {World : Type} (wire : Wire World) (point : Connecting) (manager : Manager)
    (world : World) :
    (∃ connection produce consume, point = .numbering connection produce consume ∧
        (point.step wire (manager, world)).1 =
          .storing ⟨manager.generation + 1, connection, produce, consume⟩ ∧
        (point.step wire (manager, world)).2.1 =
          { manager with
            generation := manager.generation + 1
            watched := (connection, manager.generation + 1) :: manager.watched }) ∨
      (∃ link, point = .storing link ∧ (point.step wire (manager, world)).1.isPast = true ∧
        (point.step wire (manager, world)).2.1 = { manager with link := some link }) ∨
      (point.isNumbering = false ∧ point.isStoring = false ∧
        (point.step wire (manager, world)).1.isStoring = false ∧
        (point.isPast = true → (point.step wire (manager, world)).1.isPast = true) ∧
        (point.step wire (manager, world)).2.1 = manager) := by
  cases point with
  | numbering connection produce consume => exact .inl ⟨connection, produce, consume, rfl, rfl, rfl⟩
  | storing link =>
      refine .inr (.inl ⟨link, rfl, ?_⟩)
      cases stored : manager.link <;> simp [step, stored, isPast]
  | dialing =>
      refine .inr (.inr ⟨rfl, rfl, ?_⟩)
      rcases dialed : wire.dial world with ⟨_ | _, next⟩ <;> simp [step, dialed, isStoring, isPast]
  | openingProduce connection =>
      refine .inr (.inr ⟨rfl, rfl, ?_⟩)
      rcases opened : wire.openChannel connection world with ⟨_ | _, next⟩ <;>
        simp [step, opened, isStoring, isPast]
  | openingConsume connection produce =>
      refine .inr (.inr ⟨rfl, rfl, ?_⟩)
      rcases opened : wire.openChannel connection world with ⟨_ | _, next⟩ <;>
        simp [step, opened, isStoring, isPast]
  | retiring previous => exact .inr (.inr ⟨rfl, rfl, rfl, fun _ => rfl, rfl⟩)
  | withdrawing connection reason => exact .inr (.inr ⟨rfl, rfl, rfl, fun _ => rfl, rfl⟩)
  | finished outcome => exact .inr (.inr ⟨rfl, rfl, rfl, fun _ => rfl, rfl⟩)

end Connecting

/-- What a step of a closure does: it ends the stream of notices first, and from then on at
most forgets the link. -/
theorem Closing.step_cases {World : Type} (wire : Wire World) (point : Closing) (manager : Manager)
    (world : World) :
    (point = .silencing ∧ (point.step wire (manager, world)).1 = .forgetting ∧
        (point.step wire (manager, world)).2.1 =
          { manager with notices := manager.notices.close }) ∨
      (point ≠ .silencing ∧ (point.step wire (manager, world)).1 ≠ .silencing ∧
        ((point.step wire (manager, world)).2.1 = manager ∨
          (point.step wire (manager, world)).2.1 = { manager with link := none })) := by
  cases point with
  | silencing => exact .inl ⟨rfl, rfl, rfl⟩
  | forgetting =>
      refine .inr ⟨nofun, ?_⟩
      cases stored : manager.link <;> simp [step, stored]
  | parting link =>
      refine .inr ⟨nofun, ?_⟩
      rcases left : wire.disconnect link.connection shutdownReason world with ⟨_ | _, _⟩ <;>
        simp [step, left]
  | finished outcome => exact .inr ⟨nofun, nofun, .inl rfl⟩

/-- What a supervisor does when it looks up: it obeys a request to stop, reads a notice, or
finds that no more will come. -/
theorem Supervisor.look_cases {live : Nat} {supervisor after : Supervisor}
    {notices rest : NoticeStream} (looks : supervisor.look live notices = some (after, rest)) :
    (supervisor.stopping = true ∧
        (supervisor.phase = .watching ∨ supervisor.phase = .resting) ∧
        after = supervisor.enter (.ended (.ok ())) ∧ rest = notices.abandon) ∨
      (supervisor.stopping = false ∧ supervisor.phase = .watching ∧ ∃ notice later,
        notices.reader = some (notice :: later) ∧ rest = { notices with reader := some later } ∧
        after = if notice.generation = live then supervisor.enter .resting else supervisor) ∨
      (supervisor.stopping = false ∧ supervisor.phase = .watching ∧ notices.reader = some [] ∧
        notices.source = .closed ∧ after = supervisor.enter (.ended (.error .noticesEnded)) ∧
        rest = notices.abandon) := by
  cases stopping : supervisor.stopping with
  | true =>
      cases phase : supervisor.phase with
      | watching | resting =>
          simp only [look, phase, stopping, if_true, Option.some.injEq, Prod.mk.injEq] at looks
          exact .inl ⟨rfl, by simp, looks.1.symm, looks.2.symm⟩
      | reconnecting | restoring | ended => simp [look, phase] at looks
  | false =>
      cases phase : supervisor.phase with
      | watching =>
          rcases notices with ⟨source, _ | _ | ⟨notice, later⟩⟩
          · simp [look, phase, stopping, NoticeStream.receive] at looks
          · by_cases ended : source = .closed
            · simp only [look, phase, stopping, NoticeStream.receive, ended, if_true,
                Bool.false_eq_true, if_false, Option.some.injEq, Prod.mk.injEq] at looks
              exact .inr (.inr ⟨rfl, rfl, rfl, ended, looks.1.symm, ended ▸ looks.2.symm⟩)
            · simp [look, phase, stopping, NoticeStream.receive, ended] at looks
          · refine .inr (.inl ⟨rfl, rfl, notice, later, rfl, ?_⟩)
            by_cases live : notice.generation = live
            · simp only [look, phase, stopping, NoticeStream.receive, live, if_true,
                Bool.false_eq_true, if_false, Option.some.injEq, Prod.mk.injEq] at looks
              exact ⟨looks.2.symm, by rw [if_pos live]; exact looks.1.symm⟩
            · simp only [look, phase, stopping, NoticeStream.receive, live,
                Bool.false_eq_true, if_false, Option.some.injEq, Prod.mk.injEq] at looks
              exact ⟨looks.2.symm, by rw [if_neg live]; exact looks.1.symm⟩
      | resting | reconnecting | restoring | ended => simp [look, phase, stopping] at looks

/-- A broker that accepts everything. Its world is the number of the connection that is
dialed next. -/
def Wire.obliging : Wire Nat where
  dial world := (.ok world, world + 1)
  openChannel connection world := (.ok ⟨connection, world⟩, world)
  disconnect _ _ world := (.ok (), world)
  declare _ _ world := (true, world)
  publish _ _ world := (.ok .positive, world)
  limitPrefetch _ _ world := (true, world)
  startConsumer _ queue world := (some ⟨queue, world⟩, world)
  cancelConsumer _ _ world := (true, world)

/-! ## Scenes -/

/-- What a supervisor is told of an attempt that is over. -/
def Attempt.ofOutcome : Outcome → Attempt Unit
  | .ok () => .done ()
  | .error failure => .failed failure

namespace Supervisor

variable {steps : Nat} {supervisor : Supervisor}

theorem reconnected_ok (waiting : supervisor.phase = .reconnecting) :
    supervisor.reconnected steps (.ofOutcome (.ok ())) =
      supervisor.enter (if 0 < steps then .restoring 0 else .watching) := by
  simp [reconnected, waiting, Attempt.ofOutcome, restoreFrom]

theorem reconnected_error (waiting : supervisor.phase = .reconnecting) (failure : Failure) :
    supervisor.reconnected steps (.ofOutcome (.error failure)) = supervisor.enter .resting := by
  simp [reconnected, waiting, Attempt.ofOutcome]

theorem restored_ok {index : Nat} (restoring : supervisor.phase = .restoring index) :
    supervisor.restored steps (.ok ()) =
      supervisor.enter (if index + 1 < steps then .restoring (index + 1) else .watching) := by
  simp [restored, restoring, restoreFrom]

theorem restored_error {index : Nat} (restoring : supervisor.phase = .restoring index)
    (failure : Failure) :
    supervisor.restored steps (.error failure) = supervisor.enter .resting := by
  simp [restored, restoring]

/-- After a call a supervisor restores, watches or rests; it never reconnects at once. -/
theorem reconnected_phase (steps : Nat) (waiting : supervisor.phase = .reconnecting)
    (outcome : Outcome) :
    (supervisor.reconnected steps (.ofOutcome outcome)).phase ≠ .reconnecting := by
  cases outcome with
  | error failure =>
      rw [reconnected_error waiting]
      exact nofun
  | ok =>
      rw [reconnected_ok waiting]
      split <;> exact nofun

theorem restored_phase (steps : Nat) {index : Nat} (restoring : supervisor.phase = .restoring index)
    (outcome : Outcome) :
    (supervisor.restored steps outcome).phase ≠ .reconnecting := by
  cases outcome with
  | error failure =>
      rw [restored_error restoring]
      exact nofun
  | ok =>
      rw [restored_ok restoring]
      split <;> exact nofun

end Supervisor

/-- What a supervisor has begun when it enters a phase. -/
def SupervisorPhase.beginnings : SupervisorPhase → List Beginning
  | restoring index => [.restore index]
  | _ => []

/-- A manager with everything that is under way around it. -/
structure Scene where
  manager : Manager
  /-- All attempts to connect, over or not. -/
  attempts : List Connecting
  /-- Which of the attempts the supervisor waits for. -/
  own : Option Nat
  closings : List Closing
  supervisor : Supervisor
  /-- The attempts in the order in which they counted the generation. -/
  numbered : List Nat
  /-- The attempts in the order in which they stored their link. -/
  stored : List Nat
  begun : List Beginning

namespace Scene

def started : Scene where
  manager := { Manager.fresh with notices := Manager.fresh.notices.take.2 }
  attempts := []
  own := none
  closings := []
  supervisor := .started
  numbered := []
  stored := []
  begun := []

def advance (scene : Scene) (attempt : Nat) (point : Connecting) {World : Type}
    (wire : Wire World) (world : World) : Scene :=
  let told := point.step wire (scene.manager, world)
  { scene with
    manager := told.2.1
    attempts := scene.attempts.set attempt told.1
    numbered := if point.isNumbering then scene.numbered ++ [attempt] else scene.numbered
    stored := if point.isStoring then scene.stored ++ [attempt] else scene.stored }

/-- The supervisor goes on after a call that it waited for. -/
def resumed (scene : Scene) (supervisor : Supervisor) : Scene :=
  { scene with supervisor, begun := scene.begun ++ supervisor.phase.beginnings }

/-- The steps of the supervisor, its attempt included. A request to stop wins over the end of
a rest. -/
inductive SupervisorStep (steps : Nat) (scene : Scene) : Scene → Prop where
  | looked {supervisor : Supervisor} {notices : NoticeStream}
      (looks : scene.supervisor.look scene.manager.generation scene.manager.notices =
        some (supervisor, notices)) :
      SupervisorStep steps scene
        { scene with supervisor, manager := { scene.manager with notices } }
  | rested (resting : scene.supervisor.phase = .resting)
      (unstopped : scene.supervisor.stopping = false) :
      SupervisorStep steps scene
        { scene with
          supervisor := scene.supervisor.rested
          attempts := scene.attempts ++ [.dialing]
          own := some scene.attempts.length
          begun := scene.begun ++ [.reconnect] }
  | advanced {attempt : Nat} {point : Connecting} (own : scene.own = some attempt)
      (found : scene.attempts[attempt]? = some point) (going : point.outcome? = none)
      {World : Type} (wire : Wire World) (world : World) :
      SupervisorStep steps scene (scene.advance attempt point wire world)
  | reconnected {attempt : Nat} {outcome : Outcome} (own : scene.own = some attempt)
      (found : scene.attempts[attempt]? = some (.finished outcome)) :
      SupervisorStep steps scene
        { scene.resumed (scene.supervisor.reconnected steps (.ofOutcome outcome)) with
          own := none }
  | restored {index : Nat} (restoring : scene.supervisor.phase = .restoring index)
      (outcome : Outcome) :
      SupervisorStep steps scene (scene.resumed (scene.supervisor.restored steps outcome))

/-- What the host and the users of the connection do, apart from connecting. -/
inductive HostStep (scene : Scene) : Scene → Prop where
  | stopped : HostStep scene { scene with supervisor := scene.supervisor.stop }
  | raised (notice : Notice) :
      HostStep scene
        { scene with
          manager := { scene.manager with notices := scene.manager.notices.raise notice } }
  | taken : HostStep scene { scene with manager := scene.manager.takeNotices.2 }
  | closing : HostStep scene { scene with closings := scene.closings ++ [.silencing] }
  | closed {closing : Nat} {point : Closing} (found : scene.closings[closing]? = some point)
      {World : Type} (wire : Wire World) (world : World) :
      HostStep scene
        { scene with
          manager := (point.step wire (scene.manager, world)).2.1
          closings := scene.closings.set closing (point.step wire (scene.manager, world)).1 }

inductive ConnectStep (scene : Scene) : Scene → Prop where
  | begun : ConnectStep scene { scene with attempts := scene.attempts ++ [.dialing] }
  | advanced {attempt : Nat} {point : Connecting} (other : scene.own ≠ some attempt)
      (found : scene.attempts[attempt]? = some point) (going : point.outcome? = none)
      {World : Type} (wire : Wire World) (world : World) :
      ConnectStep scene (scene.advance attempt point wire world)

/-- The scenes of a started supervisor with a number of restore steps. -/
inductive Reachable (steps : Nat) : Scene → Prop where
  | started : Reachable steps started
  | supervisor {scene next : Scene} (earlier : Reachable steps scene)
      (step : SupervisorStep steps scene next) : Reachable steps next
  | host {scene next : Scene} (earlier : Reachable steps scene) (step : HostStep scene next) :
      Reachable steps next
  | connect {scene next : Scene} (earlier : Reachable steps scene)
      (step : ConnectStep scene next) : Reachable steps next

variable {scene next : Scene}

theorem advance_attempts (attempt : Nat) (point : Connecting) {World : Type} (wire : Wire World)
    (world : World) (present : scene.attempts[attempt]? = some point) (other : Nat) :
    (scene.advance attempt point wire world).attempts[other]? =
      if other = attempt then some (point.step wire (scene.manager, world)).1
      else scene.attempts[other]? := by
  have inside : attempt < scene.attempts.length := (List.getElem?_eq_some_iff.mp present).1
  by_cases same : other = attempt
  · subst same
    simp [advance, inside]
  · simp [advance, same, List.getElem?_set_ne (Ne.symm same)]

/-- Whoever is about to store a link was so before, or is the attempt that went on. -/
theorem storing_advance {attempt : Nat} {point : Connecting} {World : Type} {wire : Wire World}
    {world : World} (found : scene.attempts[attempt]? = some point) {other : Nat} {link : Link}
    (now : (scene.advance attempt point wire world).attempts[other]? = some (.storing link)) :
    other ≠ attempt ∧ scene.attempts[other]? = some (.storing link) ∨
      other = attempt ∧ (point.step wire (scene.manager, world)).1 = .storing link := by
  rw [advance_attempts attempt point wire world found] at now
  by_cases same : other = attempt
  · rw [if_pos same] at now
    exact .inr ⟨same, Option.some.inj now⟩
  · rw [if_neg same] at now
    exact .inl ⟨same, now⟩

/-- An attempt that goes on to anything else leaves those about to store a link as they were. -/
theorem storing_beside {attempt : Nat} {point : Connecting} {World : Type} {wire : Wire World}
    {world : World} (found : scene.attempts[attempt]? = some point)
    (waiting : (point.step wire (scene.manager, world)).1.isStoring = false) {other : Nat}
    {link : Link}
    (now : (scene.advance attempt point wire world).attempts[other]? = some (.storing link)) :
    other ≠ attempt ∧ scene.attempts[other]? = some (.storing link) := by
  refine (storing_advance found now).resolve_right fun ⟨_, storing⟩ => ?_
  rw [storing] at waiting
  cases waiting

/-! ## What ties a scene together -/

/-- The supervisor waits for an attempt exactly while it reconnects, it holds on to the stream
of notices until it ends, and the stream is closed by the first step of a closure. -/
structure Tidy (scene : Scene) : Prop where
  owned : ∀ attempt, scene.own = some attempt → attempt < scene.attempts.length
  waiting : scene.supervisor.phase = .reconnecting ↔ scene.own.isSome = true
  reading : scene.supervisor.outcome? = none → scene.manager.notices.reader.isSome = true
  silenced : ∀ point ∈ scene.closings,
    point = .silencing ∨ scene.manager.notices.source = .closed

@[simp] theorem notices_advance (attempt : Nat) (point : Connecting) {World : Type}
    (wire : Wire World) (world : World) :
    (scene.advance attempt point wire world).manager.notices = scene.manager.notices := by
  rcases point.step_cases wire scene.manager world with
    ⟨_, _, _, _, _, manager⟩ | ⟨_, _, _, manager⟩ | ⟨_, _, _, _, manager⟩ <;>
    simp [advance, manager]

theorem tidy_advance (tidy : scene.Tidy) (attempt : Nat) (point : Connecting) {World : Type}
    (wire : Wire World) (world : World) : (scene.advance attempt point wire world).Tidy where
  owned other own := by
    simp only [advance, List.length_set]
    exact tidy.owned other own
  waiting := tidy.waiting
  reading going := by
    rw [notices_advance]
    exact tidy.reading going
  silenced point member := by
    rw [notices_advance]
    exact tidy.silenced point member

theorem tidy_looked (tidy : scene.Tidy) {supervisor : Supervisor} {notices : NoticeStream}
    (looks : scene.supervisor.look scene.manager.generation scene.manager.notices =
      some (supervisor, notices)) :
    Tidy { scene with supervisor, manager := { scene.manager with notices } } := by
  obtain ⟨owned, waiting, reading, silenced⟩ := tidy
  have idle (elsewhere : scene.supervisor.phase ≠ .reconnecting) :
      scene.own.isSome = true → False := fun own => elsewhere (waiting.mpr own)
  rcases Supervisor.look_cases looks with ⟨-, phase, rfl, rfl⟩ |
    ⟨-, phase, notice, later, reader, rfl, rfl⟩ | ⟨-, phase, reader, -, rfl, rfl⟩
  · refine ⟨owned, ⟨nofun, fun own => (idle ?_ own).elim⟩, nofun, silenced⟩
    rcases phase with phase | phase <;> simp [phase]
  · refine ⟨owned, ⟨fun reconnects => ?_, fun own => (idle (by simp [phase]) own).elim⟩,
      fun _ => rfl, silenced⟩
    by_cases live : notice.generation = scene.manager.generation <;>
      simp [live, phase, Supervisor.enter] at reconnects
  · refine ⟨owned, ⟨nofun, fun own => (idle ?_ own).elim⟩, nofun, silenced⟩
    simp [phase]

theorem tidy_supervisor {steps : Nat} (tidy : scene.Tidy)
    (step : SupervisorStep steps scene next) : next.Tidy := by
  obtain ⟨owned, waiting, reading, silenced⟩ := id tidy
  cases step with
  | looked looks => exact tidy_looked tidy looks
  | rested resting unstopped =>
      refine ⟨fun attempt own => ?_, ⟨fun _ => rfl, fun _ => ?_⟩, fun _ => ?_, silenced⟩
      · cases own
        simp
      · simp [Supervisor.rested, resting, Supervisor.enter]
      · exact reading (by simp [Supervisor.outcome?, resting])
  | advanced own found going wire world => exact tidy_advance tidy _ _ _ _
  | reconnected own found =>
      rename_i attempt outcome
      have phase : scene.supervisor.phase = .reconnecting := waiting.mpr (by simp [own])
      have elsewhere := Supervisor.reconnected_phase steps phase outcome
      exact ⟨nofun, ⟨fun reconnects => absurd reconnects elsewhere, nofun⟩,
        fun _ => reading (by simp [Supervisor.outcome?, phase]), silenced⟩
  | restored restoring outcome =>
      have elsewhere := Supervisor.restored_phase steps restoring outcome
      refine ⟨owned, ⟨fun reconnects => absurd reconnects elsewhere, fun own => ?_⟩,
        fun _ => reading (by simp [Supervisor.outcome?, restoring]), silenced⟩
      have phase := waiting.mpr own
      rw [restoring] at phase
      cases phase

theorem tidy_host (tidy : scene.Tidy) (step : HostStep scene next) : next.Tidy := by
  obtain ⟨owned, waiting, reading, silenced⟩ := id tidy
  cases step with
  | stopped => exact ⟨owned, waiting, reading, silenced⟩
  | raised notice =>
      refine ⟨owned, waiting, fun going => ?_, fun point member => ?_⟩
      · have held := reading going
        simp only [NoticeStream.raise]
        split <;> simp [held]
      · refine (silenced point member).imp_right fun closed => ?_
        simp [NoticeStream.raise, closed]
  | taken =>
      refine ⟨owned, waiting, fun going => ?_, fun point member => ?_⟩
      · have held := reading going
        simp only [Manager.takeNotices, NoticeStream.take]
        split <;> simp [held]
      · refine (silenced point member).imp_right fun closed => ?_
        simp [Manager.takeNotices, NoticeStream.take, closed]
  | closing =>
      refine ⟨owned, waiting, reading, fun point member => ?_⟩
      rcases List.mem_append.mp member with old | new
      · exact silenced point old
      · exact .inl (List.mem_singleton.mp new)
  | @closed closing point found World wire world =>
      have member : point ∈ scene.closings := List.mem_of_getElem? found
      rcases point.step_cases wire scene.manager world with ⟨-, -, manager⟩ | ⟨begun, -, manager⟩
      · refine ⟨owned, waiting, fun going => ?_, fun each _ => .inr ?_⟩ <;> simp only [manager]
        · exact reading going
        · rfl
      · have closed : scene.manager.notices.source = .closed :=
          (silenced point member).resolve_left begun
        refine ⟨owned, waiting, fun going => ?_, fun each _ => .inr ?_⟩ <;>
          rcases manager with manager | manager <;> simp only [manager]
        · exact reading going
        · exact reading going
        · exact closed
        · exact closed

theorem tidy_connect (tidy : scene.Tidy) (step : ConnectStep scene next) : next.Tidy := by
  cases step with
  | begun =>
      refine ⟨fun attempt own => ?_, tidy.waiting, tidy.reading, tidy.silenced⟩
      rw [List.length_append]
      exact Nat.lt_add_right 1 (tidy.owned attempt own)
  | advanced other found going wire world => exact tidy_advance tidy _ _ _ _

/-- Every reachable scene is tidy. -/
theorem reachable_tidy {steps : Nat} (reachable : Reachable steps scene) : scene.Tidy := by
  induction reachable with
  | started => exact ⟨nofun, by simp [started, Supervisor.started], fun _ => rfl, nofun⟩
  | supervisor earlier step tidy => exact tidy_supervisor tidy step
  | host earlier step tidy => exact tidy_host tidy step
  | connect earlier step tidy => exact tidy_connect tidy step

/-! ## A run of the host -/

def goOn (scene : Scene) (attempt : Nat) : Scene :=
  match scene.attempts[attempt]? with
  | some point =>
      if point.outcome?.isSome then scene else scene.advance attempt point .obliging (attempt + 1)
  | none => scene

theorem reachable_goOn {steps : Nat} (reachable : Reachable steps scene) (idle : scene.own = none)
    (attempt : Nat) :
    Reachable steps (scene.goOn attempt) ∧ (scene.goOn attempt).own = none := by
  unfold goOn
  split
  · rename_i point found
    split
    · exact ⟨reachable, idle⟩
    · rename_i going
      exact ⟨.connect reachable (.advanced (by simp [idle]) found (by simpa using going) _ _), idle⟩
  · exact ⟨reachable, idle⟩

theorem reachable_goOns {steps : Nat} (attempts : List Nat) (scene : Scene)
    (reachable : Reachable steps scene) (idle : scene.own = none) :
    Reachable steps (attempts.foldl goOn scene) := by
  induction attempts generalizing scene with
  | nil => exact reachable
  | cons attempt attempts ih =>
      obtain ⟨reached, stillIdle⟩ := reachable_goOn reachable idle attempt
      exact ih _ reached stillIdle

end Scene

end Redelivery
