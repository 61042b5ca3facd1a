import Redelivery.Proofs.Connection.Shutdown
import Redelivery.Subscription.Collector
import Redelivery.Subscription.Opening
/-!
# Keeping a connection up

An `Upkeep` is a supervisor at work over a manager that was connected once. From then on only
the supervisor connects, and notices come from where connections are used: the broker or the
network ends a connection, a collector fails, or a publish finds its channel gone. Each source
knows the generation of its connection and may raise any number of notices, at any time, also
about connections that have long been replaced.

* `Opened`, `opened_cases`: what the first connection leaves.
* `Step`: the supervisor, the host and the sources, in any order.
* `Scene.aside_host`: what the host leaves alone.
-/

namespace Redelivery

set_option autoImplicit false

/-! ## The stream of notices -/

namespace NoticeStream

theorem mem_pending_raise {notice each : Notice} {stream : NoticeStream}
    (member : each ∈ (stream.raise notice).pending) : each ∈ stream.pending ∨ each = notice := by
  rcases stream with ⟨source, _ | waiting⟩
  · by_cases live : source = .live <;> simp [raise, live, pending] at member
  · by_cases live : source = .live <;> simp [raise, live, pending] at member ⊢
    · exact member
    · exact .inl member

/-- A notice that is raised while somebody reads waits behind the others. -/
theorem pending_raise {notice : Notice} {stream : NoticeStream} (live : stream.source = .live)
    (read : stream.reader.isSome = true) :
    (stream.raise notice).pending = stream.pending ++ [notice] := by
  obtain ⟨waiting, reader⟩ := Option.isSome_iff_exists.mp read
  simp [raise, live, pending, reader]

end NoticeStream

/-! ## The first connection -/

namespace Connecting

/-- The generation was counted in this attempt. -/
def hasCounted : Connecting → Bool
  | storing _ | retiring _ | finished (.ok ()) => true
  | _ => false

def hasSucceeded : Connecting → Bool
  | finished (.ok ()) => true
  | _ => false

theorem hasCounted_of_finished {point : Connecting} (finished : point.outcome?.isSome = true) :
    point.hasCounted = point.hasSucceeded := by
  cases point with
  | finished outcome => cases outcome <;> rfl
  | dialing | openingProduce | openingConsume | numbering | storing | retiring | withdrawing =>
      cases finished

/-- A step of an attempt counts the generation, or leaves it counted or not as it was. -/
theorem hasCounted_step {World : Type} (wire : Wire World) (point : Connecting)
    (manager : Manager) (world : World) :
    (point.step wire (manager, world)).1.hasCounted = (point.hasCounted || point.isNumbering) := by
  cases point with
  | dialing =>
      rcases dialed : wire.dial world with ⟨_ | _, next⟩ <;>
        simp [step, dialed, hasCounted, isNumbering]
  | openingProduce connection =>
      rcases opened : wire.openChannel connection world with ⟨_ | _, next⟩ <;>
        simp [step, opened, hasCounted, isNumbering]
  | openingConsume connection produce =>
      rcases opened : wire.openChannel connection world with ⟨_ | _, next⟩ <;>
        simp [step, opened, hasCounted, isNumbering]
  | numbering connection produce consume => rfl
  | storing link => cases stored : manager.link <;> simp [step, stored, hasCounted]
  | retiring previous => rfl
  | withdrawing connection reason => rfl
  | finished outcome => simp [step, isNumbering]

/-- Only counting changes the generation, and it adds one. -/
theorem generation_step {World : Type} (wire : Wire World) (point : Connecting)
    (manager : Manager) (world : World) :
    (point.step wire (manager, world)).2.1.generation =
      manager.generation + point.isNumbering.toNat := by
  rcases point.step_cases wire manager world with
    ⟨_, _, _, rfl, -, after⟩ | ⟨_, rfl, -, after⟩ | ⟨numbering, -, -, -, after⟩
  · rw [after]
    rfl
  · rw [after]
    rfl
  · rw [after, numbering]
    rfl

/-- The number of attempts in which the generation was counted grows with it. -/
theorem countP_hasCounted_set {World : Type} (wire : Wire World) {attempts : List Connecting}
    {attempt : Nat} {point : Connecting} (present : attempts[attempt]? = some point)
    (manager : Manager) (world : World) :
    (attempts.set attempt (point.step wire (manager, world)).1).countP hasCounted =
      attempts.countP hasCounted + point.isNumbering.toNat := by
  obtain ⟨inside, same⟩ := List.getElem?_eq_some_iff.mp present
  have mine : point.hasCounted = true → 0 < attempts.countP hasCounted := fun counted =>
    List.countP_pos_iff.mpr ⟨point, List.mem_of_getElem? present, counted⟩
  rw [List.countP_set inside, same, hasCounted_step]
  cases counted : point.hasCounted with
  | true =>
      have before := mine counted
      have other : point.isNumbering = false := by cases point <;> first | rfl | cases counted
      rw [other]
      simp
      omega
  | false => cases point.isNumbering <;> simp

end Connecting

namespace Manager

variable {World : Type}

/-- What a manager is like when it has connected for the first time. -/
theorem connect_first {wire : Wire World} {manager : Manager} {world : World}
    (unlinked : manager.link = none) (connected : (connect wire (manager, world)).1 = .ok ()) :
    ∃ connection produce consume,
      (connect wire (manager, world)).2.1 =
        { manager with
          generation := manager.generation + 1
          link := some ⟨manager.generation + 1, connection, produce, consume⟩
          watched := (connection, manager.generation + 1) :: manager.watched } := by
  simp only [connect, Connecting.longest, Connecting.steps] at connected ⊢
  rcases dialed : wire.dial world with ⟨reason | connection, opening⟩
  · simp [Connecting.step, dialed, Connecting.outcome?] at connected
  rcases first : wire.openChannel connection opening with ⟨reason | produce, second⟩
  · simp [Connecting.step, dialed, first, Connecting.outcome?] at connected
  rcases last : wire.openChannel connection second with ⟨reason | consume, third⟩
  · simp [Connecting.step, dialed, first, last, Connecting.outcome?] at connected
  exact ⟨connection, produce, consume, by
    simp [Connecting.step, dialed, first, last, unlinked]⟩

/-- A manager that has connected once, and whose stream of notices was handed out, before that
or afterwards. -/
inductive Opened : Manager → Prop where
  | listening {World : Type} {wire : Wire World} {world : World}
      (connected : (connect wire (fresh.takeNotices.2, world)).1 = .ok ()) :
      Opened (connect wire (fresh.takeNotices.2, world)).2.1
  | connected {World : Type} {wire : Wire World} {world : World}
      (connected : (connect wire (fresh, world)).1 = .ok ()) :
      Opened (connect wire (fresh, world)).2.1.takeNotices.2

/-- What the first connection leaves, whichever came first. -/
theorem opened_cases {manager : Manager} (opened : Opened manager) :
    ∃ connection produce consume,
      manager =
        ⟨1, some ⟨1, connection, produce, consume⟩, ⟨.live, some []⟩, [(connection, 1)]⟩ := by
  cases opened with
  | listening connected =>
      obtain ⟨connection, produce, consume, after⟩ := connect_first rfl connected
      exact ⟨connection, produce, consume, after⟩
  | connected connected =>
      obtain ⟨connection, produce, consume, after⟩ := connect_first rfl connected
      exact ⟨connection, produce, consume, by rw [after]; rfl⟩

theorem lost_watched {manager : Manager} {connection : ConnectionId} {generation : Nat}
    (watched : manager.watched.lookup connection = some generation) (reason : String) :
    manager.lost connection reason = manager.report generation reason := by
  simp only [lost, watched]

theorem link_of_inUse {manager : Manager} {link : Link} (inUse : manager.inUse = .ok link) :
    manager.link = some link := by
  cases stored : manager.link with
  | none => simp [Manager.inUse, stored] at inUse
  | some other => simpa [Manager.inUse, stored] using inUse

/-- All that a publish does to a manager is to announce that the channel is gone. -/
theorem publish_unusable {wire : Wire World} {publication : Publication} {manager : Manager}
    {world after : World} {link : Link} {fault : PublishFault}
    (inUse : manager.link = some link)
    (refused : wire.publish link.produce publication world = (.error fault, after))
    (unusable : fault.unusable = true) :
    (publish wire publication (manager, world)).2.1 =
      manager.report link.generation (unusableReason fault) := by
  simp [publish, inUse, refused, unusable]

end Manager

theorem Subscription.generation_of_opened {World : Type} {wire : Wire World} {cls : MessageClass}
    {prefetch : Nat} {manager : Manager} {world : World} {subscription : Subscription}
    (opened : (opened wire cls prefetch (manager, world)).1 = .ok (some subscription)) :
    ∃ link, manager.link = some link ∧ subscription.generation = link.generation := by
  cases enabled : cls.enabled with
  | false => simp [Subscription.opened, enabled] at opened
  | true =>
      cases inUse : manager.link with
      | none => simp [Subscription.opened, enabled, inUse] at opened
      | some link =>
          rcases limited : wire.limitPrefetch link.consume prefetch world with ⟨_ | _, limit⟩
          · simp [Subscription.opened, enabled, inUse, limited] at opened
          · rcases begun : wire.startConsumer link.consume cls.direct.queue limit with
              ⟨_ | tag, after⟩
            · simp [Subscription.opened, enabled, inUse, limited, begun] at opened
            · refine ⟨link, rfl, ?_⟩
              simp only [Subscription.opened, enabled, inUse, limited, begun, if_true,
                Except.ok.injEq, Option.some.injEq] at opened
              rw [← opened]

/-! ## The supervisor and the host -/

/-- A supervisor goes on after an attempt that did not panic, asked to stop or not. -/
theorem Supervisor.reconnected_goesOn (steps : Nat) {supervisor : Supervisor}
    (waiting : supervisor.phase = .reconnecting) (outcome : Outcome) :
    (supervisor.reconnected steps (.ofOutcome outcome)).outcome? = none ∧
      (supervisor.reconnected steps (.ofOutcome outcome)).stopping = supervisor.stopping := by
  cases outcome with
  | error failure =>
      rw [reconnected_error waiting]
      exact ⟨rfl, rfl⟩
  | ok =>
      rw [reconnected_ok waiting]
      by_cases more : 0 < steps <;> simp [enter, outcome?, more]

theorem Supervisor.restored_goesOn (steps : Nat) {supervisor : Supervisor} {index : Nat}
    (restoring : supervisor.phase = .restoring index) (outcome : Outcome) :
    (supervisor.restored steps outcome).outcome? = none ∧
      (supervisor.restored steps outcome).stopping = supervisor.stopping := by
  cases outcome with
  | error failure =>
      rw [restored_error restoring]
      exact ⟨rfl, rfl⟩
  | ok =>
      rw [restored_ok restoring]
      by_cases more : index + 1 < steps <;> simp [enter, outcome?, more]

namespace Scene

/-- What the host leaves alone, whatever it does: the attempts, what the supervisor is about,
and the generation. It may ask the supervisor to stop, and close the manager. -/
structure Aside (scene next : Scene) : Prop where
  attempts : next.attempts = scene.attempts
  own : next.own = scene.own
  phase : next.supervisor.phase = scene.supervisor.phase
  stopping : scene.supervisor.stopping = true → next.supervisor.stopping = true
  generation : next.manager.generation = scene.manager.generation
  watched : next.manager.watched = scene.manager.watched
  link : next.manager.link = scene.manager.link ∨
    next.manager.link = none ∧ next.closings ≠ []
  closings : scene.closings ≠ [] → next.closings ≠ []
  source : scene.manager.notices.source ≠ .untaken →
    next.manager.notices.source = scene.manager.notices.source ∨
      next.manager.notices.source = .closed ∧ next.closings ≠ []

theorem aside_host {scene next : Scene} (step : HostStep scene next) : Aside scene next := by
  cases step with
  | stopped => exact ⟨rfl, rfl, rfl, fun _ => rfl, rfl, rfl, .inl rfl, id, fun _ => .inl rfl⟩
  | raised notice =>
      exact ⟨rfl, rfl, rfl, id, rfl, rfl, .inl rfl, id,
        fun _ => .inl (NoticeStream.source_raise notice scene.manager.notices)⟩
  | taken =>
      refine ⟨rfl, rfl, rfl, id, rfl, rfl, .inl rfl, id, fun taken => .inl ?_⟩
      simp only [Manager.takeNotices, NoticeStream.take]
      split
      · rename_i untaken
        exact absurd untaken taken
      · rfl
      · rfl
  | closing =>
      exact ⟨rfl, rfl, rfl, id, rfl, rfl, .inl rfl, fun _ => by simp, fun _ => .inl rfl⟩
  | @closed closing point found World wire world =>
      have closings :
          scene.closings.set closing (point.step wire (scene.manager, world)).1 ≠ [] := by
        intro empty
        have inside := (List.getElem?_eq_some_iff.mp found).1
        have before : scene.closings = [] := by simpa using empty
        simp [before] at inside
      rcases point.step_cases wire scene.manager world with
        ⟨-, -, manager⟩ | ⟨-, -, manager | manager⟩
      · exact ⟨rfl, rfl, rfl, id, by rw [manager], by rw [manager], .inl (by rw [manager]),
          fun _ => closings, fun _ => .inr ⟨by rw [manager]; rfl, closings⟩⟩
      · exact ⟨rfl, rfl, rfl, id, by rw [manager], by rw [manager], .inl (by rw [manager]),
          fun _ => closings, fun _ => .inl (by rw [manager])⟩
      · exact ⟨rfl, rfl, rfl, id, by rw [manager], by rw [manager],
          .inr ⟨by rw [manager], closings⟩, fun _ => closings, fun _ => .inl (by rw [manager])⟩

end Scene

/-! ## The upkeep of a connection -/

/-- A supervisor at work over a manager, with an account of what was raised and heeded. -/
structure Upkeep where
  scene : Scene
  /-- The subscriptions whose collectors may still fail. -/
  subscriptions : List Subscription
  /-- The links on which something may still be published. -/
  held : List Link
  /-- All notices that were raised. -/
  raised : List Notice
  /-- The notices that have begun a recovery. -/
  heeded : List Notice
  /-- The link that was stored last. -/
  latest : Link

namespace Upkeep

variable {steps : Nat} {upkeep next : Upkeep}

def started (manager : Manager) (link : Link) : Upkeep where
  scene := { Scene.started with manager }
  subscriptions := []
  held := []
  raised := []
  heeded := []
  latest := link

/-- The notice that begins a recovery between two moments, if one does. -/
def heededBetween (scene next : Scene) : List Notice :=
  match scene.supervisor.phase, next.supervisor.phase, scene.manager.notices.receive.1 with
  | .watching, .resting, .notice notice => [notice]
  | _, _, _ => []

def moved (upkeep : Upkeep) (next : Scene) : Upkeep :=
  { upkeep with
    scene := next
    heeded := upkeep.heeded ++ heededBetween upkeep.scene next
    latest := next.manager.link.getD upkeep.latest }

def alarmed (upkeep : Upkeep) (notice : Notice) (manager : Manager) : Upkeep :=
  { upkeep with scene := { upkeep.scene with manager }, raised := upkeep.raised ++ [notice] }

inductive Step (steps : Nat) (upkeep : Upkeep) : Upkeep → Prop where
  | supervisor {next : Scene} (step : Scene.SupervisorStep steps upkeep.scene next) :
      Step steps upkeep (upkeep.moved next)
  /-- The host stops the supervisor or closes the manager; notices are not its business. -/
  | host {next : Scene} (step : Scene.HostStep upkeep.scene next)
      (silent : next.manager.notices.reader = upkeep.scene.manager.notices.reader) :
      Step steps upkeep (upkeep.moved next)
  /-- A subscription is opened on the connection in use. -/
  | subscribed {World : Type} {wire : Wire World} {cls : MessageClass} {prefetch : Nat}
      {world : World} {subscription : Subscription}
      (opened : (Subscription.opened wire cls prefetch (upkeep.scene.manager, world)).1 =
        .ok (some subscription)) :
      Step steps upkeep { upkeep with subscriptions := upkeep.subscriptions ++ [subscription] }
  /-- Somebody takes hold of the connection in use, to publish on it. -/
  | held {link : Link} (inUse : upkeep.scene.manager.inUse = .ok link) :
      Step steps upkeep { upkeep with held := upkeep.held ++ [link] }
  /-- A connection is lost, in use or not. -/
  | lost {connection : ConnectionId} {generation : Nat}
      (watched : upkeep.scene.manager.watched.lookup connection = some generation)
      (reason : String) :
      Step steps upkeep
        (upkeep.alarmed ⟨generation, reason⟩ (upkeep.scene.manager.lost connection reason))
  /-- A collector fails. -/
  | failed {subscription : Subscription} (known : subscription ∈ upkeep.subscriptions)
      (failure : Failure) :
      Step steps upkeep
        (upkeep.alarmed ⟨subscription.generation, failure.message⟩
          { upkeep.scene.manager with
            notices := Collector.announce subscription.generation (.error failure)
              upkeep.scene.manager.notices })
  /-- A publish finds its channel gone, on the link of which it took hold. -/
  | unusable {link : Link} (known : link ∈ upkeep.held) {World : Type} {wire : Wire World}
      {publication : Publication} {world after : World} {fault : PublishFault}
      (refused : wire.publish link.produce publication world = (.error fault, after))
      (unusable : fault.unusable = true) :
      Step steps upkeep
        (upkeep.alarmed ⟨link.generation, Manager.unusableReason fault⟩
          { upkeep.scene.manager with
            notices := (Manager.publish wire publication
              ({ upkeep.scene.manager with link := some link }, world)).2.1.notices })

/-- The upkeeps of a supervisor with a number of restore steps. -/
inductive Reachable (steps : Nat) : Upkeep → Prop where
  | started {manager : Manager} {link : Link} (opened : manager.Opened)
      (inUse : manager.link = some link) : Reachable steps (started manager link)
  | step {upkeep next : Upkeep} (earlier : Reachable steps upkeep)
      (step : Step steps upkeep next) : Reachable steps next

end Upkeep

end Redelivery
