import Redelivery.Proofs.Connection.Upkeep
import Redelivery.Proofs.Connection.Usage
/-!
# The traffic on a connection

Publishes and subscriptions run on a connection while it is replaced and closed under them, by
any number of attempts to connect. `Traffic` is a scene with the accounts of all who use its
connections, and its steps are the steps of the definitions that run, in any order.

* `Traced`: no two links that came into use share a generation, and the one in use came last.
* `InTurn`: while no two attempts overlap, links come into use in the order of generations.
* `every_alarm_attributed`: every notice of a publish or a subscription is of the generation of
  the link whose channel it used, and is raised exactly if that channel has failed; such a
  notice is heeded exactly if no attempt has counted since, so while no two attempts overlap
  those of replaced connections are passed over.
* `overtaken_alarm_heeded`: if attempts overlap, a publish that fails on a replaced connection
  makes the supervisor replace the one in use.
-/

namespace Redelivery

set_option autoImplicit false

/-! ## What a supervisor makes of a notice -/

namespace Supervisor

/-- A supervisor that watches begins a recovery when it reads a notice of this generation. -/
def Heeds (live generation : Nat) : Prop :=
  ∀ source reason rest,
    started.look live ⟨source, some (⟨generation, reason⟩ :: rest)⟩ =
      some (started.enter .resting, ⟨source, some rest⟩)

def PassesOver (live generation : Nat) : Prop :=
  ∀ source reason rest,
    started.look live ⟨source, some (⟨generation, reason⟩ :: rest)⟩ =
      some (started, ⟨source, some rest⟩)

theorem heeds_iff {live generation : Nat} : Heeds live generation ↔ generation = live := by
  constructor
  · intro heeds
    by_cases same : generation = live
    · exact same
    · have looks := heeds .live "" []
      simp [look, started, NoticeStream.receive, same, enter] at looks
  · rintro rfl source reason rest
    simp [look, started, NoticeStream.receive]

theorem passesOver_iff {live generation : Nat} :
    PassesOver live generation ↔ generation ≠ live := by
  constructor
  · rintro passes rfl
    have looks := passes .live "" []
    simp [look, started, NoticeStream.receive, enter] at looks
  · intro other source reason rest
    simp [look, started, NoticeStream.receive, other]

end Supervisor

/-! ## Moves of a scene -/

namespace Scene

variable {steps : Nat} {scene next : Scene}

/-- What happens in a scene, whoever does it. -/
inductive Move (steps : Nat) (scene : Scene) : Scene → Prop where
  | supervisor {next : Scene} (step : SupervisorStep steps scene next) : Move steps scene next
  | host {next : Scene} (step : HostStep scene next) : Move steps scene next
  | connect {next : Scene} (step : ConnectStep scene next) : Move steps scene next

/-- No attempt has gone on. At most one was begun, or the link was forgotten. -/
structure Calm (scene next : Scene) : Prop where
  generation : next.manager.generation = scene.manager.generation
  link : next.manager.link = scene.manager.link ∨ next.manager.link = none
  attempts : next.attempts = scene.attempts ∨ next.attempts = scene.attempts ++ [.dialing]

/-- An attempt has gone on. -/
inductive Advanced (scene : Scene) : Scene → Prop where
  | step (attempt : Nat) {point : Connecting} (found : scene.attempts[attempt]? = some point)
      (going : point.outcome? = none) {World : Type} (wire : Wire World) (world : World) :
      Advanced scene (scene.advance attempt point wire world)

/-- Whatever happens, an attempt goes on or none does. -/
theorem move_cases (move : Move steps scene next) : Calm scene next ∨ Advanced scene next := by
  cases move with
  | supervisor step =>
      cases step with
      | looked looks => exact .inl ⟨rfl, .inl rfl, .inl rfl⟩
      | rested resting unstopped => exact .inl ⟨rfl, .inl rfl, .inr rfl⟩
      | advanced own found going wire world => exact .inr (.step _ found going wire world)
      | reconnected own found => exact .inl ⟨rfl, .inl rfl, .inl rfl⟩
      | restored restoring outcome => exact .inl ⟨rfl, .inl rfl, .inl rfl⟩
  | host step =>
      have aside := aside_host step
      exact .inl ⟨aside.generation, aside.link.imp_right And.left, .inl aside.attempts⟩
  | connect step =>
      cases step with
      | begun => exact .inl ⟨rfl, .inl rfl, .inr rfl⟩
      | advanced other found going wire world => exact .inr (.step _ found going wire world)

theorem Calm.storing (calm : Calm scene next) {attempt : Nat} {link : Link}
    (found : next.attempts[attempt]? = some (.storing link)) :
    scene.attempts[attempt]? = some (.storing link) := by
  rcases calm.attempts with same | more
  · rwa [same] at found
  · rw [more] at found
    by_cases inside : attempt < scene.attempts.length
    · rwa [List.getElem?_append_left inside] at found
    · rw [List.getElem?_append_right (Nat.le_of_not_lt inside)] at found
      simp [List.getElem?_singleton] at found

/-- The link that came into use between two moments. -/
def entered (scene next : Scene) : List Link :=
  match next.manager.link with
  | some link => if scene.manager.link = some link then [] else [link]
  | none => []

section Advance

variable {attempt : Nat} {point : Connecting} {World : Type} {wire : Wire World} {world : World}

theorem going_advance (found : scene.attempts[attempt]? = some point)
    (going : point.outcome? = none) {other : Nat} {another : Connecting}
    (now : (scene.advance attempt point wire world).attempts[other]? = some another)
    (onward : another.outcome? = none) :
    ∃ before, scene.attempts[other]? = some before ∧ before.outcome? = none := by
  rw [advance_attempts attempt point wire world found] at now
  by_cases same : other = attempt
  · exact ⟨point, same ▸ found, going⟩
  · rw [if_neg same] at now
    exact ⟨another, now, onward⟩

theorem entered_of_same (same : next.manager.link = scene.manager.link) :
    entered scene next = [] := by
  simp only [entered, same]
  cases scene.manager.link <;> simp

theorem entered_of_new {link : Link} (inUse : next.manager.link = some link)
    (new : scene.manager.link ≠ some link) : entered scene next = [link] := by
  simp only [entered, inUse, if_neg new]

end Advance

theorem Calm.entered_eq (calm : Calm scene next) : entered scene next = [] := by
  rcases calm.link with same | none
  · exact entered_of_same same
  · simp only [entered, none]

/-- No attempt was begun while another was under way. -/
def untangled (scene next : Scene) : Bool :=
  decide (next.attempts.length = scene.attempts.length) ||
    scene.attempts.all fun point => point.outcome?.isSome

end Scene

/-! ## Traffic -/

/-- A scene, with the accounts of all who use its connections. -/
structure Traffic (δ : Type) where
  scene : Scene
  posts : List (Account Publishing)
  leases : List (Account (Lease δ))
  /-- The links that came into use, in order. -/
  used : List Link
  /-- No attempt to connect was ever begun while another was under way. -/
  apart : Bool

namespace Traffic

variable {δ : Type}

def started : Traffic δ := ⟨.started, [], [], [], true⟩

def moved (traffic : Traffic δ) (next : Scene) : Traffic δ :=
  { traffic with
    scene := next
    used := traffic.used ++ Scene.entered traffic.scene next
    apart := traffic.apart && Scene.untangled traffic.scene next }

def alerted (traffic : Traffic δ) (notice : Option Notice) : Traffic δ :=
  { traffic with
    scene := { traffic.scene with manager := traffic.scene.manager.alerted notice } }

/-- What happens next: in the scene, or with one of those who use a connection. -/
inductive Step (steps : Nat) (traffic : Traffic δ) : Traffic δ → Prop where
  | moved {next : Scene} (move : traffic.scene.Move steps next) :
      Step steps traffic (traffic.moved next)
  /-- Somebody begins to publish. -/
  | posting (publication : Publication) :
      Step steps traffic
        { traffic with posts := traffic.posts ++ [.fresh (.starting publication)] }
  /-- A publish takes its next step. -/
  | posted {place : Nat} {account : Account Publishing}
      (found : traffic.posts[place]? = some account) {World : Type} (wire : Wire World)
      (world : World) :
      Step steps traffic
        { traffic.alerted (account.point.step wire traffic.scene.manager world).2.1 with
          posts := traffic.posts.set place (account.published wire traffic.scene.manager world) }
  /-- Somebody begins to subscribe. -/
  | leasing (cls : MessageClass) (prefetch : Nat) :
      Step steps traffic
        { traffic with leases := traffic.leases ++ [.fresh (.opening (.starting cls prefetch))] }
  /-- The opening of a subscription takes its next step. -/
  | leased {place : Nat} {account : Account (Lease δ)} {point : Subscribing}
      (found : traffic.leases[place]? = some account) (opening : account.point = .opening point)
      {World : Type} (wire : Wire World) (world : World) :
      Step steps traffic
        { traffic with
          leases := traffic.leases.set place
            (account.subscribed wire traffic.scene.manager world point) }
  /-- The collector of a subscription is begun, over any stream of deliveries. -/
  | collecting {place : Nat} {account : Account (Lease δ)} {subscription : Subscription}
      (found : traffic.leases[place]? = some account)
      (opened : account.point = .opening (.finished (.ok (some subscription))))
      (stream : List (Except String δ)) :
      Step steps traffic
        { traffic with
          leases := traffic.leases.set place
            { account with point := .collecting subscription (.pulling stream) } }
  /-- A collector takes its next step, on whatever the workers have left of the queue. -/
  | collected {place : Nat} {account : Account (Lease δ)} {subscription : Subscription}
      {collector next : Collector δ} {queue after : TaskQueue δ}
      (found : traffic.leases[place]? = some account)
      (collecting : account.point = .collecting subscription collector)
      (taken : collector.step queue = some (next, after)) :
      Step steps traffic
        { traffic with
          leases := traffic.leases.set place
            { account with point := .collecting subscription next } }
  /-- A subscription is stopped, and its collector gives up. -/
  | stopped {place : Nat} {account : Account (Lease δ)} {subscription : Subscription}
      {collector : Collector δ} (found : traffic.leases[place]? = some account)
      (collecting : account.point = .collecting subscription collector) :
      Step steps traffic
        { traffic with
          leases := traffic.leases.set place { account with point := .ended subscription } }
  /-- A collector has ended, and announces a failure. -/
  | announced {place : Nat} {account : Account (Lease δ)} {subscription : Subscription}
      {outcome : Outcome} (found : traffic.leases[place]? = some account)
      (ended : account.point = .collecting subscription (.ended outcome)) :
      Step steps traffic
        { traffic with
          scene := { traffic.scene with
            manager := { traffic.scene.manager with
              notices := Collector.announce subscription.generation outcome
                traffic.scene.manager.notices } }
          leases := traffic.leases.set place (account.announced subscription outcome) }

inductive Reachable (steps : Nat) : Traffic δ → Prop where
  | started : Reachable steps started
  | step {traffic next : Traffic δ} (earlier : Reachable steps traffic)
      (step : Step steps traffic next) : Reachable steps next

variable {steps : Nat} {traffic next : Traffic δ}

/-! ## The links that came into use -/

/-- Links that came into use, or are about to, differ in their generations, and none is newer
than the count. The one in use came last. -/
structure Traced (traffic : Traffic δ) : Prop where
  bounded : ∀ link ∈ traffic.used, link.generation ≤ traffic.scene.manager.generation
  once : (traffic.used.map Link.generation).Nodup
  inUse : ∀ link, traffic.scene.manager.link = some link → traffic.used.getLast? = some link
  storing : ∀ (attempt : Nat) link, traffic.scene.attempts[attempt]? = some (.storing link) →
    link.generation ≤ traffic.scene.manager.generation ∧
      ∀ earlier ∈ traffic.used, earlier.generation ≠ link.generation
  single : ∀ (attempt other : Nat) link waiting,
    traffic.scene.attempts[attempt]? = some (.storing link) →
      traffic.scene.attempts[other]? = some (.storing waiting) →
      link.generation = waiting.generation → attempt = other

/-- What holds while no two attempts overlap: only one is under way, and its link is newer than
all that came into use. -/
structure InTurn (traffic : Traffic δ) : Prop where
  going : ∀ (attempt other : Nat) point another, traffic.scene.attempts[attempt]? = some point →
    traffic.scene.attempts[other]? = some another → point.outcome? = none →
      another.outcome? = none → attempt = other
  storing : ∀ (attempt : Nat) link, traffic.scene.attempts[attempt]? = some (.storing link) →
    ∀ earlier ∈ traffic.used, earlier.generation < link.generation
  ascending : traffic.used.Pairwise fun earlier later => earlier.generation < later.generation

theorem traced_alerted (traced : traffic.Traced) (notice : Option Notice) :
    (traffic.alerted notice).Traced := by
  cases notice with
  | none => exact traced
  | some notice =>
      exact ⟨traced.bounded, traced.once, traced.inUse, traced.storing, traced.single⟩

theorem inTurn_alerted (inTurn : traffic.InTurn) (notice : Option Notice) :
    (traffic.alerted notice).InTurn := by
  cases notice with
  | none => exact inTurn
  | some notice => exact ⟨inTurn.going, inTurn.storing, inTurn.ascending⟩

theorem used_of_same {scene : Scene} (same : scene.manager.link = traffic.scene.manager.link) :
    (traffic.moved scene).used = traffic.used := by
  simp only [moved, Scene.entered_of_same same, List.append_nil]

/-- A link that came into use was in nobody's hands before. -/
theorem used_of_new (traced : traffic.Traced) {scene : Scene} {link : Link}
    (inUse : scene.manager.link = some link)
    (fresh : ∀ earlier ∈ traffic.used, earlier.generation ≠ link.generation) :
    (traffic.moved scene).used = traffic.used ++ [link] := by
  have new : traffic.scene.manager.link ≠ some link := fun before =>
    fresh link (List.mem_of_getLast? (traced.inUse link before)) rfl
  simp only [moved, Scene.entered_of_new inUse new]

theorem traced_calm {scene : Scene} (traced : traffic.Traced)
    (calm : Scene.Calm traffic.scene scene) : (traffic.moved scene).Traced := by
  have used : (traffic.moved scene).used = traffic.used := by
    simp only [moved, calm.entered_eq, List.append_nil]
  constructor
  · intro link member
    rw [used] at member
    exact calm.generation ▸ traced.bounded link member
  · rw [used]
    exact traced.once
  · intro link inUse
    rw [used]
    rcases calm.link with same | none
    · exact traced.inUse link (same.symm.trans inUse)
    · exact absurd (none.symm.trans inUse) nofun
  · intro attempt link found
    rw [used]
    have before := traced.storing attempt link (calm.storing found)
    exact ⟨calm.generation ▸ before.1, before.2⟩
  · intro attempt other link waiting found another
    exact traced.single attempt other link waiting (calm.storing found) (calm.storing another)

section Advance

variable {attempt : Nat} {point : Connecting} {World : Type} {wire : Wire World} {world : World}

theorem traced_counting (traced : traffic.Traced) {connection : ConnectionId}
    {produce consume : Channel}
    (found : traffic.scene.attempts[attempt]? = some (.numbering connection produce consume)) :
    (traffic.moved (traffic.scene.advance attempt (.numbering connection produce consume) wire
      world)).Traced := by
  have used : (traffic.moved (traffic.scene.advance attempt (.numbering connection produce consume)
      wire world)).used = traffic.used := used_of_same rfl
  have generation : (traffic.scene.advance attempt (.numbering connection produce consume) wire
      world).manager.generation = traffic.scene.manager.generation + 1 := rfl
  constructor
  · intro link member
    rw [used] at member
    have bounded := traced.bounded link member
    simp only [moved, generation]
    omega
  · rw [used]
    exact traced.once
  · rw [used]
    exact traced.inUse
  · intro other link now
    rw [used]
    simp only [moved, generation]
    rcases Scene.storing_advance found now with ⟨-, before⟩ | ⟨-, counted⟩
    · obtain ⟨bounded, fresh⟩ := traced.storing other link before
      exact ⟨by omega, fresh⟩
    · cases counted
      refine ⟨Nat.le_refl _, fun earlier member => ?_⟩
      have bounded := traced.bounded earlier member
      simp only
      omega
  -- Of two that are about to store, at most one has just counted, and its generation is new.
  · intro one other link waiting now also same
    rcases Scene.storing_advance found now with ⟨-, before⟩ | ⟨here, counted⟩ <;>
      rcases Scene.storing_advance found also with ⟨-, already⟩ | ⟨there, numbered⟩
    · exact traced.single one other link waiting before already same
    · cases numbered
      have bounded := (traced.storing one link before).1
      simp only at same
      omega
    · cases counted
      have bounded := (traced.storing other waiting already).1
      simp only at same
      omega
    · rw [here, there]

theorem traced_storing (traced : traffic.Traced) {link : Link}
    (found : traffic.scene.attempts[attempt]? = some (.storing link))
    (past : (Connecting.step wire (.storing link) (traffic.scene.manager, world)).1.isPast = true)
    (manager : (Connecting.step wire (.storing link) (traffic.scene.manager, world)).2.1 =
      { traffic.scene.manager with link := some link }) :
    (traffic.moved (traffic.scene.advance attempt (.storing link) wire world)).Traced := by
  obtain ⟨bounded, fresh⟩ := traced.storing attempt link found
  have stored : (traffic.scene.advance attempt (.storing link) wire world).manager =
      { traffic.scene.manager with link := some link } := manager
  have used : (traffic.moved (traffic.scene.advance attempt (.storing link) wire world)).used =
      traffic.used ++ [link] := used_of_new traced (by rw [stored]) fresh
  have others {other : Nat} {waiting : Link}
      (now : (traffic.scene.advance attempt (.storing link) wire world).attempts[other]? =
        some (.storing waiting)) :
      other ≠ attempt ∧ traffic.scene.attempts[other]? = some (.storing waiting) :=
    Scene.storing_beside found (Connecting.isStoring_of_isPast past) now
  constructor
  · intro each member
    rw [used] at member
    simp only [moved, stored]
    rcases List.mem_append.mp member with earlier | last
    · exact traced.bounded each earlier
    · exact List.mem_singleton.mp last ▸ bounded
  · rw [used, List.map_append, List.map_singleton]
    refine List.nodup_append.mpr
      ⟨traced.once, List.pairwise_singleton _ _, fun generation member last final => ?_⟩
    obtain ⟨earlier, before, rfl⟩ := List.mem_map.mp member
    rw [List.mem_singleton.mp final]
    exact fresh earlier before
  · intro inUse now
    rw [used]
    simp only [moved, stored] at now
    rw [List.getLast?_concat]
    exact now
  · intro other waiting now
    obtain ⟨different, before⟩ := others now
    obtain ⟨older, unused⟩ := traced.storing other waiting before
    rw [used]
    simp only [moved, stored]
    refine ⟨older, fun earlier member => ?_⟩
    rcases List.mem_append.mp member with early | last
    · exact unused earlier early
    · intro same
      rw [List.mem_singleton.mp last] at same
      exact different (traced.single attempt other link waiting found before same).symm
  · intro one other first second now also same
    exact traced.single one other first second (others now).2 (others also).2 same

theorem traced_waiting (traced : traffic.Traced)
    (found : traffic.scene.attempts[attempt]? = some point)
    (waiting : (point.step wire (traffic.scene.manager, world)).1.isStoring = false)
    (manager : (point.step wire (traffic.scene.manager, world)).2.1 = traffic.scene.manager) :
    (traffic.moved (traffic.scene.advance attempt point wire world)).Traced := by
  have same : (traffic.scene.advance attempt point wire world).manager =
      traffic.scene.manager := manager
  have used : (traffic.moved (traffic.scene.advance attempt point wire world)).used =
      traffic.used := used_of_same (by rw [same])
  have others {other : Nat} {link : Link}
      (now : (traffic.scene.advance attempt point wire world).attempts[other]? =
        some (.storing link)) : traffic.scene.attempts[other]? = some (.storing link) :=
    (Scene.storing_beside found waiting now).2
  constructor
  · rw [used]
    simp only [moved, same]
    exact traced.bounded
  · rw [used]
    exact traced.once
  · rw [used]
    simp only [moved, same]
    exact traced.inUse
  · intro other link now
    rw [used]
    simp only [moved, same]
    exact traced.storing other link (others now)
  · intro one other link another now also
    exact traced.single one other link another (others now) (others also)

/-- An attempt that goes on keeps the links apart. -/
theorem traced_advance (traced : traffic.Traced)
    (found : traffic.scene.attempts[attempt]? = some point) :
    (traffic.moved (traffic.scene.advance attempt point wire world)).Traced := by
  rcases point.step_cases wire traffic.scene.manager world with
    ⟨connection, produce, consume, rfl, -, -⟩ | ⟨link, rfl, past, manager⟩ |
    ⟨-, -, waiting, -, manager⟩
  · exact traced_counting traced found
  · exact traced_storing traced found past manager
  · exact traced_waiting traced found waiting manager

/-- While attempts take turns, links come into use in the order of generations. -/
theorem inTurn_advance (traced : traffic.Traced) (inTurn : traffic.InTurn)
    (found : traffic.scene.attempts[attempt]? = some point) (going : point.outcome? = none) :
    (traffic.moved (traffic.scene.advance attempt point wire world)).InTurn := by
  have onward : ∀ (one other : Nat) first second,
      (traffic.scene.advance attempt point wire world).attempts[one]? = some first →
        (traffic.scene.advance attempt point wire world).attempts[other]? = some second →
        first.outcome? = none → second.outcome? = none → one = other := by
    intro one other first second now also firstGoing secondGoing
    obtain ⟨before, place, beforeGoing⟩ := Scene.going_advance found going now firstGoing
    obtain ⟨already, spot, alreadyGoing⟩ := Scene.going_advance found going also secondGoing
    exact inTurn.going one other before already place spot beforeGoing alreadyGoing
  -- Taking turns, nobody else is about to store while this attempt goes on.
  have alone {other : Nat} {link : Link}
      (now : traffic.scene.attempts[other]? = some (.storing link)) : other = attempt :=
    inTurn.going other attempt _ point now found rfl going
  rcases point.step_cases wire traffic.scene.manager world with
    ⟨connection, produce, consume, rfl, -, manager⟩ | ⟨link, rfl, past, manager⟩ |
    ⟨-, -, waiting, -, manager⟩
  · have used : (traffic.moved (traffic.scene.advance attempt
        (.numbering connection produce consume) wire world)).used = traffic.used :=
      used_of_same rfl
    refine ⟨onward, fun other link now => ?_, by rw [used]; exact inTurn.ascending⟩
    rw [used]
    rcases Scene.storing_advance found now with ⟨different, before⟩ | ⟨-, counted⟩
    · exact absurd (alone before) different
    · cases counted
      exact fun earlier member => Nat.lt_succ_of_le (traced.bounded earlier member)
  · have used : (traffic.moved (traffic.scene.advance attempt (.storing link) wire world)).used =
        traffic.used ++ [link] :=
      used_of_new traced (congrArg Manager.link manager) (traced.storing attempt link found).2
    refine ⟨onward, fun other waiting now => ?_, ?_⟩
    · obtain ⟨different, before⟩ :=
        Scene.storing_beside found (Connecting.isStoring_of_isPast past) now
      exact absurd (alone before) different
    · rw [used]
      refine List.pairwise_append.mpr ⟨inTurn.ascending, List.pairwise_singleton _ _, ?_⟩
      intro earlier member last final
      rw [List.mem_singleton.mp final]
      exact inTurn.storing attempt link found earlier member
  · have used : (traffic.moved (traffic.scene.advance attempt point wire world)).used =
        traffic.used := used_of_same (congrArg Manager.link manager)
    refine ⟨onward, fun other link now => ?_, by rw [used]; exact inTurn.ascending⟩
    rw [used]
    exact inTurn.storing other link (Scene.storing_beside found waiting now).2

end Advance

/-- Attempts take turns as long as each one is begun when all are over. -/
theorem inTurn_calm {scene : Scene} (inTurn : traffic.InTurn)
    (calm : Scene.Calm traffic.scene scene)
    (untangled : Scene.untangled traffic.scene scene = true) : (traffic.moved scene).InTurn := by
  have used : (traffic.moved scene).used = traffic.used := by
    simp only [moved, calm.entered_eq, List.append_nil]
  refine ⟨?_, fun attempt link found => ?_, by rw [used]; exact inTurn.ascending⟩
  · intro one other first second now also firstGoing secondGoing
    simp only [moved] at now also
    rcases calm.attempts with same | more
    · rw [same] at now also
      exact inTurn.going one other first second now also firstGoing secondGoing
    · have settled : ∀ point ∈ traffic.scene.attempts, point.outcome?.isSome = true := by
        simpa [Scene.untangled, more] using untangled
      have last {place : Nat} {point : Connecting} (here : scene.attempts[place]? = some point)
          (going : point.outcome? = none) : place = traffic.scene.attempts.length := by
        rw [more] at here
        rcases Nat.lt_trichotomy place traffic.scene.attempts.length with inside | last | outside
        · rw [List.getElem?_append_left inside] at here
          have finished := settled point (List.mem_of_getElem? here)
          rw [going] at finished
          cases finished
        · exact last
        · rw [List.getElem?_eq_none (by simpa using Nat.succ_le_of_lt outside)] at here
          cases here
      exact (last now firstGoing).trans (last also secondGoing).symm
  · rw [used]
    exact inTurn.storing attempt link (calm.storing found)

/-- What holds of the links at every moment. -/
structure Linked (traffic : Traffic δ) : Prop where
  traced : traffic.Traced
  inTurn : traffic.apart = true → traffic.InTurn

theorem linked_alerted (linked : traffic.Linked) (notice : Option Notice) :
    (traffic.alerted notice).Linked :=
  ⟨traced_alerted linked.traced notice, fun apart => inTurn_alerted (linked.inTurn apart) notice⟩

theorem linked_of_same (linked : traffic.Linked) (posts : List (Account Publishing))
    (leases : List (Account (Lease δ))) : Linked { traffic with posts, leases } :=
  ⟨⟨linked.traced.bounded, linked.traced.once, linked.traced.inUse, linked.traced.storing,
      linked.traced.single⟩,
    fun apart => ⟨(linked.inTurn apart).going, (linked.inTurn apart).storing,
      (linked.inTurn apart).ascending⟩⟩

/-- Whatever happens in the scene keeps the links apart, and in order while attempts take
turns. -/
theorem linked_moved {scene : Scene} (linked : traffic.Linked)
    (move : traffic.scene.Move steps scene) : (traffic.moved scene).Linked := by
  have before (apart : (traffic.moved scene).apart = true) :
      traffic.apart = true ∧ Scene.untangled traffic.scene scene = true := by
    simpa [moved] using apart
  rcases Scene.move_cases move with calm | advanced
  · exact ⟨traced_calm linked.traced calm, fun apart =>
      inTurn_calm (linked.inTurn (before apart).1) calm (before apart).2⟩
  · cases advanced with
    | step attempt found going wire world =>
        exact ⟨traced_advance linked.traced found, fun apart =>
          inTurn_advance linked.traced (linked.inTurn (before apart).1) found going⟩

/-! ## The accounts -/

/-- An account that goes by its law, of somebody who has found its link in use. -/
structure Booked {π : Type} (law : Account π → Prop) (used : List Link) (account : Account π) :
    Prop where
  law : law account
  taken : ∀ link, account.taken = some link → link ∈ used

structure Kept (traffic : Traffic δ) : Prop where
  linked : traffic.Linked
  posts : ∀ account ∈ traffic.posts,
    Booked (fun account => ∃ publication, Posted publication account) traffic.used account
  leases : ∀ account ∈ traffic.leases,
    Booked (fun account => ∃ cls prefetch, Leased cls prefetch account) traffic.used account

section Booked

variable {π : Type} {law : Account π → Prop} {used : List Link} {accounts : List (Account π)}

theorem booked_grown {later : List Link}
    (booked : ∀ account ∈ accounts, Booked law used account) :
    ∀ account ∈ accounts, Booked law (used ++ later) account := fun account member =>
  ⟨(booked account member).law, fun link taken =>
    List.mem_append_left later ((booked account member).taken link taken)⟩

theorem booked_begun (booked : ∀ account ∈ accounts, Booked law used account) {point : π}
    (begins : law (.fresh point)) :
    ∀ account ∈ accounts ++ [.fresh point], Booked law used account := by
  intro account member
  rcases List.mem_append.mp member with old | new
  · exact booked account old
  · rw [List.mem_singleton.mp new]
    exact ⟨begins, nofun⟩

/-- An account that goes on is in order if it goes by the law and looked no further than at the
link in use. -/
theorem booked_set (booked : ∀ account ∈ accounts, Booked law used account) {place : Nat}
    {next : Account π} (goesOn : Booked law used next) :
    ∀ account ∈ accounts.set place next, Booked law used account := by
  intro account member
  rcases List.mem_or_eq_of_mem_set member with old | rfl
  · exact booked account old
  · exact goesOn

end Booked

theorem kept_step (kept : traffic.Kept) (step : Step steps traffic next) : next.Kept := by
  obtain ⟨linked, posts, leases⟩ := kept
  have looked {looks : Bool} {before : Option Link}
      (taken : ∀ link, before = some link → link ∈ traffic.used) (link : Link)
      (found : (if looks then traffic.scene.manager.link else before) = some link) :
      link ∈ traffic.used := by
    cases looks with
    | false => exact taken link found
    | true => exact List.mem_of_getLast? (linked.traced.inUse link found)
  cases step with
  | moved move => exact ⟨linked_moved linked move, booked_grown posts, booked_grown leases⟩
  | posting publication =>
      exact ⟨linked_of_same linked _ _, booked_begun posts ⟨publication, .starting⟩, leases⟩
  | @posted place account found World wire world =>
      obtain ⟨⟨publication, posted⟩, taken⟩ := posts account (List.mem_of_getElem? found)
      have goesOn := posted_step posted wire traffic.scene.manager world
      exact ⟨linked_of_same (linked_alerted linked _) _ _,
        booked_set posts ⟨⟨publication, goesOn⟩, looked taken⟩, leases⟩
  | leasing cls prefetch =>
      exact ⟨linked_of_same linked _ _, posts, booked_begun leases ⟨cls, prefetch, .starting⟩⟩
  | @leased place account point found opening World wire world =>
      obtain ⟨⟨cls, prefetch, leased⟩, taken⟩ := leases account (List.mem_of_getElem? found)
      have goesOn := leased_step leased opening wire traffic.scene.manager world
      exact ⟨linked_of_same linked _ _, posts,
        booked_set leases ⟨⟨cls, prefetch, goesOn⟩, looked taken⟩⟩
  | @collecting place account subscription found opened stream =>
      obtain ⟨⟨cls, prefetch, leased⟩, taken⟩ := leases account (List.mem_of_getElem? found)
      have goesOn := leased_collecting leased opened (.pulling stream)
      exact ⟨linked_of_same linked _ _, posts, booked_set leases ⟨⟨cls, prefetch, goesOn⟩, taken⟩⟩
  | @collected place account subscription collector next queue after found collecting step =>
      obtain ⟨⟨cls, prefetch, leased⟩, taken⟩ := leases account (List.mem_of_getElem? found)
      have goesOn := leased_collected leased collecting next
      exact ⟨linked_of_same linked _ _, posts, booked_set leases ⟨⟨cls, prefetch, goesOn⟩, taken⟩⟩
  | @stopped place account subscription collector found collecting =>
      obtain ⟨⟨cls, prefetch, leased⟩, taken⟩ := leases account (List.mem_of_getElem? found)
      have goesOn := leased_stopped leased collecting
      exact ⟨linked_of_same linked _ _, posts, booked_set leases ⟨⟨cls, prefetch, goesOn⟩, taken⟩⟩
  | @announced place account subscription outcome found ended =>
      obtain ⟨⟨cls, prefetch, leased⟩, taken⟩ := leases account (List.mem_of_getElem? found)
      have goesOn := leased_announced leased ended outcome
      rw [Collector.announce_eq]
      exact ⟨linked_of_same (linked_alerted linked _) _ _, posts,
        booked_set leases ⟨⟨cls, prefetch, goesOn⟩, taken⟩⟩

theorem kept_started : (started : Traffic δ).Kept where
  linked :=
    { traced :=
        { bounded := fun _ member => absurd member List.not_mem_nil
          once := .nil
          inUse := fun _ inUse => nomatch inUse
          storing := fun _ _ found => nomatch found
          single := fun _ _ _ _ found => nomatch found }
      inTurn := fun _ =>
        { going := fun _ _ _ _ found => nomatch found
          storing := fun _ _ found => nomatch found
          ascending := .nil } }
  posts _ member := absurd member List.not_mem_nil
  leases _ member := absurd member List.not_mem_nil

theorem reachable_kept (reachable : Reachable steps traffic) : traffic.Kept := by
  induction reachable with
  | started => exact kept_started
  | step earlier step kept => exact kept_step kept step

/-! ## Whose failure it was -/

/-- What the notices of those who use a connection say, and what a supervisor makes of them. -/
structure Attributed (traffic : Traffic δ) : Prop where
  /-- The steps of a publish and of an opening, one after the other, are the functions that
  run. -/
  publish : ∀ {World : Type} (wire : Wire World), Manager.publish wire = Publishing.run wire
  subscribe : ∀ {World : Type} (wire : Wire World) (cls : MessageClass) (prefetch : Nat),
    Subscription.opened wire cls prefetch = Subscribing.run wire cls prefetch
  /-- A publish asks only the channel of the link that was in use when it looked. It raises one
  notice, of that link's generation, if the channel has failed, and otherwise none. -/
  posts : ∀ account ∈ traffic.posts, ∃ publication, Posted publication account
  /-- So does a subscription, whose one notice is that of its collector. -/
  leases : ∀ account ∈ traffic.leases, ∃ cls prefetch, Leased cls prefetch account
  publishing : ∀ account ∈ traffic.posts, ∀ link, account.taken = some link → link ∈ traffic.used
  subscribing : ∀ account ∈ traffic.leases, ∀ link, account.taken = some link → link ∈ traffic.used
  /-- The generation says which link it was. -/
  once : (traffic.used.map Link.generation).Nodup
  inUse : ∀ link, traffic.scene.manager.link = some link → traffic.used.getLast? = some link
  /-- A notice is heeded exactly if its generation was counted last. -/
  heard : ∀ link ∈ traffic.used,
    (Supervisor.Heeds traffic.scene.manager.generation link.generation ↔
      link.generation = traffic.scene.manager.generation) ∧
    (Supervisor.PassesOver traffic.scene.manager.generation link.generation ↔
      link.generation ≠ traffic.scene.manager.generation)
  /-- For a link that was replaced that is only so if the later link was counted earlier. -/
  overtaken : ∀ earlier later, [earlier, later].Sublist traffic.used →
    Supervisor.Heeds traffic.scene.manager.generation earlier.generation →
      later.generation < earlier.generation
  /-- That takes two attempts that overlap: else the notices of every link that was replaced are
  passed over. -/
  apart : traffic.apart = true → ∀ earlier later, [earlier, later].Sublist traffic.used →
    Supervisor.PassesOver traffic.scene.manager.generation earlier.generation

/-- **Every notice of a publish or a subscription is of the link whose channel it used**, however
the connection is replaced and closed meanwhile; and as long as no two attempts to connect
overlap, none of a link that was replaced makes the supervisor replace the one in use. -/
theorem every_alarm_attributed (reachable : Reachable steps traffic) : Attributed traffic := by
  obtain ⟨⟨traced, inTurn⟩, posts, leases⟩ := reachable_kept reachable
  have bounded {earlier later : Link} (order : [earlier, later].Sublist traffic.used) :
      later.generation ≤ traffic.scene.manager.generation :=
    traced.bounded later (order.subset (List.mem_cons_of_mem _ List.mem_cons_self))
  refine ⟨Publishing.publish_eq_run, Subscribing.opened_eq_run,
    fun account member => (posts account member).law,
    fun account member => (leases account member).law,
    fun account member => (posts account member).taken,
    fun account member => (leases account member).taken, traced.once, traced.inUse,
    fun link _ => ⟨Supervisor.heeds_iff, Supervisor.passesOver_iff⟩, ?_, ?_⟩
  · intro earlier later order heeds
    have latest := Supervisor.heeds_iff.mp heeds
    have different : earlier.generation ≠ later.generation :=
      List.pairwise_iff_forall_sublist.mp (List.pairwise_map.mp traced.once) order
    have older := bounded order
    omega
  · intro apart earlier later order
    have ascending : earlier.generation < later.generation :=
      List.pairwise_iff_forall_sublist.mp (inTurn apart).ascending order
    have older := bounded order
    exact Supervisor.passesOver_iff.mpr (by omega)

/-! ## Poles -/

/-- What happens in a run of the host: it begins to connect, an attempt goes on, somebody begins
to publish, a publish goes on. -/
inductive Turn where
  | connecting
  | attempt (place : Nat)
  | posting
  | post (place : Nat)

/-- A broker that has closed every channel. -/
def closed : Wire Unit where
  dial world := (.ok 0, world)
  openChannel connection world := (.ok ⟨connection, 0⟩, world)
  disconnect _ _ world := (.ok (), world)
  declare _ _ world := (false, world)
  publish _ _ world := (.error ⟨"invalid channel state: Closed", .channelState, false⟩, world)
  limitPrefetch _ _ world := (false, world)
  startConsumer _ _ world := (none, world)
  cancelConsumer _ _ world := (false, world)

/-- Plays a turn of the host. Connections are dialed where everything is accepted, and messages
are published where every channel was closed. -/
def play (traffic : Traffic Empty) : Turn → Traffic Empty
  | .connecting =>
      traffic.moved { traffic.scene with attempts := traffic.scene.attempts ++ [.dialing] }
  | .attempt place =>
      match traffic.scene.attempts[place]? with
      | some point =>
          if point.outcome?.isSome then traffic
          else traffic.moved (traffic.scene.advance place point .obliging (place + 1))
      | none => traffic
  | .posting =>
      { traffic with posts := traffic.posts ++ [.fresh (.starting ⟨"news", "", [], []⟩)] }
  | .post place =>
      match traffic.posts[place]? with
      | some account =>
          { traffic.alerted (account.point.step closed traffic.scene.manager ()).2.1 with
            posts := traffic.posts.set place (account.published closed traffic.scene.manager ()) }
      | none => traffic

theorem reachable_play {traffic : Traffic Empty} (reachable : Reachable steps traffic)
    (idle : traffic.scene.own = none) (turn : Turn) :
    Reachable steps (traffic.play turn) ∧ (traffic.play turn).scene.own = none := by
  cases turn with
  | connecting => exact ⟨.step reachable (.moved (.connect .begun)), idle⟩
  | attempt place =>
      simp only [play]
      split
      · rename_i point found
        split
        · exact ⟨reachable, idle⟩
        · rename_i going
          exact ⟨.step reachable (.moved (.connect (.advanced (by simp [idle]) found
            (by simpa using going) _ _))), idle⟩
      · exact ⟨reachable, idle⟩
  | posting => exact ⟨.step reachable (.posting _), idle⟩
  | post place =>
      simp only [play]
      split
      · rename_i account found
        exact ⟨.step reachable (.posted found closed ()), idle⟩
      · exact ⟨reachable, idle⟩

theorem reachable_plays (turns : List Turn) (traffic : Traffic Empty)
    (reachable : Reachable steps traffic) (idle : traffic.scene.own = none) :
    Reachable steps (turns.foldl play traffic) := by
  induction turns generalizing traffic with
  | nil => exact reachable
  | cons turn turns ih =>
      obtain ⟨reached, stillIdle⟩ := reachable_play reachable idle turn
      exact ih _ reached stillIdle

/-- A publish finds the first link, which is replaced before its message is sent. -/
def outlived : Traffic Empty :=
  [.connecting, .attempt 0, .attempt 0, .attempt 0, .attempt 0, .attempt 0, .posting, .post 0,
    .connecting, .attempt 1, .attempt 1, .attempt 1, .attempt 1, .attempt 1, .attempt 1, .post 0,
    .post 0].foldl play started

/-- The notice is of the link that was replaced, and is passed over. -/
theorem every_alarm_attributed_outlived :
    Reachable 0 outlived ∧
      outlived.scene.manager.link = some ⟨2, 2, ⟨2, 2⟩, ⟨2, 2⟩⟩ ∧
      outlived.posts.map Account.taken = [some ⟨1, 1, ⟨1, 1⟩, ⟨1, 1⟩⟩] ∧
      outlived.posts.map Account.raised =
        [[⟨1, "produce channel unusable: invalid channel state: Closed"⟩]] ∧
      outlived.apart = true ∧ Attributed outlived := by
  have reachable : Reachable 0 outlived := reachable_plays _ _ .started rfl
  exact ⟨reachable, rfl, rfl, rfl, rfl, every_alarm_attributed reachable⟩

/-- Two attempts cross, and a publish finds the link that is stored first. -/
def crossed : Traffic Empty :=
  [.connecting, .connecting, .attempt 0, .attempt 0, .attempt 0, .attempt 0, .attempt 1, .attempt 1,
    .attempt 1, .attempt 1, .attempt 1, .posting, .post 0, .attempt 0, .attempt 0, .post 0,
    .post 0].foldl play started

/-- If attempts cross, a failure on a replaced connection does make the supervisor replace the
one in use: the link that was counted last is replaced by one that was counted before it, and
its notice begins a recovery. -/
theorem overtaken_alarm_heeded : ∃ traffic : Traffic Empty, Reachable 0 traffic ∧
    traffic.used = [⟨2, 2, ⟨2, 2⟩, ⟨2, 2⟩⟩, ⟨1, 1, ⟨1, 1⟩, ⟨1, 1⟩⟩] ∧
    traffic.scene.manager.link = some ⟨1, 1, ⟨1, 1⟩, ⟨1, 1⟩⟩ ∧
    traffic.posts.map Account.taken = [some ⟨2, 2, ⟨2, 2⟩, ⟨2, 2⟩⟩] ∧
    traffic.posts.map Account.raised =
      [[⟨2, "produce channel unusable: invalid channel state: Closed"⟩]] ∧
    traffic.scene.attempts.map Connecting.outcome? = [some (.ok ()), some (.ok ()), none] ∧
    traffic.scene.begun = [.reconnect] ∧ traffic.scene.own = some 2 := by
  have raised : Reachable 0 crossed := reachable_plays _ _ .started rfl
  have heeded := Reachable.step raised (.moved (.supervisor (.looked rfl)))
  have rested := Reachable.step heeded (.moved (.supervisor (.rested rfl rfl)))
  exact ⟨_, rested, rfl, rfl, rfl, rfl, rfl, rfl, rfl⟩

end Traffic

end Redelivery
