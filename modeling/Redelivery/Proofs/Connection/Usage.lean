import Redelivery.Proofs.Connection.Observer
import Redelivery.Proofs.Connection.Scene
import Redelivery.Subscription.Collector
import Redelivery.Subscription.Opening
/-!
# Those who use a connection

To publish and to subscribe take several steps, and the connection can be replaced between any
two of them. Whoever uses a connection looks it up once, and takes the channel and the
generation from what was found there; all that is asked later goes to that channel, and a
failure is reported under that generation. `Publishing` and `Subscribing` are cut into their
steps here, each with the notice that it raises, and `Account` is the account of one user.

* `publish_eq_run`, `opened_eq_run`, `announce_eq`: the steps, taken one after the other, are the
  functions that run.
* `Posted`, `Leased`: all that a publish and a subscription can have asked and raised, at every
  point.
* `posted_step`, `leased_step`: these hold after every step, whatever happens in between.
-/

namespace Redelivery

set_option autoImplicit false

variable {σ δ : Type}

/-! ## What is asked of a channel -/

/-- What was asked on a channel, with the answer. -/
inductive Usage where
  | published (channel : Channel) (publication : Publication)
      (answer : Except PublishFault Confirmation)
  | limited (channel : Channel) (count : Nat) (answer : Bool)
  | consumed (channel : Channel) (queue : String) (answer : Option ConsumerTag)

/-- What is noted about the channels of publishes and subscriptions. -/
def Usage.observer : Observer Usage where
  publish channel publication answer := [.published channel publication answer]
  limitPrefetch channel count answer := [.limited channel count answer]
  startConsumer channel queue answer := [.consumed channel queue answer]

/-- The wire with every use of a channel written down behind the earlier ones. -/
def Wire.charted (wire : Wire σ) : Wire (σ × List Usage) := wire.observed Usage.observer

namespace Wire

variable (wire : Wire σ) (state : σ × List Usage) (channel : Channel)

@[simp] theorem charted_publish (publication : Publication) :
    wire.charted.publish channel publication state =
      ((wire.publish channel publication state.1).1, (wire.publish channel publication state.1).2,
        state.2 ++
          [.published channel publication (wire.publish channel publication state.1).1]) := rfl

@[simp] theorem charted_limitPrefetch (count : Nat) :
    wire.charted.limitPrefetch channel count state =
      ((wire.limitPrefetch channel count state.1).1, (wire.limitPrefetch channel count state.1).2,
        state.2 ++ [.limited channel count (wire.limitPrefetch channel count state.1).1]) := rfl

@[simp] theorem charted_startConsumer (queue : String) :
    wire.charted.startConsumer channel queue state =
      ((wire.startConsumer channel queue state.1).1, (wire.startConsumer channel queue state.1).2,
        state.2 ++ [.consumed channel queue (wire.startConsumer channel queue state.1).1]) := rfl

end Wire

/-! ## Publishing in steps -/

/-- The manager after somebody may have raised a notice. -/
def Manager.alerted (manager : Manager) : Option Notice → Manager
  | some notice => manager.report notice.generation notice.reason
  | none => manager

/-- A point in a publish: what comes next. -/
inductive Publishing where
  /-- The connection in use is looked up next. -/
  | starting (publication : Publication)
  /-- The message is sent and its confirmation awaited next, on the channel of the link that was
  found. -/
  | sending (publication : Publication) (link : Link)
  /-- The message was not sent or not confirmed, and the fault is reported next. -/
  | failing (publication : Publication) (link : Link) (fault : PublishFault)
  | finished (outcome : Outcome)

namespace Publishing

def looks : Publishing → Bool
  | starting _ => true
  | _ => false

/-- Takes the next step of a publish; says which notice it raises. -/
def step (wire : Wire σ) (manager : Manager) : Publishing → σ → Publishing × Option Notice × σ
  | starting publication, world =>
      match manager.link with
      | none => (finished (.error .notConnected), none, world)
      | some link => (sending publication link, none, world)
  | sending publication link, world =>
      match wire.publish link.produce publication world with
      | (.ok _, world) => (finished (.ok ()), none, world)
      | (.error fault, world) => (failing publication link fault, none, world)
  | failing publication link fault, world =>
      (finished (.error (.publishing publication.exchange)),
        if fault.unusable then some ⟨link.generation, Manager.unusableReason fault⟩ else none,
        world)
  | finished outcome, world => (finished outcome, none, world)

def steps (wire : Wire σ) : Nat → Publishing → Manager × σ → Publishing × (Manager × σ)
  | 0, point, state => (point, state)
  | count + 1, point, (manager, world) =>
      let (point, notice, world) := step wire manager point world
      steps wire count point (manager.alerted notice, world)

def outcome? : Publishing → Option Outcome
  | finished outcome => some outcome
  | _ => none

/-- The number of steps of the longest publish: the connection, the message, the fault. -/
def longest : Nat := 3

def run (wire : Wire σ) : Publisher (Manager × σ) := fun publication state =>
  let (point, state) := steps wire longest (starting publication) state
  (point.outcome?.getD (.error .internal), state)

/-- A publish is its steps, taken one after the other. -/
theorem publish_eq_run (wire : Wire σ) : Manager.publish wire = run wire := by
  funext publication ⟨manager, world⟩
  cases inUse : manager.link with
  | none => simp [Manager.publish, run, longest, steps, step, outcome?, Manager.alerted, inUse]
  | some link =>
      rcases told : wire.publish link.produce publication world with ⟨fault | confirmation, next⟩
      · by_cases unusable : fault.unusable = true <;>
          simp [Manager.publish, run, longest, steps, step, outcome?, Manager.alerted, inUse, told,
            unusable]
      · simp [Manager.publish, run, longest, steps, step, outcome?, Manager.alerted, inUse, told]

end Publishing

/-! ## Subscribing in steps -/

/-- A point in opening a subscription: what comes next. -/
inductive Subscribing where
  /-- The class is looked at next and, if it is switched on, the connection in use. -/
  | starting (cls : MessageClass) (prefetch : Nat)
  /-- What may be sent ahead is limited next, on the channel of the link that was found. -/
  | limiting (cls : MessageClass) (prefetch : Nat) (link : Link)
  /-- The consumer is started next. -/
  | consuming (cls : MessageClass) (link : Link)
  | finished (result : Except Failure (Option Subscription))

namespace Subscribing

def looks : Subscribing → Bool
  | starting cls _ => cls.enabled
  | _ => false

def step (wire : Wire σ) (manager : Manager) : Subscribing → σ → Subscribing × σ
  | starting cls prefetch, world =>
      if cls.enabled then
        match manager.link with
        | none => (finished (.error .notConnected), world)
        | some link => (limiting cls prefetch link, world)
      else (finished (.ok none), world)
  | limiting cls prefetch link, world =>
      match wire.limitPrefetch link.consume prefetch world with
      | (false, world) => (finished (.error (.limitingPrefetch cls.direct.queue)), world)
      | (true, world) => (consuming cls link, world)
  | consuming cls link, world =>
      match wire.startConsumer link.consume cls.direct.queue world with
      | (none, world) => (finished (.error (.startingConsumer cls.direct.queue)), world)
      | (some tag, world) =>
          (finished (.ok (some ⟨tag, link.consume, link.generation⟩)), world)
  | finished result, world => (finished result, world)

def steps (wire : Wire σ) (manager : Manager) : Nat → Subscribing → σ → Subscribing × σ
  | 0, point, world => (point, world)
  | count + 1, point, world =>
      let (point, world) := step wire manager point world
      steps wire manager count point world

def result? : Subscribing → Option (Except Failure (Option Subscription))
  | finished result => some result
  | _ => none

/-- The number of steps of the longest opening: the connection, the limit, the consumer. -/
def longest : Nat := 3

def run (wire : Wire σ) (cls : MessageClass) (prefetch : Nat) :
    Manager × σ → Except Failure (Option Subscription) × (Manager × σ)
  | (manager, world) =>
      let (point, world) := steps wire manager longest (starting cls prefetch) world
      (point.result?.getD (.error .internal), manager, world)

theorem opened_eq_run (wire : Wire σ) (cls : MessageClass) (prefetch : Nat) :
    Subscription.opened wire cls prefetch = run wire cls prefetch := by
  funext ⟨manager, world⟩
  cases enabled : cls.enabled with
  | false => simp [Subscription.opened, run, longest, steps, step, result?, enabled]
  | true =>
      cases inUse : manager.link with
      | none => simp [Subscription.opened, run, longest, steps, step, result?, enabled, inUse]
      | some link =>
          rcases limited : wire.limitPrefetch link.consume prefetch world with ⟨_ | _, limit⟩
          · simp [Subscription.opened, run, longest, steps, step, result?, enabled, inUse, limited]
          · rcases begun : wire.startConsumer link.consume cls.direct.queue limit with
              ⟨_ | tag, after⟩ <;>
              simp [Subscription.opened, run, longest, steps, step, result?, enabled, inUse,
                limited, begun]

end Subscribing

/-- The notice that announces how a collector has ended, if it is a failure. -/
def Collector.alarm? (generation : Nat) : Outcome → Option Notice
  | .ok () => none
  | .error failure => some ⟨generation, failure.message⟩

theorem Collector.announce_eq (generation : Nat) (outcome : Outcome) (manager : Manager) :
    { manager with notices := announce generation outcome manager.notices } =
      manager.alerted (alarm? generation outcome) := by
  cases outcome <;> rfl

/-- A subscription from its opening to its end. -/
inductive Lease (δ : Type) where
  | opening (point : Subscribing)
  | collecting (subscription : Subscription) (collector : Collector δ)
  /-- The collector is over: it has announced its end, or was told to give up. -/
  | ended (subscription : Subscription)

namespace Lease

def looks : Lease δ → Bool
  | opening point => point.looks
  | _ => false

end Lease

/-! ## Accounts -/

/-- The account of somebody who uses a connection: how far it has come, the link that was in use
when it looked, what it has asked since, and the notices that it has raised. -/
structure Account (π : Type) where
  point : π
  taken : Option Link
  usages : List Usage
  raised : List Notice

namespace Account

def fresh {π : Type} (point : π) : Account π := ⟨point, none, [], []⟩

def published (wire : Wire σ) (manager : Manager) (world : σ) (account : Account Publishing) :
    Account Publishing :=
  let told := account.point.step wire manager world
  { point := told.1
    taken := if account.point.looks then manager.link else account.taken
    usages := account.usages ++ (account.point.step wire.charted manager (world, [])).2.2.2
    raised := account.raised ++ told.2.1.toList }

def subscribed (wire : Wire σ) (manager : Manager) (world : σ) (point : Subscribing)
    (account : Account (Lease δ)) : Account (Lease δ) :=
  { account with
    point := .opening (point.step wire manager world).1
    taken := if point.looks then manager.link else account.taken
    usages := account.usages ++ (point.step wire.charted manager (world, [])).2.2 }

def announced (subscription : Subscription) (outcome : Outcome) (account : Account (Lease δ)) :
    Account (Lease δ) :=
  { account with
    point := .ended subscription
    raised := account.raised ++ (Collector.alarm? subscription.generation outcome).toList }

end Account

/-- All that a publish can have done. What it asks goes to the channel of the link that was in
use when it looked, and the one notice that it may raise is of that link's generation. -/
inductive Posted (publication : Publication) : Account Publishing → Prop where
  | starting : Posted publication ⟨.starting publication, none, [], []⟩
  | unconnected : Posted publication ⟨.finished (.error .notConnected), none, [], []⟩
  | sending (link : Link) : Posted publication ⟨.sending publication link, some link, [], []⟩
  | taken (link : Link) (confirmation : Confirmation) :
      Posted publication
        ⟨.finished (.ok ()), some link, [.published link.produce publication (.ok confirmation)],
          []⟩
  | failing (link : Link) (fault : PublishFault) :
      Posted publication
        ⟨.failing publication link fault, some link,
          [.published link.produce publication (.error fault)], []⟩
  /-- The channel is gone, or it or its connection is in no state to be used. -/
  | severed (link : Link) (fault : PublishFault)
      (gone : fault.connected = false ∨ fault.kind = .channelState ∨
        fault.kind = .connectionState) :
      Posted publication
        ⟨.finished (.error (.publishing publication.exchange)), some link,
          [.published link.produce publication (.error fault)],
          [⟨link.generation, Manager.unusableReason fault⟩]⟩
  /-- The channel is connected, and the fault is of another kind. -/
  | refused (link : Link) (fault : PublishFault) (connected : fault.connected = true)
      (kind : fault.kind = .other) :
      Posted publication
        ⟨.finished (.error (.publishing publication.exchange)), some link,
          [.published link.produce publication (.error fault)], []⟩

theorem PublishFault.unusable_iff (fault : PublishFault) :
    fault.unusable = true ↔ fault.connected = false ∨ fault.kind = .channelState ∨
      fault.kind = .connectionState := by
  rcases fault with ⟨reason, kind, connected⟩
  cases kind <;> cases connected <;> simp [unusable]

/-- A publish goes on by the law, whatever has happened to the manager meanwhile. -/
theorem posted_step {publication : Publication} {account : Account Publishing}
    (posted : Posted publication account) (wire : Wire σ) (manager : Manager) (world : σ) :
    Posted publication (account.published wire manager world) := by
  cases posted with
  | starting =>
      cases inUse : manager.link with
      | none =>
          simpa [Account.published, Publishing.step, Publishing.looks, inUse] using .unconnected
      | some link =>
          simpa [Account.published, Publishing.step, Publishing.looks, inUse] using .sending link
  | sending link =>
      rcases told : wire.publish link.produce publication world with ⟨fault | confirmation, next⟩
      · simpa [Account.published, Publishing.step, Publishing.looks, told] using
          .failing link fault
      · simpa [Account.published, Publishing.step, Publishing.looks, told] using
          .taken link confirmation
  | failing link fault =>
      cases unusable : fault.unusable with
      | true =>
          have gone := fault.unusable_iff.mp unusable
          simpa [Account.published, Publishing.step, Publishing.looks, unusable] using
            .severed link fault gone
      | false =>
          have usable : fault.connected = true ∧ fault.kind = .other := by
            simpa [PublishFault.unusable] using unusable
          simpa [Account.published, Publishing.step, Publishing.looks, unusable] using
            .refused link fault usable.1 usable.2
  | unconnected => exact .unconnected
  | taken link confirmation => exact .taken link confirmation
  | severed link fault gone => exact .severed link fault gone
  | refused link fault connected kind => exact .refused link fault connected kind

/-- All that a subscription can have done. What it asks goes to the channel of the link that was
in use when it looked, and the one notice that it may raise is of that link's generation. -/
inductive Leased (cls : MessageClass) (prefetch : Nat) : Account (Lease δ) → Prop where
  | starting : Leased cls prefetch ⟨.opening (.starting cls prefetch), none, [], []⟩
  | disabled (off : cls.enabled = false) :
      Leased cls prefetch ⟨.opening (.finished (.ok none)), none, [], []⟩
  | unconnected : Leased cls prefetch ⟨.opening (.finished (.error .notConnected)), none, [], []⟩
  | limiting (link : Link) :
      Leased cls prefetch ⟨.opening (.limiting cls prefetch link), some link, [], []⟩
  | unlimited (link : Link) :
      Leased cls prefetch
        ⟨.opening (.finished (.error (.limitingPrefetch cls.direct.queue))), some link,
          [.limited link.consume prefetch false], []⟩
  | consuming (link : Link) :
      Leased cls prefetch
        ⟨.opening (.consuming cls link), some link, [.limited link.consume prefetch true], []⟩
  | unstarted (link : Link) :
      Leased cls prefetch
        ⟨.opening (.finished (.error (.startingConsumer cls.direct.queue))), some link,
          [.limited link.consume prefetch true, .consumed link.consume cls.direct.queue none], []⟩
  | opened (link : Link) (tag : ConsumerTag) :
      Leased cls prefetch
        ⟨.opening (.finished (.ok (some ⟨tag, link.consume, link.generation⟩))), some link,
          [.limited link.consume prefetch true, .consumed link.consume cls.direct.queue (some tag)],
          []⟩
  | collecting (link : Link) (tag : ConsumerTag) (collector : Collector δ) :
      Leased cls prefetch
        ⟨.collecting ⟨tag, link.consume, link.generation⟩ collector, some link,
          [.limited link.consume prefetch true, .consumed link.consume cls.direct.queue (some tag)],
          []⟩
  /-- The collector ended well, or was told to give up. -/
  | quiet (link : Link) (tag : ConsumerTag) :
      Leased cls prefetch
        ⟨.ended ⟨tag, link.consume, link.generation⟩, some link,
          [.limited link.consume prefetch true, .consumed link.consume cls.direct.queue (some tag)],
          []⟩
  /-- The collector ended with a failure. -/
  | failed (link : Link) (tag : ConsumerTag) (failure : Failure) :
      Leased cls prefetch
        ⟨.ended ⟨tag, link.consume, link.generation⟩, some link,
          [.limited link.consume prefetch true, .consumed link.consume cls.direct.queue (some tag)],
          [⟨link.generation, failure.message⟩]⟩

section Leased

variable {cls : MessageClass} {prefetch : Nat}

/-- An opening goes on by the law, whatever has happened to the manager meanwhile. -/
theorem leased_step {point : Subscribing} {account : Account (Lease δ)}
    (leased : Leased cls prefetch account) (opening : account.point = .opening point)
    (wire : Wire σ) (manager : Manager) (world : σ) :
    Leased cls prefetch (account.subscribed wire manager world point) := by
  cases leased with
  | starting =>
      cases opening
      cases enabled : cls.enabled with
      | false =>
          simpa [Account.subscribed, Subscribing.step, Subscribing.looks, enabled] using
            .disabled enabled
      | true =>
          cases inUse : manager.link with
          | none =>
              simpa [Account.subscribed, Subscribing.step, Subscribing.looks, enabled, inUse] using
                .unconnected
          | some link =>
              simpa [Account.subscribed, Subscribing.step, Subscribing.looks, enabled, inUse] using
                .limiting link
  | limiting link =>
      cases opening
      rcases told : wire.limitPrefetch link.consume prefetch world with ⟨_ | _, next⟩
      · simpa [Account.subscribed, Subscribing.step, Subscribing.looks, told] using
          .unlimited link
      · simpa [Account.subscribed, Subscribing.step, Subscribing.looks, told] using
          .consuming link
  | consuming link =>
      cases opening
      rcases told : wire.startConsumer link.consume cls.direct.queue world with ⟨_ | tag, next⟩
      · simpa [Account.subscribed, Subscribing.step, Subscribing.looks, told] using
          .unstarted link
      · simpa [Account.subscribed, Subscribing.step, Subscribing.looks, told] using
          .opened link tag
  | disabled off =>
      cases opening
      exact .disabled off
  | unconnected =>
      cases opening
      exact .unconnected
  | unlimited link =>
      cases opening
      exact .unlimited link
  | unstarted link =>
      cases opening
      exact .unstarted link
  | opened link tag =>
      cases opening
      exact .opened link tag
  | collecting link tag collector => cases opening
  | quiet link tag => cases opening
  | failed link tag failure => cases opening

theorem leased_collecting {subscription : Subscription} {account : Account (Lease δ)}
    (leased : Leased cls prefetch account)
    (opened : account.point = .opening (.finished (.ok (some subscription))))
    (collector : Collector δ) :
    Leased cls prefetch { account with point := .collecting subscription collector } := by
  cases leased with
  | opened link tag =>
      cases opened
      exact .collecting link tag collector
  | _ => cases opened

section Collecting

variable {subscription : Subscription} {collector : Collector δ} {account : Account (Lease δ)}
  (leased : Leased cls prefetch account)
  (collecting : account.point = .collecting subscription collector)

include leased collecting

theorem leased_collected (next : Collector δ) :
    Leased cls prefetch { account with point := .collecting subscription next } := by
  cases leased with
  | collecting link tag collector =>
      cases collecting
      exact .collecting link tag next
  | _ => cases collecting

theorem leased_stopped :
    Leased cls prefetch ({ account with point := .ended subscription } : Account (Lease δ)) := by
  cases leased with
  | collecting link tag collector =>
      cases collecting
      exact .quiet link tag
  | _ => cases collecting

theorem leased_announced (outcome : Outcome) :
    Leased cls prefetch (account.announced subscription outcome) := by
  cases leased with
  | collecting link tag collector =>
      cases collecting
      cases outcome with
      | ok => exact .quiet link tag
      | error failure => exact .failed link tag failure
  | _ => cases collecting

end Collecting

end Leased

end Redelivery
