import Redelivery.Proofs.Topology.Routing
/-!
# The retry cycle is closed

Where no two routes share an exchange or a queue, the broker sends the messages of a class
along its own routes and nowhere else: what is published goes to the direct queue, what that
drops goes to the dead-letter queue, and what waited there returns to the direct queue. What is
published to junk stays in the junk queue. This holds for every kind of exchange and for all
keys, wildcards included.

* `Plan.held_exchange`, `Plan.held_queue`, `Plan.held_bindings`: what stands under the names of
  a class, and what is bound to its exchanges.
* `Holdings.Closes`: the cycle of one class, and `Holdings.turn_of_closes`: its rounds.
* `retry_cycle_closed`: a registration that succeeds closes the cycle of every class.
-/

namespace Redelivery

set_option autoImplicit false

/-- No two routes of the classes share an exchange, and no two share a queue. -/
structure Apart (classes : List MessageClass) : Prop where
  exchanges : ((Plan.routes classes).map Route.exchange).Nodup
  queues : ((Plan.routes classes).map Route.queue).Nodup

namespace Plan

variable {classes : List MessageClass} {cls : MessageClass}

theorem held_exchange (apart : Apart classes) (member : cls ∈ classes) {exchange : Exchange}
    (own : exchange ∈ (RetryCycle.ofClass cls).exchanges) :
    (Holdings.ofPlan (ofClasses classes)).exchange? exchange.name = some exchange := by
  rw [exchange?_ofPlan]
  refine find?_of_mem ?_ (List.mem_flatMap.mpr ⟨cls, member, own⟩)
  rw [names_exchanges]
  exact apart.exchanges

theorem held_queue (apart : Apart classes) (member : cls ∈ classes) {queue : Queue}
    (own : queue ∈ (RetryCycle.ofClass cls).queues) :
    (Holdings.ofPlan (ofClasses classes)).queue? queue.name = some queue := by
  rw [queue?_ofPlan]
  refine find?_of_mem ?_ (List.mem_flatMap.mpr ⟨cls, member, own⟩)
  rw [names_queues]
  exact apart.queues

theorem held_bindings (apart : Apart classes) :
    ((Holdings.ofPlan (ofClasses classes)).bindings.map Binding.exchange).Nodup := by
  have names : (everything classes).bindings.map Binding.exchange =
      (routes classes).map Route.exchange := by
    rw [bindings_everything, List.map_map]
    rfl
  have nodup : ((everything classes).bindings.map Binding.exchange).Nodup := by
    rw [names]
    exact apart.exchanges
  have whole : collect id (everything classes).bindings = (everything classes).bindings := by
    apply collect_of_nodup
    rw [List.map_id]
    exact nodup.of_map
  rw [ofClasses_eq]
  show ((collect id (everything classes).bindings).map Binding.exchange).Nodup
  rwa [whole]

end Plan

/-! ## The cycle of one class -/

namespace Holdings

variable {held : Holdings} {classes : List MessageClass} {cls : MessageClass}

/-- The retry cycle of a class is closed. -/
structure Closes (held : Holdings) (cls : MessageClass) : Prop where
  /-- What is published on the direct route reaches the direct queue alone. -/
  delivered : held.published cls.direct.exchange cls.direct.key =
    [⟨cls.direct.queue, cls.direct.key⟩]
  /-- What the direct queue drops reaches the dead-letter queue alone. -/
  rejected : ∀ key, held.dropped ⟨cls.direct.queue, key⟩ =
    [⟨cls.deadLetter.queue, cls.deadLetter.key⟩]
  /-- There it waits for the time to live of the class. -/
  waits : (held.queue? cls.deadLetter.queue).bind Queue.patience? = some cls.ttl
  /-- What the dead-letter queue drops reaches the direct queue alone. -/
  expired : ∀ key, held.dropped ⟨cls.deadLetter.queue, key⟩ =
    [⟨cls.direct.queue, cls.direct.key⟩]
  /-- What is published to junk reaches the junk queue alone. -/
  archived : held.published cls.junk.exchange cls.junk.key = [⟨cls.junk.queue, cls.junk.key⟩]
  /-- It may stay there for ever, and nothing that is dropped goes anywhere. -/
  final : ∃ queue, held.queue? cls.junk.queue = some queue ∧ queue.target? = none ∧
    queue.patience? = none

/-- Routes that are apart close the cycle of every class. -/
theorem closes_ofPlan (apart : Apart classes) (member : cls ∈ classes) :
    (ofPlan (Plan.ofClasses classes)).Closes cls := by
  have bindings := Plan.held_bindings apart
  have direct : (ofPlan (Plan.ofClasses classes)).published cls.direct.exchange cls.direct.key =
      [⟨cls.direct.queue, cls.direct.key⟩] :=
    published_own (Plan.held_exchange apart member (.head _)) bindings
      (Plan.mem_bindings_ofPlan member (.head _))
  have dead : (ofPlan (Plan.ofClasses classes)).published cls.deadLetter.exchange
      cls.deadLetter.key = [⟨cls.deadLetter.queue, cls.deadLetter.key⟩] :=
    published_own (Plan.held_exchange apart member (.tail _ (.head _))) bindings
      (Plan.mem_bindings_ofPlan member (.tail _ (.head _)))
  have junk : (ofPlan (Plan.ofClasses classes)).published cls.junk.exchange cls.junk.key =
      [⟨cls.junk.queue, cls.junk.key⟩] :=
    published_own (Plan.held_exchange apart member (.tail _ (.tail _ (.head _)))) bindings
      (Plan.mem_bindings_ofPlan member (.tail _ (.tail _ (.head _))))
  have directQueue := Plan.held_queue apart member (.head _)
  have deadQueue := Plan.held_queue apart member (.tail _ (.head _))
  have junkQueue := Plan.held_queue apart member (.tail _ (.tail _ (.head _)))
  refine ⟨direct, ?_, ?_, ?_, junk, _, junkQueue, ?_, ?_⟩
  · intro key
    exact (dropped_eq directQueue rfl key).trans dead
  · have found : (ofPlan (Plan.ofClasses classes)).queue? cls.deadLetter.queue = some _ :=
      deadQueue
    rw [found, Option.bind_some, Queue.patience?_eq]
    rfl
  · intro key
    exact (dropped_eq deadQueue rfl key).trans direct
  · rw [Queue.target?_eq]
    rfl
  · rw [Queue.patience?_eq]
    rfl

/-- What becomes of some copies when their queues drop them all. -/
def turn (held : Holdings) (copies : List Copy) : List Copy := copies.flatMap held.dropped

/-- A message goes round as long as it is dropped: it is in one queue at a time, by turns
the direct one and the dead-letter one. -/
theorem turn_of_closes (closes : held.Closes cls) (rounds : Nat) :
    (held.turn)^[2 * rounds] (held.published cls.direct.exchange cls.direct.key) =
        [⟨cls.direct.queue, cls.direct.key⟩] ∧
      (held.turn)^[2 * rounds + 1] (held.published cls.direct.exchange cls.direct.key) =
        [⟨cls.deadLetter.queue, cls.deadLetter.key⟩] := by
  have out : held.turn [⟨cls.direct.queue, cls.direct.key⟩] =
      [⟨cls.deadLetter.queue, cls.deadLetter.key⟩] := by
    rw [turn, List.flatMap_singleton, closes.rejected]
  have back : held.turn [⟨cls.deadLetter.queue, cls.deadLetter.key⟩] =
      [⟨cls.direct.queue, cls.direct.key⟩] := by
    rw [turn, List.flatMap_singleton, closes.expired]
  have even : (held.turn)^[2 * rounds] (held.published cls.direct.exchange cls.direct.key) =
      [⟨cls.direct.queue, cls.direct.key⟩] := by
    induction rounds with
    | zero => exact closes.delivered
    | succ rounds ih =>
        rw [Nat.mul_succ, Function.iterate_succ_apply', Function.iterate_succ_apply', ih, out, back]
  exact ⟨even, by rw [Function.iterate_succ_apply', even, out]⟩

end Holdings

/-! ## Registration -/

/-- **A registration that succeeds closes every retry cycle.** The broker was empty and accepts
nothing against its rule, and no two routes of the classes that are switched on share an
exchange or a queue. Then the cycle of each of these classes is closed, and a message that is
dropped again and again goes round in it. On a broker that accepts whatever its rule allows,
the registration succeeds. -/
theorem retry_cycle_closed {σ : Type} {wire : Wire σ} {held : σ → Holdings}
    (respects : wire.Respects held) {manager : Manager} {world : σ} (nothing : held world = .empty)
    {classes : List MessageClass} (apart : Apart (enabledClasses classes)) :
    (∀ later next, Manager.install wire (Plan.ofClasses (enabledClasses classes)).declarations
        (manager, world) = (.ok (), later, next) →
      ∀ cls ∈ classes, cls.enabled = true →
        (held next).Closes cls ∧
        ∀ rounds : Nat,
          (held next).turn^[2 * rounds]
              ((held next).published cls.direct.exchange cls.direct.key) =
            [⟨cls.direct.queue, cls.direct.key⟩] ∧
          (held next).turn^[2 * rounds + 1]
              ((held next).published cls.direct.exchange cls.direct.key) =
            [⟨cls.deadLetter.queue, cls.deadLetter.key⟩]) ∧
    (wire.Obliges held → manager.link.isSome = true →
      ∃ next, Manager.install wire (Plan.ofClasses (enabledClasses classes)).declarations
        (manager, world) = (.ok (), manager, next)) := by
  constructor
  · intro later next installed cls member enabled
    rw [held_of_installed respects nothing installed]
    have closes := Holdings.closes_ofPlan apart (mem_enabledClasses.mpr ⟨member, enabled⟩)
    exact ⟨closes, Holdings.turn_of_closes closes⟩
  · intro obliges connected
    exact installed_of_obliges respects obliges connected nothing _

/-- A class whose keys are patterns that match one another. -/
def anything : MessageClass where
  enabled := true
  kind := .topic
  direct := ⟨"all", "all", "#"⟩
  deadLetter := ⟨"all-later", "all-later", "*.#.later"⟩
  junk := ⟨"all-junk", "all-junk", "#"⟩
  ttl := 1000
  delay := 0
  limit := 3

/-- A class whose exchanges look at no key, and whose names are those of no other class. -/
def broadcast : MessageClass :=
  { anything with
    kind := .fanout
    direct := ⟨"cast", "cast", ""⟩
    deadLetter := ⟨"cast-later", "cast-later", "#"⟩
    junk := ⟨"cast-junk", "cast-junk", ""⟩ }

/-- Wildcards and shared keys do no harm. -/
theorem retry_cycle_closed_wildcards :
    ∃ next, Manager.install Holdings.wire
        (Plan.ofClasses (enabledClasses [anything, broadcast])).declarations (joined, .empty) =
          (.ok (), joined, next) ∧
      next.Closes anything ∧ next.Closes broadcast := by
  have apart : Apart (enabledClasses [anything, broadcast]) := ⟨by decide, by decide⟩
  obtain ⟨closed, succeeds⟩ := @retry_cycle_closed _ _ _ Holdings.wire_respects joined
    Holdings.empty rfl [anything, broadcast] apart
  obtain ⟨next, registered⟩ := succeeds Holdings.wire_obliges rfl
  exact ⟨next, registered, (closed _ _ registered anything (by decide) rfl).1,
    (closed _ _ registered broadcast (by decide) rfl).1⟩

end Redelivery
