import Redelivery.Proofs.Topology.Holdings
/-!
# What a registration leaves on the broker

A plan names every exchange and every queue once, by its first definition, and a later
definition of a name is not declared at all. So a registration that succeeded leaves all names
on the broker, each on the terms of its first definition, and a class finds its own terms there
exactly if its definitions agree with the first ones. That classes disagree is no failure: where
the broker refuses nothing but breaches of its rule, every registration succeeds.

* `Plan.leads_iff_agrees`: all classes lead under their names exactly if nothing disagrees.
* `Holdings.named_ofPlan`: what the broker holds of one class.
* `Holdings.provides_iff_agrees`: when all classes find their own terms.
* `registration_provides_firsts`: the same for the manager of an application, with the outcome.
* `shared_wait_dropped`: two classes that share a queue and disagree about its time to live.
-/

namespace Redelivery

set_option autoImplicit false

/-! ## Definitions that agree -/

namespace Plan

variable {τ : Type} {name : τ → String} {same : τ → τ → Prop} {items : List τ}

theorem first_of_mem {item : τ} (member : item ∈ items) :
    ∃ first, items.find? (fun other => name other = name item) = some first :=
  Option.isSome_iff_exists.mp (isSome_find?_iff.mpr (List.mem_map_of_mem member))

/-- What stands under a name is the first definition, so it has whatever the first one has. -/
theorem stands_iff_leads {leading standing : Option τ} {fits : τ → Prop}
    (same : ∃ first, leading = some first ∧ standing = some first) :
    (∃ kept, standing = some kept ∧ fits kept) ↔ ∀ first, leading = some first → fits first := by
  obtain ⟨first, rfl, rfl⟩ := same
  simp

theorem stands_iff_agrees (symm : ∀ item other, same item other → same other item)
    (trans : ∀ item other third, same item other → same other third → same item third) :
    (∀ item ∈ items, ∀ first, items.find? (fun other => name other = name item) = some first →
        same first item) ↔
      ∀ item ∈ items, ∀ other ∈ items, name item = name other → same item other := by
  constructor
  · intro stands item listed other listed' named
    obtain ⟨first, found⟩ := @first_of_mem _ name _ _ listed
    have here := stands item listed first found
    rw [named] at found
    exact trans _ _ _ (symm _ _ here) (stands other listed' first found)
  · intro agrees item listed first found
    have named : name first = name item := by simpa using List.find?_some found
    exact agrees first (List.mem_of_find?_eq_some found) item listed named

end Plan

namespace Exchange.SameTerms

variable {exchange other third : Exchange}

theorem symm (same : exchange.SameTerms other) : other.SameTerms exchange :=
  ⟨same.1.symm, same.2.1.symm, same.2.2.symm⟩

theorem trans (same : exchange.SameTerms other) (also : other.SameTerms third) :
    exchange.SameTerms third :=
  ⟨same.1.trans also.1, same.2.1.trans also.2.1, same.2.2.trans also.2.2⟩

end Exchange.SameTerms

namespace Queue.SameTerms

variable {queue other third : Queue}

theorem symm (same : queue.SameTerms other) : other.SameTerms queue :=
  ⟨same.1.symm, same.2.symm⟩

theorem trans (same : queue.SameTerms other) (also : other.SameTerms third) :
    queue.SameTerms third :=
  ⟨same.1.trans also.1, same.2.trans also.2⟩

end Queue.SameTerms

namespace RetryCycle

/-- Whatever has one name is defined on the same terms. -/
structure Agrees (cycle : RetryCycle) : Prop where
  exchanges : ∀ exchange ∈ cycle.exchanges, ∀ other ∈ cycle.exchanges,
    exchange.name = other.name → exchange.SameTerms other
  queues : ∀ queue ∈ cycle.queues, ∀ other ∈ cycle.queues,
    queue.name = other.name → queue.SameTerms other

end RetryCycle

namespace Plan

variable {classes : List MessageClass}

/-- The terms of a class are those of the first definitions under its names. -/
structure Leads (classes : List MessageClass) (cls : MessageClass) : Prop where
  exchanges : ∀ exchange ∈ (RetryCycle.ofClass cls).exchanges, ∀ first,
    (everything classes).exchange? exchange.name = some first → first.SameTerms exchange
  queues : ∀ queue ∈ (RetryCycle.ofClass cls).queues, ∀ first,
    (everything classes).queue? queue.name = some first → first.SameTerms queue

/-- All classes lead exactly if no two definitions of a name disagree. -/
theorem leads_iff_agrees :
    (∀ cls ∈ classes, Leads classes cls) ↔ (everything classes).Agrees := by
  have exchanges := @stands_iff_agrees _ Exchange.name Exchange.SameTerms
    (everything classes).exchanges (fun _ _ => .symm) (fun _ _ _ => .trans)
  have queues := @stands_iff_agrees _ Queue.name Queue.SameTerms
    (everything classes).queues (fun _ _ => .symm) (fun _ _ _ => .trans)
  constructor
  · intro leads
    constructor
    · apply exchanges.mp
      intro exchange listed
      obtain ⟨cls, member, own⟩ := List.mem_flatMap.mp listed
      exact (leads cls member).exchanges exchange own
    · apply queues.mp
      intro queue listed
      obtain ⟨cls, member, own⟩ := List.mem_flatMap.mp listed
      exact (leads cls member).queues queue own
  · intro agrees cls member
    constructor
    · intro exchange own
      exact exchanges.mpr agrees.exchanges exchange (List.mem_flatMap.mpr ⟨cls, member, own⟩)
    · intro queue own
      exact queues.mpr agrees.queues queue (List.mem_flatMap.mpr ⟨cls, member, own⟩)

end Plan

/-! ## What the broker holds of a class -/

namespace Holdings

variable {held : Holdings} {classes : List MessageClass} {cls : MessageClass}

/-- All that a class needs is there, on the terms of the class. -/
structure Provides (held : Holdings) (cls : MessageClass) : Prop where
  exchanges : ∀ exchange ∈ (RetryCycle.ofClass cls).exchanges,
    ∃ kept, held.exchange? exchange.name = some kept ∧ kept.SameTerms exchange
  queues : ∀ queue ∈ (RetryCycle.ofClass cls).queues,
    ∃ kept, held.queue? queue.name = some kept ∧ kept.SameTerms queue

/-- All that a class needs is there by its name, on the terms of the first definition that the
classes have under it. -/
structure Names (held : Holdings) (classes : List MessageClass) (cls : MessageClass) : Prop where
  exchanges : ∀ exchange ∈ (RetryCycle.ofClass cls).exchanges,
    ∃ first, (Plan.everything classes).exchange? exchange.name = some first ∧
      held.exchange? exchange.name = some first
  queues : ∀ queue ∈ (RetryCycle.ofClass cls).queues,
    ∃ first, (Plan.everything classes).queue? queue.name = some first ∧
      held.queue? queue.name = some first
  bindings : ∀ binding ∈ (RetryCycle.ofClass cls).bindings, binding ∈ held.bindings

/-- No name and no binding is there twice. -/
structure Single (held : Holdings) : Prop where
  exchanges : (held.exchanges.map Exchange.name).Nodup
  queues : (held.queues.map Queue.name).Nodup
  bindings : held.bindings.Nodup

theorem single_ofPlan : (ofPlan (Plan.ofClasses classes)).Single := by
  rw [Plan.ofClasses_eq]
  exact ⟨Plan.nodup_collect _, Plan.nodup_collect _, Plan.nodup_collect_id _⟩

theorem named_ofPlan (member : cls ∈ classes) :
    (ofPlan (Plan.ofClasses classes)).Names classes cls where
  exchanges exchange own := by
    obtain ⟨first, found⟩ := @Plan.first_of_mem _ Exchange.name
      (Plan.everything classes).exchanges exchange (List.mem_flatMap.mpr ⟨cls, member, own⟩)
    exact ⟨first, found, (Plan.exchange?_ofPlan _ _).trans found⟩
  queues queue own := by
    obtain ⟨first, found⟩ := @Plan.first_of_mem _ Queue.name
      (Plan.everything classes).queues queue (List.mem_flatMap.mpr ⟨cls, member, own⟩)
    exact ⟨first, found, (Plan.queue?_ofPlan _ _).trans found⟩
  bindings binding own := Plan.mem_bindings_ofPlan member own

/-- A class finds its own terms exactly if they are those of the first definitions. -/
theorem provides_iff_leads (names : held.Names classes cls) :
    held.Provides cls ↔ Plan.Leads classes cls := by
  constructor
  · intro provides
    constructor
    · intro exchange own
      exact (Plan.stands_iff_leads (names.exchanges exchange own)).mp
        (provides.exchanges exchange own)
    · intro queue own
      exact (Plan.stands_iff_leads (names.queues queue own)).mp (provides.queues queue own)
  · intro leads
    constructor
    · intro exchange own
      exact (Plan.stands_iff_leads (names.exchanges exchange own)).mpr
        (leads.exchanges exchange own)
    · intro queue own
      exact (Plan.stands_iff_leads (names.queues queue own)).mpr (leads.queues queue own)

theorem provides_iff_agrees (names : ∀ cls ∈ classes, held.Names classes cls) :
    (∀ cls ∈ classes, held.Provides cls) ↔ (Plan.everything classes).Agrees := by
  rw [← Plan.leads_iff_agrees]
  exact forall₂_congr fun cls member => provides_iff_leads (names cls member)

end Holdings

/-! ## Registration -/

/-- **A registration that succeeded leaves the first definitions.** The broker was empty and
accepts nothing against its rule. If the registration of the classes that are switched on
succeeds, then everything that one of them needs is there, under its name, once, and on the
terms of the first definition of that name; so a class finds its own terms exactly if they are
those of the first definitions, and all classes do exactly if no two definitions of a name
disagree. On a broker that accepts whatever its rule allows, the registration succeeds, whether
or not definitions disagree. -/
theorem registration_provides_firsts {σ : Type} {wire : Wire σ} {held : σ → Holdings}
    (respects : wire.Respects held) {manager : Manager} {world : σ} (nothing : held world = .empty)
    (classes : List MessageClass) :
    (∀ later next, Manager.install wire (Plan.ofClasses (enabledClasses classes)).declarations
        (manager, world) = (.ok (), later, next) →
      (held next).Single ∧
      (∀ cls ∈ classes, cls.enabled = true →
        (held next).Names (enabledClasses classes) cls ∧
        ((held next).Provides cls ↔ Plan.Leads (enabledClasses classes) cls)) ∧
      ((∀ cls ∈ classes, cls.enabled = true → (held next).Provides cls) ↔
        (Plan.everything (enabledClasses classes)).Agrees)) ∧
    (wire.Obliges held → manager.link.isSome = true →
      ∃ next, Manager.install wire (Plan.ofClasses (enabledClasses classes)).declarations
        (manager, world) = (.ok (), manager, next)) := by
  constructor
  · intro later next installed
    rw [held_of_installed respects nothing installed]
    have names : ∀ cls ∈ enabledClasses classes,
        (Holdings.ofPlan (Plan.ofClasses (enabledClasses classes))).Names
          (enabledClasses classes) cls := by
      intro cls member
      exact Holdings.named_ofPlan member
    refine ⟨Holdings.single_ofPlan, ?_, ?_⟩
    · intro cls member enabled
      have named := names cls (mem_enabledClasses.mpr ⟨member, enabled⟩)
      exact ⟨named, Holdings.provides_iff_leads named⟩
    · rw [← Holdings.provides_iff_agrees names]
      apply forall_congr'
      intro cls
      rw [mem_enabledClasses, and_imp]
  · intro obliges connected
    exact installed_of_obliges respects obliges connected nothing _

def ticks : MessageClass where
  enabled := true
  kind := .direct
  direct := ⟨"ticks", "ticks", "tick"⟩
  deadLetter := ⟨"ticks-later", "later", "tick"⟩
  junk := ⟨"junk", "junk", "junk"⟩
  ttl := 1000
  delay := 0
  limit := 3

/-- A class with a retry cycle of its own that shares only the junk. -/
def tocks : MessageClass :=
  { ticks with
    direct := ⟨"tocks", "tocks", "tock"⟩
    deadLetter := ⟨"tocks-later", "tocks-later", "tock"⟩ }

/-- Classes that agree about what they share are both provided. -/
theorem registration_provides_firsts_sharedJunk :
    ∃ next, Manager.install Holdings.wire
        (Plan.ofClasses (enabledClasses [ticks, tocks])).declarations (joined, .empty) =
          (.ok (), joined, next) ∧
      next.Provides ticks ∧ next.Provides tocks := by
  obtain ⟨left, succeeds⟩ := @registration_provides_firsts _ _ _ Holdings.wire_respects joined
    Holdings.empty rfl [ticks, tocks]
  obtain ⟨next, registered⟩ := succeeds Holdings.wire_obliges rfl
  have agrees : (Plan.everything (enabledClasses [ticks, tocks])).Agrees :=
    ⟨by decide, by decide⟩
  have provides := (left _ _ registered).2.2.mpr agrees
  exact ⟨next, registered, provides ticks (by decide) rfl, provides tocks (by decide) rfl⟩

/-- A class that waits in the same queue, but longer and for another return. -/
def slowTocks : MessageClass :=
  { tocks with deadLetter := ⟨"tocks-later", "later", "tock"⟩, ttl := 60000 }

/-- A definition that disagrees is dropped without a word: both classes are registered, and
the queue in which both wait is that of the first, with its time to live and its return. -/
theorem shared_wait_dropped :
    ∃ next, Manager.install Holdings.wire
        (Plan.ofClasses (enabledClasses [ticks, slowTocks])).declarations (joined, .empty) =
          (.ok (), joined, next) ∧
      slowTocks.enabled = true ∧ next.queue? "later" =
        some ⟨"later", true, some 1000, some ("ticks", "tick")⟩ ∧
      ¬ next.Provides slowTocks := by
  obtain ⟨next, registered⟩ := @installed_of_obliges _ _ _ joined Holdings.empty
    Holdings.wire_respects Holdings.wire_obliges rfl rfl (enabledClasses [ticks, slowTocks])
  have holds : next = .ofPlan (Plan.ofClasses (enabledClasses [ticks, slowTocks])) :=
    held_of_installed Holdings.wire_respects rfl registered
  have waits : next.queue? "later" =
      some ⟨"later", true, some 1000, some ("ticks", "tick")⟩ := by
    rw [holds]
    decide
  refine ⟨next, registered, rfl, waits, ?_⟩
  intro provides
  obtain ⟨kept, present, same⟩ := provides.queues
    ⟨"later", true, some 60000, some ("tocks", "tock")⟩ (by decide)
  cases waits.symm.trans present
  revert same
  decide

end Redelivery
