import Redelivery.Proofs.Settings.ClassTable
import Redelivery.Proofs.Topology.Resumption
import Redelivery.Proofs.Topology.Routing
/-!
# Plans under a prefix

A prefix in front of every name of a class is a renaming: it goes through to the exchanges,
queues and bindings that the class needs, to the targets of its queues, and to the plan that is
collected of any classes. Nothing is collected as one that was apart before, and nothing is taken
apart, since a prefix changes no equation between names.

* `Plan.collect_map`: to rename and to collect are done in either order.
* `Plan.ofClasses_withPrefix`: the plan of prefixed classes.
* `Exchange.sameTerms_withPrefix`, `Queue.target?_withPrefix`, `Queue.patience?_withPrefix`: what the
  broker is told of a renamed definition.
* `prefixed_plan_renamed`: all of it, for the settings of an application.
-/

namespace Redelivery

set_option autoImplicit false

variable (lead : String)

/-! ## Renamed definitions -/

def Exchange.withPrefix (exchange : Exchange) : Exchange :=
  { exchange with name := lead ++ exchange.name }

/-- The queue under a longer name, with the target to which it drops its messages. -/
def Queue.withPrefix (queue : Queue) : Queue :=
  { queue with
    name := lead ++ queue.name
    deadLetter := queue.deadLetter.map fun target => (lead ++ target.1, lead ++ target.2) }

def Binding.withPrefix (binding : Binding) : Binding :=
  ⟨lead ++ binding.queue, lead ++ binding.exchange, lead ++ binding.key⟩

def Declaration.withPrefix : Declaration → Declaration
  | .exchange definition => .exchange (definition.withPrefix lead)
  | .queue definition => .queue (definition.withPrefix lead)
  | .binding definition => .binding (definition.withPrefix lead)

/-- The plan with everything in it renamed, each in its place. -/
def Plan.withPrefix (plan : Plan) : Plan where
  exchanges := plan.exchanges.map (Exchange.withPrefix lead)
  queues := plan.queues.map (Queue.withPrefix lead)
  bindings := plan.bindings.map (Binding.withPrefix lead)

theorem Exchange.sameTerms_withPrefix (exchange : Exchange) :
    exchange.SameTerms (exchange.withPrefix lead) := ⟨rfl, rfl, rfl⟩

/-- A renamed queue sends what it drops to the renamed target, as the broker reads it. -/
theorem Queue.target?_withPrefix (queue : Queue) :
    (queue.withPrefix lead).target? =
      queue.target?.map fun target => (lead ++ target.1, target.2.map (lead ++ ·)) := by
  rw [Queue.target?_eq, Queue.target?_eq, withPrefix, Option.map_map, Option.map_map]
  rfl

theorem Queue.patience?_withPrefix (queue : Queue) :
    (queue.withPrefix lead).patience? = queue.patience? := by
  rw [Queue.patience?_eq, Queue.patience?_eq, withPrefix]

theorem Binding.withPrefix_inj {binding other : Binding} :
    binding.withPrefix lead = other.withPrefix lead ↔ binding = other := by
  obtain ⟨queue, exchange, key⟩ := binding
  obtain ⟨queue', exchange', key'⟩ := other
  simp only [withPrefix, Binding.mk.injEq, String.append_right_inj]

/-! ## Renamed plans -/

namespace Plan

section Collecting

variable {τ υ κ μ : Type} [DecidableEq κ] [DecidableEq μ] {key : τ → κ} {key' : υ → μ} {rename : τ → υ}

/-- To rename and to collect are done in either order, if the keys of what is renamed are the
same exactly where they were. -/
theorem collect_map (faithful : ∀ item other, key' (rename item) = key' (rename other) ↔
      key item = key other) (items : List τ) :
    collect key' (items.map rename) = (collect key items).map rename := by
  have renamed : ∀ kept : List τ, (items.map rename).foldl (keep key') (kept.map rename) =
      (items.foldl (keep key) kept).map rename := by
    induction items with
    | nil => exact fun kept => rfl
    | cons item items ih =>
        intro kept
        have one : keep key' (kept.map rename) (rename item) = (keep key kept item).map rename := by
          unfold keep
          simp only [List.any_map, Function.comp_def, faithful]
          split
          · rfl
          · rw [List.map_append, List.map_singleton]
        rw [List.map_cons, List.foldl_cons, one, ih, List.foldl_cons]
  exact renamed []

/-- Two items are collected as one: the same item stands for both. -/
def Merged (key : τ → κ) (kept : List τ) (item other : τ) : Prop :=
  (kept.find? fun found => key found = key item) = kept.find? fun found => key found = key other

/-- What was collected as one had one key. -/
theorem merged_collect_iff {items : List τ} {item other : τ} (member : item ∈ items) :
    Merged key (collect key items) item other ↔ key item = key other := by
  constructor
  · intro merged
    have listed := (mem_keys_collect items (key item)).mpr (List.mem_map_of_mem member)
    obtain ⟨first, found⟩ := Option.isSome_iff_exists.mp (isSome_find?_iff.mpr listed)
    have named : key first = key item := by simpa using List.find?_some found
    rw [Merged, found] at merged
    have named' : key first = key other := by simpa using List.find?_some merged.symm
    exact named.symm.trans named'
  · intro same
    rw [Merged, same]

end Collecting

theorem everything_withPrefix (classes : List MessageClass) :
    everything (classes.map (MessageClass.withPrefix lead)) =
      ⟨(everything classes).exchanges.map (Exchange.withPrefix lead),
        (everything classes).queues.map (Queue.withPrefix lead),
        (everything classes).bindings.map (Binding.withPrefix lead)⟩ := by
  simp only [everything, List.flatMap_map, List.map_flatMap]
  rfl

/-- The plan of classes under a prefix is their plan, renamed. -/
theorem ofClasses_withPrefix (classes : List MessageClass) :
    ofClasses (classes.map (MessageClass.withPrefix lead)) = (ofClasses classes).withPrefix lead := by
  have exchanges : ∀ item other : Exchange, (item.withPrefix lead).name = (other.withPrefix lead).name ↔
      item.name = other.name := fun _ _ => String.append_right_inj lead
  have queues : ∀ item other : Queue, (item.withPrefix lead).name = (other.withPrefix lead).name ↔
      item.name = other.name := fun _ _ => String.append_right_inj lead
  have bindings : ∀ item other : Binding, id (item.withPrefix lead) = id (other.withPrefix lead) ↔
      id item = id other := fun _ _ => Binding.withPrefix_inj lead
  rw [ofClasses_eq, ofClasses_eq, everything_withPrefix, withPrefix, collect_map exchanges,
    collect_map queues, collect_map bindings]

theorem declarations_withPrefix (plan : Plan) :
    (plan.withPrefix lead).declarations = plan.declarations.map (Declaration.withPrefix lead) := by
  simp only [declarations, withPrefix, List.map_append, List.map_map]
  rfl

end Plan

theorem enabledClasses_withPrefix (classes : List MessageClass) :
    enabledClasses (classes.map (MessageClass.withPrefix lead)) =
      (enabledClasses classes).map (MessageClass.withPrefix lead) := by
  rw [enabledClasses, List.filter_map]
  rfl

theorem MessageClass.withPrefix_withPrefix (inner : String) (cls : MessageClass) :
    (cls.withPrefix inner).withPrefix lead = cls.withPrefix (lead ++ inner) := by
  simp only [withPrefix, Route.withPrefix, String.append_assoc]

/-! ## Settings -/

/-- The plan of classes under a prefix is their plan, renamed, and so is what a registration asks
for. Two definitions, or two bindings, are collected as one exactly if they were without it. -/
structure Plan.RenamedBy (lead : String) (classes : List MessageClass) : Prop where
  plan : ofClasses (classes.map (MessageClass.withPrefix lead)) = (ofClasses classes).withPrefix lead
  asked : registration (classes.map (MessageClass.withPrefix lead)) =
    (registration classes).map (Declaration.withPrefix lead)
  exchanges : ∀ item ∈ (everything classes).exchanges, ∀ other : Exchange,
    Merged Exchange.name (ofClasses (classes.map (MessageClass.withPrefix lead))).exchanges
        (item.withPrefix lead) (other.withPrefix lead) ↔
      Merged Exchange.name (ofClasses classes).exchanges item other
  queues : ∀ item ∈ (everything classes).queues, ∀ other : Queue,
    Merged Queue.name (ofClasses (classes.map (MessageClass.withPrefix lead))).queues
        (item.withPrefix lead) (other.withPrefix lead) ↔
      Merged Queue.name (ofClasses classes).queues item other
  bindings : ∀ item ∈ (everything classes).bindings, ∀ other : Binding,
    Merged id (ofClasses (classes.map (MessageClass.withPrefix lead))).bindings
        (item.withPrefix lead) (other.withPrefix lead) ↔
      Merged id (ofClasses classes).bindings item other

theorem Plan.renamedBy (classes : List MessageClass) : RenamedBy lead classes where
  plan := ofClasses_withPrefix lead classes
  asked := by
    rw [registration, registration, enabledClasses_withPrefix, ofClasses_withPrefix,
      declarations_withPrefix]
  exchanges item member other := by
    rw [ofClasses_eq, ofClasses_eq, everything_withPrefix, merged_collect_iff member,
      merged_collect_iff (List.mem_map_of_mem member)]
    exact String.append_right_inj lead
  queues item member other := by
    rw [ofClasses_eq, ofClasses_eq, everything_withPrefix, merged_collect_iff member,
      merged_collect_iff (List.mem_map_of_mem member)]
    exact String.append_right_inj lead
  bindings item member other := by
    rw [ofClasses_eq, ofClasses_eq, everything_withPrefix, merged_collect_iff member,
      merged_collect_iff (List.mem_map_of_mem member)]
    exact Binding.withPrefix_inj lead

/-- The broker is told the same of a renamed queue, up to the names of its target. -/
structure Queue.SameUpTo (lead : String) (queue renamed : Queue) : Prop where
  durable : renamed.durable = queue.durable
  target : renamed.target? =
    queue.target?.map fun target => (lead ++ target.1, target.2.map (lead ++ ·))
  patience : renamed.patience? = queue.patience?

/-- **The prefix of an application renames its topology**, whichever of its classes are taken, and
does nothing else: exchanges are declared on the same terms, queues last and wait as they did and
drop their messages to renamed targets. The classes that are looked up are prefixed in this way.
Prefixes add up. All classes of the application are what is found under their names, in the order
of the names; and settings that come from a document and an environment have their names in order,
each once. -/
theorem prefixed_plan_renamed (settings : Settings) (sorted : settings.messageClasses.Sorted) :
    (∀ chosen, Plan.RenamedBy settings.namePrefix chosen) ∧
    (∀ exchange : Exchange, exchange.SameTerms (exchange.withPrefix settings.namePrefix)) ∧
    (∀ queue : Queue, queue.SameUpTo settings.namePrefix (queue.withPrefix settings.namePrefix)) ∧
    (∀ (names : List String) (chosen : List MessageClass),
      names.map (fun name => SortedTable.find? name settings.messageClasses) = chosen.map some →
      names.map settings.class? =
        (chosen.map (MessageClass.withPrefix settings.namePrefix)).map .ok) ∧
    (∀ (outer inner : String) (cls : MessageClass),
      (cls.withPrefix inner).withPrefix outer = cls.withPrefix (outer ++ inner)) ∧
    settings.classes.map .ok = settings.messageClasses.names.map settings.class? ∧
    ∀ document assignments loaded, Settings.build document assignments = .ok loaded →
      loaded.messageClasses.Sorted := by
  refine ⟨Plan.renamedBy _, Exchange.sameTerms_withPrefix _, ?_, fun _ _ => Settings.map_class?_eq,
    MessageClass.withPrefix_withPrefix, Settings.classes_eq sorted,
    fun _ _ _ => Settings.sorted_of_build⟩
  intro queue
  exact ⟨rfl, queue.target?_withPrefix _, queue.patience?_withPrefix _⟩

/-- An application with two classes that share their junk. -/
def clockwork : Settings where
  application := "clockwork"
  broker := ⟨"localhost", 5672, "guest", "guest", "/", 30, some "tower"⟩
  consumer := .unset
  messageClasses := [("tick", ticks), ("tock", tocks)]

/-- Under the prefix of the application the shared junk is still declared once, and messages still
wait on the way back to the direct exchange of their class. -/
theorem prefixed_plan_renamed_clockwork :
    clockwork.messageClasses.Sorted ∧
      ["tock", "tick"].map clockwork.class? =
        [.ok (tocks.withPrefix "tower-clockwork-"), .ok (ticks.withPrefix "tower-clockwork-")] ∧
      ((Plan.ofClasses ([tocks, ticks].map (MessageClass.withPrefix "tower-clockwork-"))).queues.map
          fun queue => (queue.name, queue.deadLetter)) =
        [("tower-clockwork-tocks", some ("tower-clockwork-tocks-later", "tower-clockwork-tock")),
          ("tower-clockwork-tocks-later", some ("tower-clockwork-tocks", "tower-clockwork-tock")),
          ("tower-clockwork-junk", none),
          ("tower-clockwork-ticks", some ("tower-clockwork-ticks-later", "tower-clockwork-tick")),
          ("tower-clockwork-later", some ("tower-clockwork-ticks", "tower-clockwork-tick"))] := by
  have sorted : clockwork.messageClasses.Sorted := by decide
  obtain ⟨renamed, -, -, found, -⟩ := prefixed_plan_renamed clockwork sorted
  refine ⟨sorted, found ["tock", "tick"] [tocks, ticks] rfl, ?_⟩
  have plan := (renamed [tocks, ticks]).plan
  change Plan.ofClasses ([tocks, ticks].map (MessageClass.withPrefix "tower-clockwork-")) = _ at plan
  rw [plan]
  decide

end Redelivery
