import Mathlib.Data.List.Nodup
import Redelivery.Topology.Plan
/-!
# What a plan collects

A plan of message classes keeps, of everything that the classes need one after the other,
the first exchange and the first queue of every name, and every binding once. So does a plan
that is filled by calls of any kind, in any order: `Plan.ofCalls_eq` says so in one equation, and
`Plan.ofClasses_eq` is that equation for classes. What is kept of a list is known by a few laws.

* `find?_collect`: under every key stands the first item that has it.
* `nodup_collect`: no key stands twice.
* `collect_of_nodup`: a list whose keys differ is kept whole.
* `filter_of_mem`, `find?_of_mem`: an item of such a list stands alone under its key.
-/

namespace Redelivery

set_option autoImplicit false

namespace Plan

section Collecting

variable {τ κ : Type} [DecidableEq κ] (key : τ → κ)

/-- Keeps an item unless its key is taken. -/
def keep (kept : List τ) (item : τ) : List τ :=
  if kept.any (fun other => key other = key item) then kept else kept ++ [item]

/-- The items of a list, without those whose key came before. -/
def collect (items : List τ) : List τ := items.foldl (keep key) []

variable {key}

theorem keep_of_taken {kept : List τ} {item : τ} (taken : key item ∈ kept.map key) :
    keep key kept item = kept := by
  obtain ⟨other, member, same⟩ := List.mem_map.mp taken
  rw [keep, if_pos]
  exact List.any_eq_true.mpr ⟨other, member, decide_eq_true same⟩

theorem keep_of_new {kept : List τ} {item : τ} (new : key item ∉ kept.map key) :
    keep key kept item = kept ++ [item] := by
  unfold keep
  rw [if_neg]
  intro taken
  obtain ⟨other, member, same⟩ := List.any_eq_true.mp taken
  exact new (List.mem_map.mpr ⟨other, member, of_decide_eq_true same⟩)

theorem isSome_find?_iff {items : List τ} {name : κ} :
    (items.find? fun other => key other = name).isSome = true ↔ name ∈ items.map key := by
  simp [List.find?_isSome]

omit [DecidableEq κ] in
/-- In a list whose keys differ, the key of an item is new behind those before it. -/
theorem new_of_nodup {kept items : List τ} {item : τ}
    (nodup : ((kept ++ item :: items).map key).Nodup) : key item ∉ kept.map key := by
  rw [List.map_append, List.map_cons] at nodup
  intro taken
  exact (List.nodup_append'.mp nodup).2.2 taken List.mem_cons_self

theorem find?_of_new {kept : List τ} {item : τ} (new : key item ∉ kept.map key) :
    kept.find? (fun other => key other = key item) = none := by
  apply List.find?_eq_none.mpr
  intro other member same
  exact new (List.mem_map.mpr ⟨other, member, of_decide_eq_true same⟩)

/-- Whether an item is kept or not, the first item of every key is the same. -/
theorem find?_keep (kept : List τ) (item : τ) (name : κ) :
    (keep key kept item).find? (fun other => key other = name) =
      (kept ++ [item]).find? (fun other => key other = name) := by
  by_cases taken : key item ∈ kept.map key
  · -- an item that is not kept would have been found behind another with its key
    rw [keep_of_taken taken, List.find?_append]
    cases found : kept.find? (fun other => key other = name) with
    | some first => rfl
    | none =>
        have different : ¬ key item = name := by
          rintro rfl
          obtain ⟨other, member, same⟩ := List.mem_map.mp taken
          exact List.find?_eq_none.mp found other member (decide_eq_true same)
        simp [different]
  · rw [keep_of_new taken]

theorem nodup_keep {kept : List τ} (nodup : (kept.map key).Nodup) (item : τ) :
    ((keep key kept item).map key).Nodup := by
  by_cases taken : key item ∈ kept.map key
  · rwa [keep_of_taken taken]
  · rw [keep_of_new taken, List.map_append]
    exact List.nodup_append'.mpr
      ⟨nodup, List.nodup_singleton _, List.disjoint_singleton.mpr taken⟩

theorem find?_foldl_keep (items kept : List τ) (name : κ) :
    (items.foldl (keep key) kept).find? (fun other => key other = name) =
      (kept ++ items).find? (fun other => key other = name) := by
  induction items generalizing kept with
  | nil => rw [List.append_nil]; rfl
  | cons item items ih =>
      rw [List.foldl_cons, ih, List.find?_append, find?_keep, ← List.find?_append,
        List.append_assoc, List.singleton_append]

/-- Under every key stands the first item that has it. -/
theorem find?_collect (items : List τ) (name : κ) :
    (collect key items).find? (fun other => key other = name) =
      items.find? (fun other => key other = name) :=
  find?_foldl_keep items [] name

/-- No key stands twice. -/
theorem nodup_collect (items : List τ) : ((collect key items).map key).Nodup := by
  have kept : ∀ start : List τ, (start.map key).Nodup →
      ((items.foldl (keep key) start).map key).Nodup := by
    induction items with
    | nil =>
        intro start nodup
        exact nodup
    | cons item items ih =>
        intro start nodup
        exact ih _ (nodup_keep nodup item)
  exact kept [] List.nodup_nil

theorem foldl_keep_of_nodup {items kept : List τ} (nodup : ((kept ++ items).map key).Nodup) :
    items.foldl (keep key) kept = kept ++ items := by
  induction items generalizing kept with
  | nil => rw [List.append_nil]; rfl
  | cons item items ih =>
      have new := new_of_nodup nodup
      rw [List.append_cons] at nodup ⊢
      rw [List.foldl_cons, keep_of_new new, ih nodup]

theorem collect_of_nodup {items : List τ} (nodup : (items.map key).Nodup) :
    collect key items = items :=
  foldl_keep_of_nodup nodup

theorem mem_keys_collect (items : List τ) (name : κ) :
    name ∈ (collect key items).map key ↔ name ∈ items.map key := by
  rw [← isSome_find?_iff, ← isSome_find?_iff, find?_collect]

theorem filter_of_mem {items : List τ} (nodup : (items.map key).Nodup) {item : τ}
    (member : item ∈ items) : items.filter (fun other => key other = key item) = [item] := by
  induction items with
  | nil => cases member
  | cons first rest ih =>
      obtain ⟨new, others⟩ := List.nodup_cons.mp nodup
      rcases List.mem_cons.mp member with rfl | later
      · have none : rest.filter (fun other => key other = key item) = [] := by
          apply List.filter_eq_nil_iff.mpr
          intro other member same
          exact new (List.mem_map.mpr ⟨other, member, of_decide_eq_true same⟩)
        rw [List.filter_cons, if_pos (decide_eq_true rfl), none]
      · have different : ¬ key first = key item := by
          intro same
          exact new (same ▸ List.mem_map_of_mem later)
        rw [List.filter_cons, if_neg (by simpa using different), ih others later]

theorem find?_of_mem {items : List τ} (nodup : (items.map key).Nodup) {item : τ}
    (member : item ∈ items) :
    items.find? (fun other => key other = key item) = some item := by
  rw [← List.head?_filter, filter_of_mem nodup member]
  rfl

/-- Of a list that is its own keys everything is kept, once. -/
theorem mem_collect_id [DecidableEq τ] {items : List τ} {item : τ} :
    item ∈ collect id items ↔ item ∈ items := by
  have same := @mem_keys_collect τ τ _ id items item
  rwa [List.map_id, List.map_id] at same

theorem nodup_collect_id [DecidableEq τ] (items : List τ) : (collect id items).Nodup := by
  have nodup := @nodup_collect τ τ _ id items
  rwa [List.map_id] at nodup

end Collecting

/-! ## Plans of calls -/

/-- A call that fills a plan: it passes one declaration, or all that a class needs. -/
inductive Call where
  | one (declaration : Declaration)
  | all (cls : MessageClass)
  deriving DecidableEq

namespace Call

def perform (plan : Plan) : Call → Plan
  | one declaration => plan.add declaration
  | all cls => plan.addClass cls

def passes : Call → RetryCycle
  | one (.exchange exchange) => ⟨[exchange], [], []⟩
  | one (.queue queue) => ⟨[], [queue], []⟩
  | one (.binding binding) => ⟨[], [], [binding]⟩
  | all cls => RetryCycle.ofClass cls

end Call

/-- The plan of a list of calls. -/
def ofCalls (calls : List Call) : Plan := calls.foldl Call.perform empty

def passed (calls : List Call) : RetryCycle where
  exchanges := calls.flatMap fun call => call.passes.exchanges
  queues := calls.flatMap fun call => call.passes.queues
  bindings := calls.flatMap fun call => call.passes.bindings

theorem addExchange_eq (plan : Plan) (exchange : Exchange) :
    plan.addExchange exchange =
      { plan with exchanges := keep Exchange.name plan.exchanges exchange } := by
  unfold addExchange keep
  split <;> rfl

theorem addQueue_eq (plan : Plan) (queue : Queue) :
    plan.addQueue queue = { plan with queues := keep Queue.name plan.queues queue } := by
  unfold addQueue keep
  split <;> rfl

theorem addBinding_eq (plan : Plan) (binding : Binding) :
    plan.addBinding binding = { plan with bindings := keep id plan.bindings binding } := by
  by_cases member : binding ∈ plan.bindings
  · rw [addBinding, if_pos (List.contains_iff_mem.mpr member),
      keep_of_taken (by rwa [List.map_id])]
  · rw [addBinding, if_neg (by rwa [List.contains_iff_mem]),
      keep_of_new (by rwa [List.map_id])]

theorem foldl_addExchange (exchanges : List Exchange) (plan : Plan) :
    exchanges.foldl addExchange plan =
      { plan with exchanges := exchanges.foldl (keep Exchange.name) plan.exchanges } := by
  induction exchanges generalizing plan with
  | nil => rfl
  | cons exchange exchanges ih => rw [List.foldl_cons, ih, addExchange_eq, List.foldl_cons]

theorem foldl_addQueue (queues : List Queue) (plan : Plan) :
    queues.foldl addQueue plan =
      { plan with queues := queues.foldl (keep Queue.name) plan.queues } := by
  induction queues generalizing plan with
  | nil => rfl
  | cons queue queues ih => rw [List.foldl_cons, ih, addQueue_eq, List.foldl_cons]

theorem foldl_addBinding (bindings : List Binding) (plan : Plan) :
    bindings.foldl addBinding plan =
      { plan with bindings := bindings.foldl (keep id) plan.bindings } := by
  induction bindings generalizing plan with
  | nil => rfl
  | cons binding bindings ih => rw [List.foldl_cons, ih, addBinding_eq, List.foldl_cons]

theorem perform_eq (plan : Plan) (call : Call) :
    call.perform plan =
      ⟨call.passes.exchanges.foldl (keep Exchange.name) plan.exchanges,
        call.passes.queues.foldl (keep Queue.name) plan.queues,
        call.passes.bindings.foldl (keep id) plan.bindings⟩ := by
  cases call with
  | one declaration =>
      cases declaration with
      | exchange exchange => exact addExchange_eq plan exchange
      | queue queue => exact addQueue_eq plan queue
      | binding binding => exact addBinding_eq plan binding
  | all cls =>
      show plan.addClass cls = _
      rw [addClass, foldl_addExchange, foldl_addQueue, foldl_addBinding]
      rfl

/-- A plan of calls is what is collected of everything that they pass. -/
theorem ofCalls_eq (calls : List Call) :
    ofCalls calls =
      ⟨collect Exchange.name (passed calls).exchanges, collect Queue.name (passed calls).queues,
        collect id (passed calls).bindings⟩ := by
  have added : ∀ plan : Plan, calls.foldl Call.perform plan =
      ⟨(passed calls).exchanges.foldl (keep Exchange.name) plan.exchanges,
        (passed calls).queues.foldl (keep Queue.name) plan.queues,
        (passed calls).bindings.foldl (keep id) plan.bindings⟩ := by
    induction calls with
    | nil => exact fun plan => rfl
    | cons call calls ih =>
        intro plan
        simp only [List.foldl_cons, ih, perform_eq, passed, List.flatMap_cons, List.foldl_append]
  exact added empty

/-! ## Plans of classes -/

def routes (classes : List MessageClass) : List Route :=
  classes.flatMap fun cls => [cls.direct, cls.deadLetter, cls.junk]

/-- Everything that classes need, one class after the other. -/
def everything (classes : List MessageClass) : RetryCycle where
  exchanges := classes.flatMap fun cls => (RetryCycle.ofClass cls).exchanges
  queues := classes.flatMap fun cls => (RetryCycle.ofClass cls).queues
  bindings := classes.flatMap fun cls => (RetryCycle.ofClass cls).bindings

/-- Every route has an exchange, in the order of the routes. -/
theorem names_exchanges (classes : List MessageClass) :
    (everything classes).exchanges.map Exchange.name = (routes classes).map Route.exchange := by
  rw [everything, routes, List.map_flatMap, List.map_flatMap]
  rfl

theorem names_queues (classes : List MessageClass) :
    (everything classes).queues.map Queue.name = (routes classes).map Route.queue := by
  rw [everything, routes, List.map_flatMap, List.map_flatMap]
  rfl

theorem bindings_everything (classes : List MessageClass) :
    (everything classes).bindings = (routes classes).map RetryCycle.bindingOf := by
  rw [everything, routes, List.map_flatMap]
  rfl

theorem ofCalls_map_all (classes : List MessageClass) :
    ofCalls (classes.map .all) = ofClasses classes := by
  rw [ofCalls, List.foldl_map]
  rfl

theorem passed_map_all (classes : List MessageClass) :
    passed (classes.map .all) = everything classes := by
  simp only [passed, everything, List.flatMap_map, Call.passes]

/-- A plan of classes is what is collected of everything that they need. -/
theorem ofClasses_eq (classes : List MessageClass) :
    ofClasses classes =
      ⟨collect Exchange.name (everything classes).exchanges,
        collect Queue.name (everything classes).queues,
        collect id (everything classes).bindings⟩ := by
  rw [← ofCalls_map_all, ofCalls_eq, passed_map_all]

end Plan

end Redelivery
