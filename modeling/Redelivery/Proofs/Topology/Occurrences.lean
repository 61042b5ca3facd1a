import Mathlib.Data.List.Induction
import Redelivery.Proofs.Topology.Collection
/-!
# What calls leave in a plan

A plan is filled by calls that pass exchanges, queues, bindings or whole classes, in any mix. It
knows two kinds of repetition: an exchange or a queue is passed again if its name is, a binding if
all of it is. `KeepsFirsts` says of either kind what a list without repetition has to be: the first
item under every key, once, and in the order in which the keys came up.

* `keepsFirsts_collect`: what is collected of a list is that.
* `collect_append_of_passed`: items whose keys came before add nothing.
* `ofCalls_keeps_firsts`: all three lists of a plan, after any calls; to make calls again changes
  nothing.
-/

namespace Redelivery

set_option autoImplicit false

namespace Plan

/-! ## First occurrences -/

section Firsts

variable {τ κ : Type} [DecidableEq κ] {key : τ → κ} {items kept again : List τ}

/-- A list keeps of another the first item under every key. -/
structure KeepsFirsts (key : τ → κ) (items kept : List τ) : Prop where
  /-- No key stands twice. -/
  single : (kept.map key).Nodup
  /-- What stands under a key is the first item passed under it, and nothing if none was. -/
  first : ∀ name, (kept.filter fun item => key item = name) =
    (items.find? fun item => key item = name).toList
  /-- Keys stand in the order in which they came up first. -/
  ordered : (kept.map key).Pairwise fun earlier later =>
    (items.map key).idxOf earlier < (items.map key).idxOf later

theorem collect_append_singleton (items : List τ) (item : τ) :
    collect key (items ++ [item]) = keep key (collect key items) item := by
  unfold collect
  rw [List.foldl_append, List.foldl_cons, List.foldl_nil]

theorem filter_collect (items : List τ) (name : κ) :
    ((collect key items).filter fun item => key item = name) =
      (items.find? fun item => key item = name).toList := by
  rw [← find?_collect]
  cases found : (collect key items).find? (fun item => key item = name) with
  | none =>
      apply List.filter_eq_nil_iff.mpr
      exact List.find?_eq_none.mp found
  | some item =>
      have named : key item = name := by simpa using List.find?_some found
      rw [← named]
      exact filter_of_mem (nodup_collect items) (List.mem_of_find?_eq_some found)

theorem ordered_collect (items : List τ) :
    ((collect key items).map key).Pairwise fun earlier later =>
      (items.map key).idxOf earlier < (items.map key).idxOf later := by
  induction items using List.reverseRecOn with
  | nil => exact .nil
  | append_singleton items item ih =>
      -- one more item does not move the keys that came up before it
      have same : ∀ name ∈ (collect key items).map key,
          ((items ++ [item]).map key).idxOf name = (items.map key).idxOf name := by
        intro name listed
        rw [List.map_append]
        exact List.idxOf_append_of_mem ((mem_keys_collect items name).mp listed)
      have before : ((collect key items).map key).Pairwise fun earlier later =>
          ((items ++ [item]).map key).idxOf earlier < ((items ++ [item]).map key).idxOf later := by
        apply ih.imp_of_mem
        intro earlier later listed listed' less
        rwa [same earlier listed, same later listed']
      rw [collect_append_singleton]
      by_cases taken : key item ∈ (collect key items).map key
      · rwa [keep_of_taken taken]
      · have longer : (keep key (collect key items) item).map key =
            (collect key items).map key ++ [key item] := by
          rw [keep_of_new taken, List.map_append, List.map_singleton]
        rw [longer, List.pairwise_append]
        refine ⟨before, List.pairwise_singleton _ _, ?_⟩
        intro earlier listed later new
        obtain rfl := List.mem_singleton.mp new
        have absent : key item ∉ items.map key := by
          rwa [← mem_keys_collect]
        rw [same earlier listed, List.map_append, List.idxOf_append_of_notMem absent]
        have present := (mem_keys_collect items earlier).mp listed
        have bound := List.idxOf_lt_length_of_mem present
        omega

/-- What is collected is the first item under every key. -/
theorem keepsFirsts_collect (items : List τ) : KeepsFirsts key items (collect key items) where
  single := nodup_collect items
  first := filter_collect items
  ordered := ordered_collect items

theorem foldl_keep_of_taken (taken : ∀ item ∈ again, key item ∈ kept.map key) :
    again.foldl (keep key) kept = kept := by
  induction again with
  | nil => rfl
  | cons item again ih =>
      rw [List.foldl_cons, keep_of_taken (taken item List.mem_cons_self)]
      exact ih fun other member => taken other (List.mem_cons_of_mem item member)

/-- Items whose keys came before add nothing. -/
theorem collect_append_of_passed (passed : again ⊆ items) :
    collect key (items ++ again) = collect key items := by
  rw [collect, List.foldl_append]
  apply foldl_keep_of_taken
  intro item member
  exact (mem_keys_collect items (key item)).mpr (List.mem_map_of_mem (passed member))

end Firsts

/-! ## Calls -/

theorem ofCalls_append_of_made {calls again : List Call} (made : again ⊆ calls) :
    ofCalls (calls ++ again) = ofCalls calls := by
  have within : ∀ {τ : Type} (part : Call → List τ), again.flatMap part ⊆ calls.flatMap part := by
    intro τ part item member
    obtain ⟨call, listed, own⟩ := List.mem_flatMap.mp member
    exact List.mem_flatMap.mpr ⟨call, made listed, own⟩
  simp only [ofCalls_eq, passed, List.flatMap_append, collect_append_of_passed (within _)]

/-- **A plan keeps the first of everything.** After any calls, in any mix, its exchanges and queues
are the first ones passed under every name and its bindings are all bindings passed, each once and
in the order in which they came up. To make any of the calls again, in any order, changes nothing;
so classes that are collected twice are collected once. -/
theorem ofCalls_keeps_firsts (calls : List Call) :
    KeepsFirsts Exchange.name (passed calls).exchanges (ofCalls calls).exchanges ∧
      KeepsFirsts Queue.name (passed calls).queues (ofCalls calls).queues ∧
      KeepsFirsts id (passed calls).bindings (ofCalls calls).bindings ∧
      (∀ again, again ⊆ calls → ofCalls (calls ++ again) = ofCalls calls) ∧
      ∀ classes, ofClasses (classes ++ classes) = ofClasses classes := by
  refine ⟨?_, ?_, ?_, fun again made => ofCalls_append_of_made made, fun classes => ?_⟩
  · rw [ofCalls_eq]
    exact keepsFirsts_collect _
  · rw [ofCalls_eq]
    exact keepsFirsts_collect _
  · rw [ofCalls_eq]
    exact keepsFirsts_collect _
  · rw [← ofCalls_map_all, ← ofCalls_map_all, List.map_append]
    exact ofCalls_append_of_made (List.Subset.refl _)

/-- Calls of every kind: one exchange on two sets of terms, two bindings that differ in their keys
alone and one that comes twice, and a class that has no names. -/
def mixedCalls : List Call :=
  [.one (.exchange (.ofName "ticks")), .one (.binding ⟨"ticks", "ticks", "tick"⟩), .all .blank,
    .one (.exchange ((Exchange.ofName "ticks").delaying .topic)), .one (.queue (.ofName "ticks")),
    .one (.binding ⟨"ticks", "ticks", "tock"⟩), .one (.binding ⟨"ticks", "ticks", "tick"⟩)]

/-- The terms that came first stand, both keys are bound, and to make the calls again backwards
changes nothing. -/
theorem ofCalls_keeps_firsts_mixed :
    mixedCalls.reverse ⊆ mixedCalls ∧
      ofCalls (mixedCalls ++ mixedCalls.reverse) = ofCalls mixedCalls ∧
      ((ofCalls mixedCalls).exchanges.filter fun exchange => exchange.name = "ticks") =
        [.ofName "ticks"] ∧
      (ofCalls mixedCalls).bindings =
        [⟨"ticks", "ticks", "tick"⟩, ⟨"", "", ""⟩, ⟨"ticks", "ticks", "tock"⟩] := by
  obtain ⟨exchanges, -, -, repeated, -⟩ := ofCalls_keeps_firsts mixedCalls
  have made : mixedCalls.reverse ⊆ mixedCalls := by
    intro call member
    exact List.mem_reverse.mp member
  refine ⟨made, repeated _ made, ?_, by decide⟩
  rw [exchanges.first "ticks"]
  decide

end Plan

end Redelivery
