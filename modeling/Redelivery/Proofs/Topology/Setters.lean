import Redelivery.Proofs.Headers.Fields
import Redelivery.Proofs.Topology.Routing
/-!
# Definitions after any calls of their setters

A definition starts from its name, and its setters are called in any order, any number of times.
Afterwards every field holds what the last call that speaks of it said: `Exchange.ofSetters_eq` and
`Queue.ofSetters_eq` say so of the whole definition, each by induction from what one call does
(`Exchange.set_eq`, `Queue.set_eq`). What is declared can be read off these two.

* The arguments of a queue are made of two fields, and each of the two belongs to one setter. So
  they are what these two were last given, and the order between calls of different setters does
  not matter (`Queue.ofSetters_congr`).
* The kind of an exchange belongs to two setters, and only one of them also sets the kind behind
  the delay. So an exchange that delays can name one kind and be declared with another: exactly if
  the last call that names a kind names another one than the last call that delays
  (`Exchange.ofSetters_coherent_iff`). The refuted order is `Exchange.kind_after_delayed`.
-/

namespace Redelivery

set_option autoImplicit false

/-! ## The last call that speaks -/

section LastCall

variable {τ α : Type} {reads : τ → Option α}

/-- What is read of the last call of which anything is read. -/
def last? (reads : τ → Option α) (calls : List τ) : Option α := calls.reverse.findSome? reads

theorem last?_concat (calls : List τ) (call : τ) :
    last? reads (calls ++ [call]) = (reads call).or (last? reads calls) := by
  rw [last?, List.reverse_concat, List.findSome?_cons]
  cases reads call <;> rfl

theorem last?_eq_none_iff {calls : List τ} :
    last? reads calls = none ↔ ∀ call ∈ calls, reads call = none := by
  simp [last?, List.findSome?_eq_none_iff]

theorem exists_last?_iff {calls : List τ} :
    (∃ value, last? reads calls = some value) ↔
      ∃ call ∈ calls, ∃ value, reads call = some value := by
  rw [← Option.ne_none_iff_exists', Ne, last?_eq_none_iff]
  simp [Option.ne_none_iff_exists']

/-- If a value is read of just the call that gives it, one is read if one was given. -/
theorem exists_last?_iff_given {give : α → τ} {calls : List τ}
    (given : ∀ call value, reads call = some value ↔ call = give value) :
    (∃ value, last? reads calls = some value) ↔ ∃ value, give value ∈ calls := by
  rw [exists_last?_iff]
  constructor
  · rintro ⟨call, member, value, read⟩
    rw [(given call value).mp read] at member
    exact ⟨value, member⟩
  · rintro ⟨value, member⟩
    exact ⟨give value, member, value, (given _ _).mpr rfl⟩

theorem last?_filter {kept : τ → Bool} (silent : ∀ call, kept call = false → reads call = none)
    (calls : List τ) : last? reads (calls.filter kept) = last? reads calls := by
  induction calls using List.reverseRecOn with
  | nil => rfl
  | append_singleton calls call ih =>
      rw [List.filter_append, last?_concat]
      cases speaks : kept call with
      | false => simp [speaks, silent call speaks, ih]
      | true => simp [speaks, last?_concat, ih]

end LastCall

/-! ## Exchanges -/

namespace Exchange

/-- A call of a setter of an exchange. -/
inductive Setter where
  | kind (given : ExchangeKind)
  | delayed (given : ExchangeKind)
  | durable
  deriving DecidableEq

namespace Setter

def kind? : Setter → Option ExchangeKind
  | .kind given | .delayed given => some given
  | .durable => none

def delay? : Setter → Option ExchangeKind
  | .delayed given => some given
  | .kind _ | .durable => none

theorem exists_delay?_iff {setters : List Setter} :
    (∃ given, last? delay? setters = some given) ↔ ∃ given, .delayed given ∈ setters := by
  apply exists_last?_iff_given
  intro setter given
  cases setter <;> simp [delay?]

end Setter

def set (exchange : Exchange) : Setter → Exchange
  | .kind given => exchange.withKind given
  | .delayed given => exchange.delaying given
  | .durable => exchange.lasting

def ofSetters (name : String) (setters : List Setter) : Exchange := setters.foldl set (ofName name)

theorem ofSetters_concat (name : String) (setters : List Setter) (setter : Setter) :
    ofSetters name (setters ++ [setter]) = (ofSetters name setters).set setter := by
  simp [ofSetters]

theorem set_eq (exchange : Exchange) (setter : Setter) :
    exchange.set setter =
      ⟨exchange.name, setter.kind?.getD exchange.kind, setter.delay?.or exchange.behindDelay,
        decide (setter = .durable) || exchange.durable⟩ := by
  cases setter <;> simp [set, withKind, delaying, lasting, Setter.kind?, Setter.delay?]

theorem ofSetters_eq (name : String) (setters : List Setter) :
    ofSetters name setters =
      ⟨name, (last? Setter.kind? setters).getD .direct, last? Setter.delay? setters,
        decide (.durable ∈ setters)⟩ := by
  induction setters using List.reverseRecOn with
  | nil => rfl
  | append_singleton setters setter ih =>
      rw [ofSetters_concat, ih, set_eq, last?_concat, last?_concat]
      simp [Option.getD_or, eq_comm, or_comm]

/-- The type under which an exchange is declared, its kind and its arguments say the same. -/
def Coherent (exchange : Exchange) : Prop :=
  if exchange.delayed then
    exchange.declaredKind = "x-delayed-message" ∧
      exchange.arguments = [("x-delayed-type", Header.ofText exchange.kind.word)]
  else exchange.declaredKind = exchange.kind.word ∧ exchange.arguments = []

theorem coherent_iff {exchange : Exchange} :
    exchange.Coherent ↔ ∀ kind, exchange.behindDelay = some kind → exchange.kind = kind := by
  obtain ⟨name, kind, behind, durable⟩ := exchange
  cases behind with
  | none => simp [Coherent, delayed, declaredKind, arguments]
  | some inner =>
      simp [Coherent, delayed, declaredKind, arguments, Header.ofText_inj, ExchangeKind.word_inj,
        eq_comm]

theorem exists_kind_of_delay {setters : List Setter} {kind : ExchangeKind}
    (delayed : last? Setter.delay? setters = some kind) :
    ∃ named, last? Setter.kind? setters = some named := by
  obtain ⟨given, member⟩ := Setter.exists_delay?_iff.mp ⟨kind, delayed⟩
  exact exists_last?_iff.mpr ⟨.delayed given, member, given, rfl⟩

/-- When an exchange is coherent: if no call makes it delay, or if the last call that names a
kind names that of the last call that delays. -/
theorem ofSetters_coherent_iff (name : String) (setters : List Setter) :
    (ofSetters name setters).Coherent ↔
      ∀ kind, last? Setter.delay? setters = some kind → last? Setter.kind? setters = some kind := by
  rw [coherent_iff, ofSetters_eq]
  constructor
  · intro agrees kind delayed
    obtain ⟨named, last⟩ := exists_kind_of_delay delayed
    have same := agrees kind delayed
    simp only [last, Option.getD_some] at same
    rw [last, same]
  · intro agrees kind delayed
    simp [agrees kind delayed]

/-- How an exchange of a name stands after calls of its setters. -/
structure AsSet (name : String) (setters : List Setter) (exchange : Exchange) : Prop where
  name_eq : exchange.name = name
  durable_iff : exchange.durable = true ↔ .durable ∈ setters
  kind_eq : exchange.kind = (last? Setter.kind? setters).getD .direct
  delayed_iff : exchange.delayed = true ↔ ∃ given, .delayed given ∈ setters
  /-- What is never made to delay is declared by its kind, without arguments. -/
  plain : (∀ given, .delayed given ∉ setters) →
    exchange.declaredKind = exchange.kind.word ∧ exchange.arguments = []
  /-- What delays is declared with one argument, the kind that the last such call gave. -/
  behind : ∀ kind, last? Setter.delay? setters = some kind →
    exchange.declaredKind = "x-delayed-message" ∧
      exchange.arguments = [("x-delayed-type", Header.ofText kind.word)]
  coherent_iff : exchange.Coherent ↔
    ∀ kind, last? Setter.delay? setters = some kind → last? Setter.kind? setters = some kind

theorem asSet_ofSetters (name : String) (setters : List Setter) :
    AsSet name setters (ofSetters name setters) where
  name_eq := by rw [ofSetters_eq]
  durable_iff := by rw [ofSetters_eq]; exact decide_eq_true_iff
  kind_eq := by rw [ofSetters_eq]
  delayed_iff := by
    rw [ofSetters_eq, ← Setter.exists_delay?_iff]
    exact Option.isSome_iff_exists
  plain := by
    intro never
    have undelayed : last? Setter.delay? setters = none := by
      cases last : last? Setter.delay? setters with
      | none => rfl
      | some kind =>
          obtain ⟨given, member⟩ := Setter.exists_delay?_iff.mp ⟨kind, last⟩
          exact absurd member (never given)
    simp [ofSetters_eq, undelayed, declaredKind, delayed, arguments]
  behind := by
    intro kind last
    simp [ofSetters_eq, last, declaredKind, delayed, arguments]
  coherent_iff := ofSetters_coherent_iff name setters

end Exchange

/-- A class sets the kind of each of its exchanges once, so all of them are coherent. -/
theorem RetryCycle.coherent_of_mem {cls : MessageClass} {exchange : Exchange}
    (needed : exchange ∈ (RetryCycle.ofClass cls).exchanges) : exchange.Coherent := by
  simp only [RetryCycle.ofClass, List.mem_cons, List.not_mem_nil, or_false] at needed
  rcases needed with rfl | rfl | rfl
  · apply (Exchange.ofSetters_coherent_iff _ [.delayed cls.kind, .durable]).mpr
    intro kind last
    exact last
  · exact (Exchange.ofSetters_coherent_iff _ [.kind cls.kind, .durable]).mpr nofun
  · exact (Exchange.ofSetters_coherent_iff _ [.kind cls.kind, .durable]).mpr nofun

/-! ## Queues -/

namespace Queue

/-- A call of a setter of a queue. -/
inductive Setter where
  | durable
  | ttl (given : Int)
  | deadLetter (exchange key : String)
  deriving DecidableEq

/-- The setters of a queue, without what they are given. -/
inductive Slot where
  | durable
  | ttl
  | deadLetter
  deriving DecidableEq

namespace Setter

def slot : Setter → Slot
  | .durable => .durable
  | .ttl _ => .ttl
  | .deadLetter _ _ => .deadLetter

def ttl? : Setter → Option Int
  | .ttl given => some given
  | .durable | .deadLetter _ _ => none

def target? : Setter → Option (String × String)
  | .deadLetter exchange key => some (exchange, key)
  | .durable | .ttl _ => none

theorem exists_ttl?_iff {setters : List Setter} :
    (∃ given, last? ttl? setters = some given) ↔ ∃ given, .ttl given ∈ setters := by
  apply exists_last?_iff_given
  intro setter given
  cases setter <;> simp [ttl?]

theorem exists_target?_iff {setters : List Setter} :
    (∃ target, last? target? setters = some target) ↔
      ∃ target : String × String, .deadLetter target.1 target.2 ∈ setters := by
  apply exists_last?_iff_given
  intro setter target
  cases setter <;> simp [target?, Prod.ext_iff]

end Setter

def set (queue : Queue) : Setter → Queue
  | .durable => queue.lasting
  | .ttl given => queue.expiring given
  | .deadLetter exchange key => queue.deadLettering exchange key

def ofSetters (name : String) (setters : List Setter) : Queue := setters.foldl set (ofName name)

theorem ofSetters_concat (name : String) (setters : List Setter) (setter : Setter) :
    ofSetters name (setters ++ [setter]) = (ofSetters name setters).set setter := by
  simp [ofSetters]

theorem set_eq (queue : Queue) (setter : Setter) :
    queue.set setter =
      ⟨queue.name, decide (setter = .durable) || queue.durable, setter.ttl?.or queue.ttl,
        setter.target?.or queue.deadLetter⟩ := by
  cases setter <;> simp [set, lasting, expiring, deadLettering, Setter.ttl?, Setter.target?]

theorem ofSetters_eq (name : String) (setters : List Setter) :
    ofSetters name setters =
      ⟨name, decide (.durable ∈ setters), last? Setter.ttl? setters,
        last? Setter.target? setters⟩ := by
  induction setters using List.reverseRecOn with
  | nil => rfl
  | append_singleton setters setter ih =>
      rw [ofSetters_concat, ih, set_eq, last?_concat, last?_concat]
      simp [eq_comm, or_comm]

/-- Two sequences of calls in which each setter is called with the same values in the same order. -/
def SameEach (setters other : List Setter) : Prop :=
  ∀ slot, setters.filter (fun setter => setter.slot = slot) =
    other.filter fun setter => setter.slot = slot

/-- What is read of the calls of one setter does not depend on the other calls. -/
theorem SameEach.last?_eq {setters other : List Setter} (same : SameEach setters other)
    (slot : Slot) {α : Type} {reads : Setter → Option α}
    (own : ∀ setter : Setter, setter.slot ≠ slot → reads setter = none) :
    last? reads setters = last? reads other := by
  have silent : ∀ setter : Setter, decide (setter.slot = slot) = false → reads setter = none :=
    fun setter different => own setter (of_decide_eq_false different)
  rw [← last?_filter silent setters, same slot, last?_filter silent]

theorem SameEach.mem_durable_iff {setters other : List Setter} (same : SameEach setters other) :
    .durable ∈ setters ↔ .durable ∈ other := by
  have kept : ∀ calls : List Setter, Setter.durable ∈ calls ↔
      Setter.durable ∈ calls.filter fun setter => setter.slot = .durable := by
    intro calls
    simp [Setter.slot]
  rw [kept, same, ← kept]

/-- The order between calls of different setters does not matter. -/
theorem ofSetters_congr {setters other : List Setter} (same : SameEach setters other)
    (name : String) : ofSetters name setters = ofSetters name other := by
  have ttl : last? Setter.ttl? setters = last? Setter.ttl? other := by
    apply same.last?_eq .ttl
    intro setter different
    cases setter with
    | ttl given => exact absurd rfl different
    | durable | deadLetter => rfl
  have target : last? Setter.target? setters = last? Setter.target? other := by
    apply same.last?_eq .deadLetter
    intro setter different
    cases setter with
    | deadLetter exchange key => exact absurd rfl different
    | durable | ttl => rfl
  simp only [ofSetters_eq, ttl, target, same.mem_durable_iff]

/-- What any calls make of an argument: the wait and the two halves of the target, as they were
last given, and nothing under any other name. -/
def argument? (setters : List Setter) : String → Option Header
  | "x-message-ttl" => (last? Setter.ttl? setters).map Header.ofInt
  | "x-dead-letter-exchange" =>
      (last? Setter.target? setters).map fun target => Header.ofText target.1
  | "x-dead-letter-routing-key" =>
      (last? Setter.target? setters).map fun target => Header.ofText target.2
  | _ => none

theorem find?_arguments (name : String) (setters : List Setter) (argument : String) :
    SortedTable.find? argument (ofSetters name setters).arguments = argument? setters argument := by
  rw [ofSetters_eq]
  unfold argument?
  -- there are four tables, with and without a target and a wait
  cases last? Setter.target? setters <;> cases last? Setter.ttl? setters <;> split <;>
    simp_all [arguments, SortedTable.find?]

def argumentNames : List String :=
  ["x-dead-letter-exchange", "x-dead-letter-routing-key", "x-message-ttl"]

theorem names_arguments (queue : Queue) :
    (SortedTable.names queue.arguments).Sublist argumentNames := by
  obtain ⟨name, durable, ttl, target⟩ := queue
  cases target <;> cases ttl <;> simp [arguments, SortedTable.names, argumentNames]

theorem sorted_arguments (queue : Queue) : SortedTable.Sorted queue.arguments := by
  have all : argumentNames.Pairwise (· < ·) := by decide
  exact all.sublist queue.names_arguments

theorem mem_names_arguments_iff (name : String) (setters : List Setter) (argument : String) :
    argument ∈ SortedTable.names (ofSetters name setters).arguments ↔
      ∃ value, argument? setters argument = some value := by
  rw [SortedTable.mem_names_iff, find?_arguments]

/-- How a queue of a name stands after calls of its setters. -/
structure AsSet (name : String) (setters : List Setter) (queue : Queue) : Prop where
  name_eq : queue.name = name
  durable_iff : queue.durable = true ↔ .durable ∈ setters
  /-- No argument is declared twice. -/
  sorted : SortedTable.Sorted queue.arguments
  argument_eq : ∀ argument, SortedTable.find? argument queue.arguments = argument? setters argument
  ttl_iff : "x-message-ttl" ∈ SortedTable.names queue.arguments ↔ ∃ given, .ttl given ∈ setters
  target_iff : ∀ argument ∈ ["x-dead-letter-exchange", "x-dead-letter-routing-key"],
    (argument ∈ SortedTable.names queue.arguments ↔
      ∃ target : String × String, .deadLetter target.1 target.2 ∈ setters)
  unordered : ∀ other, SameEach setters other → ofSetters name other = queue

theorem asSet_ofSetters (name : String) (setters : List Setter) :
    AsSet name setters (ofSetters name setters) where
  name_eq := by rw [ofSetters_eq]
  durable_iff := by rw [ofSetters_eq]; exact decide_eq_true_iff
  sorted := sorted_arguments _
  argument_eq := find?_arguments name setters
  ttl_iff := by
    rw [mem_names_arguments_iff, ← Setter.exists_ttl?_iff]
    simp [argument?]
  target_iff := by
    intro argument listed
    rw [mem_names_arguments_iff, ← Setter.exists_target?_iff]
    simp only [List.mem_cons, List.not_mem_nil, or_false] at listed
    rcases listed with rfl | rfl <;> simp [argument?]
  unordered := fun other same => (ofSetters_congr same name).symm

end Queue

/-! ## Both -/

/-- **What is declared after any calls of setters.** The arguments of a queue are the wait and the
target that were last given, each if one was given at all, and nothing else, in whatever order
calls of different setters come. The argument of an exchange is the kind of the last call that
makes it delay, if there is one, and nothing else; that is the kind that the exchange names exactly
if the last call that names a kind names the same. -/
theorem definitions_as_set (exchange queue : String) (calls : List Exchange.Setter)
    (settings : List Queue.Setter) :
    Exchange.AsSet exchange calls (.ofSetters exchange calls) ∧
      Queue.AsSet queue settings (.ofSetters queue settings) :=
  ⟨Exchange.asSet_ofSetters exchange calls, Queue.asSet_ofSetters queue settings⟩

/-! ## Poles -/

/-- Calls that change their mind about the kind, and in the end are back at the one behind the
delay. -/
def Exchange.wavering : List Exchange.Setter :=
  [.kind .fanout, .delayed .topic, .durable, .delayed .direct, .kind .topic, .kind .direct]

def Queue.wavering : List Queue.Setter := [.ttl 5, .deadLetter "ticks" "tick", .ttl (-7), .durable]

def Queue.settled : List Queue.Setter := [.durable, .deadLetter "ticks" "tick", .ttl 5, .ttl (-7)]

/-- The exchange is declared with the kind that it names, and the queue with the last wait, also if
it is set at one go. -/
theorem definitions_as_set_wavering :
    (Exchange.ofSetters "ticks" Exchange.wavering).Coherent ∧
      (Exchange.ofSetters "ticks" Exchange.wavering).arguments =
        [("x-delayed-type", Header.ofText "direct")] ∧
      Queue.SameEach Queue.wavering Queue.settled ∧
      Queue.ofSetters "later" Queue.settled = .ofSetters "later" Queue.wavering ∧
      SortedTable.find? "x-message-ttl" (Queue.ofSetters "later" Queue.wavering).arguments =
        some (Header.ofInt (-7)) := by
  obtain ⟨exchange, queue⟩ :=
    definitions_as_set "ticks" "later" Exchange.wavering Queue.wavering
  have same : Queue.SameEach Queue.wavering Queue.settled := by
    intro slot
    cases slot <;> rfl
  refine ⟨exchange.coherent_iff.mpr ?_, (exchange.behind .direct rfl).2, same,
    queue.unordered _ same, queue.argument_eq _⟩
  intro kind last
  cases last
  rfl

/-- A kind that is set behind a delay is named and not declared. The exchange names the kind
fanout, and is declared and routes as a topic exchange. -/
theorem Exchange.kind_after_delayed :
    (ofSetters "ticks" [.delayed .topic, .kind .fanout]).kind = .fanout ∧
      (ofSetters "ticks" [.delayed .topic, .kind .fanout]).declaredKind = "x-delayed-message" ∧
      (ofSetters "ticks" [.delayed .topic, .kind .fanout]).arguments =
        [("x-delayed-type", Header.ofText "topic")] ∧
      (ofSetters "ticks" [.delayed .topic, .kind .fanout]).routing? = some .topic ∧
      ¬ (ofSetters "ticks" [.delayed .topic, .kind .fanout]).Coherent := by
  refine ⟨rfl, rfl, rfl, routing?_eq _, ?_⟩
  rw [ofSetters_coherent_iff]
  intro agrees
  cases agrees .topic rfl

end Redelivery
