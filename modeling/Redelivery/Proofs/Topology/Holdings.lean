import Redelivery.Connection.Manager
import Redelivery.Proofs.Text.Utf8
import Redelivery.Proofs.Topology.Collection
/-!
# What a broker holds

A broker keeps the exchanges, queues and bindings that it was asked for. To ask again on the
same terms changes nothing; to ask for a name on other terms is refused, and so is a binding
whose queue or exchange is missing. `Holdings.declare?` is this rule. The terms that are
compared are those that go over the wire: the declared kind, the durability, the arguments.

Nothing else is known of a broker: a wire `Respects` the rule if it accepts nothing against it,
and `Obliges` if it accepts all that the rule allows.

* `Exchange.sameTerms_iff`, `Queue.sameTerms_iff`: definitions of one name are declared on the
  same terms exactly if they are the same in all that matters.
* `install_of_respects`, `install_of_obliges`: what a whole installation leaves behind, and that
  it succeeds.
* `Plan.declareAll?_declarations`: a plan of classes meets no refusal on an empty broker.
* `held_of_installed`, `installed_of_obliges`: the same for the manager of an application.
-/

namespace Redelivery

set_option autoImplicit false

/-! ## Terms -/

theorem Header.ofText_inj {text other : String} : Header.ofText text = Header.ofText other ↔
    text = other := by
  constructor
  · intro same
    have read := congrArg Header.text? same
    rwa [Header.text?_ofText, Header.text?_ofText, Option.some.injEq] at read
  · intro same
    rw [same]

theorem Header.ofInt_inj {value other : Int} : Header.ofInt value = Header.ofInt other ↔
    value = other := by
  simp [Header.ofInt]

theorem ExchangeKind.word_inj {kind other : ExchangeKind} : kind.word = other.word ↔
    kind = other := by
  cases kind <;> cases other <;> decide

theorem ExchangeKind.word_ne_delayed (kind : ExchangeKind) : kind.word ≠ "x-delayed-message" := by
  cases kind <;> decide

/-- Two exchanges are declared on the same terms. -/
def Exchange.SameTerms (exchange other : Exchange) : Prop :=
  exchange.declaredKind = other.declaredKind ∧ exchange.durable = other.durable ∧
    exchange.arguments = other.arguments

/-- The terms tell whether an exchange is delayed, and by which kind it routes. -/
theorem Exchange.sameTerms_iff {exchange other : Exchange} :
    exchange.SameTerms other ↔ exchange.durable = other.durable ∧
      exchange.behindDelay = other.behindDelay ∧
      (exchange.behindDelay = none → exchange.kind = other.kind) := by
  obtain ⟨name, kind, behind, durable⟩ := exchange
  obtain ⟨name', kind', behind', durable'⟩ := other
  cases behind with
  | none =>
      cases behind' with
      | none => simp [SameTerms, declaredKind, delayed, arguments, ExchangeKind.word_inj, and_comm]
      | some inner =>
          simp [SameTerms, declaredKind, delayed, arguments, ExchangeKind.word_ne_delayed]
  | some inner =>
      cases behind' with
      | none => simp [SameTerms, declaredKind, delayed, arguments]
      | some inner' =>
          simp [SameTerms, declaredKind, delayed, arguments, Header.ofText_inj,
            ExchangeKind.word_inj]

instance (exchange other : Exchange) : Decidable (exchange.SameTerms other) :=
  decidable_of_iff _ Exchange.sameTerms_iff.symm

def Queue.SameTerms (queue other : Queue) : Prop :=
  queue.durable = other.durable ∧ queue.arguments = other.arguments

/-- The terms tell where a queue sends what it drops, and when. -/
theorem Queue.sameTerms_iff {queue other : Queue} :
    queue.SameTerms other ↔ queue.durable = other.durable ∧ queue.ttl = other.ttl ∧
      queue.deadLetter = other.deadLetter := by
  obtain ⟨name, durable, ttl, target⟩ := queue
  obtain ⟨name', durable', ttl', target'⟩ := other
  cases ttl <;> cases ttl' <;> cases target <;> cases target' <;>
    simp [SameTerms, arguments, Header.ofText_inj, Header.ofInt_inj, Prod.ext_iff, and_comm,
      and_left_comm]

instance (queue other : Queue) : Decidable (queue.SameTerms other) :=
  decidable_of_iff _ Queue.sameTerms_iff.symm

/-! ## The rule -/

/-- What a broker was asked for and keeps. -/
structure Holdings where
  exchanges : List Exchange
  queues : List Queue
  bindings : List Binding
  deriving DecidableEq

namespace Holdings

def empty : Holdings := ⟨[], [], []⟩

def exchange? (held : Holdings) (name : String) : Option Exchange :=
  held.exchanges.find? fun exchange => exchange.name = name

def queue? (held : Holdings) (name : String) : Option Queue :=
  held.queues.find? fun queue => queue.name = name

/-- What a broker holds after it was asked for something, unless that is against the rule. -/
def declare? (held : Holdings) : Declaration → Option Holdings
  | .exchange definition =>
      match held.exchange? definition.name with
      | some old => if old.SameTerms definition then some held else none
      | none => some { held with exchanges := held.exchanges ++ [definition] }
  | .queue definition =>
      match held.queue? definition.name with
      | some old => if old.SameTerms definition then some held else none
      | none => some { held with queues := held.queues ++ [definition] }
  | .binding definition =>
      if (held.exchange? definition.exchange).isSome ∧ (held.queue? definition.queue).isSome then
        if definition ∈ held.bindings then some held
        else some { held with bindings := held.bindings ++ [definition] }
      else none

def declareAll? (held : Holdings) : List Declaration → Option Holdings
  | [] => some held
  | declaration :: rest => (held.declare? declaration).bind fun next => next.declareAll? rest

theorem declareAll?_append (held : Holdings) (first second : List Declaration) :
    held.declareAll? (first ++ second) =
      (held.declareAll? first).bind fun next => next.declareAll? second := by
  induction first generalizing held with
  | nil => rfl
  | cons declaration first ih =>
      simp only [List.cons_append, declareAll?, ih, Option.bind_assoc]

end Holdings

/-! ## Wires to a broker with the rule -/

section Wires

variable {σ : Type}

/-- The broker behind a wire accepts nothing against the rule. It may refuse anything. -/
structure Wire.Respects (wire : Wire σ) (held : σ → Holdings) : Prop where
  accepted : ∀ channel declaration state next,
    wire.declare channel declaration state = (true, next) →
      (held state).declare? declaration = some (held next)

/-- The broker behind a wire accepts whatever the rule allows. -/
structure Wire.Obliges (wire : Wire σ) (held : σ → Holdings) : Prop where
  allowed : ∀ channel declaration state, ((held state).declare? declaration).isSome = true →
    (wire.declare channel declaration state).1 = true

variable {wire : Wire σ} {held : σ → Holdings}

/-- An installation that succeeds was allowed throughout, and leaves behind what the rule
says. -/
theorem install_of_respects (respects : wire.Respects held) {channel : Channel} {state next : σ}
    {declarations : List Declaration}
    (installed : install (wire.declare channel) declarations state = (.ok (), next)) :
    (held state).declareAll? declarations = some (held next) := by
  induction declarations generalizing state with
  | nil =>
      cases installed
      rfl
  | cons declaration rest ih =>
      rcases answer : wire.declare channel declaration state with ⟨accepted, middle⟩
      rw [install, answer] at installed
      cases accepted with
      | false => cases installed
      | true =>
          rw [Holdings.declareAll?, respects.accepted _ _ _ _ answer, Option.bind_some]
          exact ih installed

/-- An installation that the rule allows succeeds on a broker that obliges. -/
theorem install_of_obliges (respects : wire.Respects held) (obliges : wire.Obliges held)
    {channel : Channel} {state : σ} {declarations : List Declaration}
    (allowed : ((held state).declareAll? declarations).isSome = true) :
    ∃ next, install (wire.declare channel) declarations state = (.ok (), next) := by
  induction declarations generalizing state with
  | nil => exact ⟨state, rfl⟩
  | cons declaration rest ih =>
      obtain ⟨later, all⟩ := Option.isSome_iff_exists.mp allowed
      obtain ⟨first, declared, others⟩ := Option.bind_eq_some_iff.mp all
      rcases answer : wire.declare channel declaration state with ⟨accepted, middle⟩
      have granted : accepted = true := by
        have told := obliges.allowed channel declaration state (by rw [declared]; rfl)
        rwa [answer] at told
      subst granted
      have same : held middle = first := by
        have kept := respects.accepted _ _ _ _ answer
        rw [declared] at kept
        exact (Option.some.inj kept).symm
      rw [install, answer]
      exact ih (by rw [same, others]; rfl)

end Wires

def Holdings.answer (held : Holdings) (declaration : Declaration) : Bool × Holdings :=
  match held.declare? declaration with
  | some next => (true, next)
  | none => (false, held)

/-- A broker that does nothing but hold what it was asked for. -/
def Holdings.wire : Wire Holdings where
  dial held := (.ok 0, held)
  openChannel connection held := (.ok ⟨connection, 0⟩, held)
  disconnect _ _ held := (.ok (), held)
  declare _ declaration held := held.answer declaration
  publish _ _ held := (.ok .unasked, held)
  limitPrefetch _ _ held := (true, held)
  startConsumer _ _ held := (none, held)
  cancelConsumer _ _ held := (true, held)

theorem Holdings.wire_respects : Holdings.wire.Respects id where
  accepted channel declaration state next accepted := by
    change state.answer declaration = (true, next) at accepted
    rw [answer] at accepted
    split at accepted
    · rename_i later declared
      cases accepted
      exact declared
    · cases accepted

theorem Holdings.wire_obliges : Holdings.wire.Obliges id where
  allowed channel declaration state allowed := by
    obtain ⟨next, declared⟩ := Option.isSome_iff_exists.mp allowed
    change state.declare? declaration = some next at declared
    change (state.answer declaration).1 = true
    rw [answer, declared]

/-! ## Plans on an empty broker -/

namespace Holdings

/-- A list of which each item is accepted behind those before it is accepted as a whole. -/
theorem declareAll?_map {τ : Type} {ask : τ → Declaration} {grown : List τ → Holdings}
    {items : List τ}
    (accepted : ∀ before item after, items = before ++ item :: after →
      (grown before).declare? (ask item) = some (grown (before ++ [item]))) :
    (grown []).declareAll? (items.map ask) = some (grown items) := by
  have behind : ∀ after before, items = before ++ after →
      (grown before).declareAll? (after.map ask) = some (grown items) := by
    intro after
    induction after with
    | nil =>
        intro before whole
        rw [whole, List.append_nil]
        rfl
    | cons item after ih =>
        intro before whole
        rw [List.map_cons, declareAll?, accepted before item after whole, Option.bind_some]
        apply ih
        rw [whole, List.append_assoc, List.singleton_append]
  exact behind items [] rfl

/-- What a broker that held nothing holds after a plan. -/
def ofPlan (plan : Plan) : Holdings := ⟨plan.exchanges, plan.queues, plan.bindings⟩

end Holdings

namespace RetryCycle

def exchange? (cycle : RetryCycle) (name : String) : Option Exchange :=
  cycle.exchanges.find? fun exchange => exchange.name = name

def queue? (cycle : RetryCycle) (name : String) : Option Queue :=
  cycle.queues.find? fun queue => queue.name = name

end RetryCycle

namespace Plan

variable (classes : List MessageClass)

theorem exchange?_ofPlan (name : String) :
    (Holdings.ofPlan (ofClasses classes)).exchange? name =
      (everything classes).exchange? name := by
  rw [ofClasses_eq]
  exact find?_collect _ _

theorem queue?_ofPlan (name : String) :
    (Holdings.ofPlan (ofClasses classes)).queue? name = (everything classes).queue? name := by
  rw [ofClasses_eq]
  exact find?_collect _ _

/-- The broker holds every binding of every class. -/
theorem mem_bindings_ofPlan {classes : List MessageClass} {cls : MessageClass}
    (member : cls ∈ classes) {binding : Binding}
    (own : binding ∈ (RetryCycle.ofClass cls).bindings) :
    binding ∈ (Holdings.ofPlan (ofClasses classes)).bindings := by
  rw [ofClasses_eq]
  exact mem_collect_id.mpr (List.mem_flatMap.mpr ⟨cls, member, own⟩)

/-- Every binding of the classes leads from one of their exchanges to one of their queues. -/
theorem ends_of_everything {binding : Binding}
    (member : binding ∈ (everything classes).bindings) :
    binding.exchange ∈ (everything classes).exchanges.map Exchange.name ∧
      binding.queue ∈ (everything classes).queues.map Queue.name := by
  rw [bindings_everything] at member
  obtain ⟨route, listed, rfl⟩ := List.mem_map.mp member
  rw [names_exchanges, names_queues]
  exact ⟨List.mem_map_of_mem listed, List.mem_map_of_mem listed⟩

/-- A plan of classes meets no refusal on an empty broker, whatever names the classes
share, and all of it is held afterwards. -/
theorem declareAll?_declarations :
    Holdings.empty.declareAll? (ofClasses classes).declarations =
      some (.ofPlan (ofClasses classes)) := by
  rw [ofClasses_eq]
  let exchanges := collect Exchange.name (everything classes).exchanges
  let queues := collect Queue.name (everything classes).queues
  let bindings := collect id (everything classes).bindings
  have first : Holdings.declareAll? ⟨[], [], []⟩ (exchanges.map .exchange) =
      some ⟨exchanges, [], []⟩ := by
    apply @Holdings.declareAll?_map _ _ fun exchanges => ⟨exchanges, [], []⟩
    intro before exchange after whole
    have nodup : (exchanges.map Exchange.name).Nodup := nodup_collect _
    rw [whole] at nodup
    have new : Holdings.exchange? ⟨before, [], []⟩ exchange.name = none :=
      find?_of_new (new_of_nodup nodup)
    rw [Holdings.declare?, new]
  have second : Holdings.declareAll? ⟨exchanges, [], []⟩ (queues.map .queue) =
      some ⟨exchanges, queues, []⟩ := by
    apply @Holdings.declareAll?_map _ _ fun queues => ⟨exchanges, queues, []⟩
    intro before queue after whole
    have nodup : (queues.map Queue.name).Nodup := nodup_collect _
    rw [whole] at nodup
    have new : Holdings.queue? ⟨exchanges, before, []⟩ queue.name = none :=
      find?_of_new (new_of_nodup nodup)
    rw [Holdings.declare?, new]
  have third : Holdings.declareAll? ⟨exchanges, queues, []⟩ (bindings.map .binding) =
      some ⟨exchanges, queues, bindings⟩ := by
    apply @Holdings.declareAll?_map _ _ fun bindings => ⟨exchanges, queues, bindings⟩
    intro before binding after whole
    have member : binding ∈ bindings := by simp [whole]
    have nodup : bindings.Nodup := nodup_collect_id _
    have new : binding ∉ before := by
      intro taken
      rw [whole] at nodup
      exact (List.nodup_append'.mp nodup).2.2 taken List.mem_cons_self
    obtain ⟨exchange, queue⟩ := ends_of_everything classes (mem_collect_id.mp member)
    rw [Holdings.declare?, if_pos, if_neg new]
    constructor
    · exact isSome_find?_iff.mpr ((mem_keys_collect _ _).mpr exchange)
    · exact isSome_find?_iff.mpr ((mem_keys_collect _ _).mpr queue)
  rw [declarations, Holdings.declareAll?_append, Holdings.declareAll?_append, Holdings.empty,
    first, Option.bind_some, second, Option.bind_some, third]
  rfl

end Plan

/-! ## Registration -/

section Registration

variable {σ : Type} {wire : Wire σ} {held : σ → Holdings} {manager : Manager} {world : σ}

theorem mem_enabledClasses {classes : List MessageClass} {cls : MessageClass} :
    cls ∈ enabledClasses classes ↔ cls ∈ classes ∧ cls.enabled = true :=
  List.mem_filter

theorem held_of_installed (respects : wire.Respects held) (nothing : held world = .empty)
    {classes : List MessageClass} {later : Manager} {next : σ}
    (installed : Manager.install wire (Plan.ofClasses classes).declarations (manager, world) =
      (.ok (), later, next)) :
    held next = .ofPlan (Plan.ofClasses classes) := by
  cases connected : manager.link with
  | none =>
      rw [Manager.install, connected] at installed
      cases installed
  | some link =>
      rcases answer : install (wire.declare link.produce) (Plan.ofClasses classes).declarations
        world with ⟨outcome, state⟩
      simp only [Manager.install, connected, answer, Prod.mk.injEq] at installed
      obtain ⟨rfl, -, rfl⟩ := installed
      have declared := install_of_respects respects answer
      rw [nothing, Plan.declareAll?_declarations] at declared
      exact (Option.some.inj declared).symm

/-- Every plan of classes is installed on an empty broker that obliges. -/
theorem installed_of_obliges (respects : wire.Respects held) (obliges : wire.Obliges held)
    (connected : manager.link.isSome = true) (nothing : held world = .empty)
    (classes : List MessageClass) :
    ∃ next, Manager.install wire (Plan.ofClasses classes).declarations (manager, world) =
      (.ok (), manager, next) := by
  obtain ⟨link, present⟩ := Option.isSome_iff_exists.mp connected
  have allowed : ((held world).declareAll? (Plan.ofClasses classes).declarations).isSome =
      true := by
    rw [nothing, Plan.declareAll?_declarations]
    rfl
  obtain ⟨next, installed⟩ := @install_of_obliges _ _ _ respects obliges link.produce _ _ allowed
  refine ⟨next, ?_⟩
  simp only [Manager.install, present, installed]

end Registration

def joined : Manager := { Manager.fresh with link := some ⟨1, 0, ⟨0, 1⟩, ⟨0, 2⟩⟩ }

end Redelivery
