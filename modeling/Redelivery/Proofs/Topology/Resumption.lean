import Redelivery.Proofs.Topology.Registration
/-!
# Resuming a registration

A registration that was cut short leaves a part of its plan on the broker. To ask again for what
is there changes nothing, and all that is there was asked for on the terms of the same plan, so
the next registration passes over that part and goes on behind it.

What a broker holds only grows: `Holdings.Within` says that one state is part of another, and
`Holdings.Has` that a declaration would change nothing.

* `within_of_declare?`, `has_of_declare?`: what one declaration does to the holdings.
* `begun_install`: an installation takes a begun plan further, wherever it is cut.
* `registration_resumes`: after any number of registrations that were cut anywhere, one that is
  not hindered succeeds and leaves what a single registration would have left.
-/

namespace Redelivery

set_option autoImplicit false

/-! ## Holdings grow -/

namespace Holdings

variable {held later next : Holdings} {declaration other : Declaration}

/-- All that is held is held later, under its name and on its terms. -/
structure Within (held later : Holdings) : Prop where
  exchanges : ∀ name exchange, held.exchange? name = some exchange →
    later.exchange? name = some exchange
  queues : ∀ name queue, held.queue? name = some queue → later.queue? name = some queue
  bindings : ∀ binding ∈ held.bindings, binding ∈ later.bindings

theorem Within.refl (held : Holdings) : held.Within held :=
  ⟨fun _ _ => id, fun _ _ => id, fun _ => id⟩

theorem Within.trans (first : held.Within later) (second : later.Within next) :
    held.Within next where
  exchanges name exchange found := second.exchanges _ _ (first.exchanges name exchange found)
  queues name queue found := second.queues _ _ (first.queues name queue found)
  bindings binding member := second.bindings _ (first.bindings binding member)

/-- To ask for something would change nothing. -/
def Has (held : Holdings) (declaration : Declaration) : Prop :=
  held.declare? declaration = some held

theorem has_exchange_iff {exchange : Exchange} : held.Has (.exchange exchange) ↔
    ∃ kept, held.exchange? exchange.name = some kept ∧ kept.SameTerms exchange := by
  obtain ⟨exchanges, queues, bindings⟩ := held
  cases found : exchange? ⟨exchanges, queues, bindings⟩ exchange.name with
  | none => simp [Has, declare?, found]
  | some kept => by_cases same : kept.SameTerms exchange <;> simp [Has, declare?, found, same]

theorem has_queue_iff {queue : Queue} : held.Has (.queue queue) ↔
    ∃ kept, held.queue? queue.name = some kept ∧ kept.SameTerms queue := by
  obtain ⟨exchanges, queues, bindings⟩ := held
  cases found : queue? ⟨exchanges, queues, bindings⟩ queue.name with
  | none => simp [Has, declare?, found]
  | some kept => by_cases same : kept.SameTerms queue <;> simp [Has, declare?, found, same]

theorem has_binding_iff {binding : Binding} : held.Has (.binding binding) ↔
    ((held.exchange? binding.exchange).isSome ∧ (held.queue? binding.queue).isSome) ∧
      binding ∈ held.bindings := by
  obtain ⟨exchanges, queues, bindings⟩ := held
  by_cases ends : (exchange? ⟨exchanges, queues, bindings⟩ binding.exchange).isSome ∧
      (queue? ⟨exchanges, queues, bindings⟩ binding.queue).isSome <;>
    by_cases member : binding ∈ bindings <;> simp [Has, declare?, ends, member]

theorem find?_append_of_some {τ : Type} {items : List τ} {test : τ → Bool} {item : τ}
    (found : items.find? test = some item) (more : List τ) :
    (items ++ more).find? test = some item := by
  rw [List.find?_append, found, Option.some_or]

/-- A declaration adds, and takes nothing away. -/
theorem within_of_declare? (declared : held.declare? declaration = some next) :
    held.Within next := by
  cases declaration with
  | exchange definition =>
      rw [declare?] at declared
      split at declared
      · split at declared <;> cases declared
        exact .refl _
      · cases declared
        exact ⟨fun _ _ found => find?_append_of_some found _, fun _ _ => id, fun _ => id⟩
  | queue definition =>
      rw [declare?] at declared
      split at declared
      · split at declared <;> cases declared
        exact .refl _
      · cases declared
        exact ⟨fun _ _ => id, fun _ _ found => find?_append_of_some found _, fun _ => id⟩
  | binding definition =>
      rw [declare?] at declared
      split at declared
      · split at declared <;> cases declared
        · exact .refl _
        · exact ⟨fun _ _ => id, fun _ _ => id, fun _ => List.mem_append_left _⟩
      · cases declared

/-- To ask for the same again changes nothing. -/
theorem has_of_declare? (declared : held.declare? declaration = some next) :
    next.Has declaration := by
  -- Granted is what is there on the same terms, and what is new and therefore added.
  cases declaration with
  | exchange definition =>
      rw [has_exchange_iff]
      rw [declare?] at declared
      split at declared
      · rename_i kept found
        split at declared <;> cases declared
        exact ⟨kept, found, ‹_›⟩
      · rename_i new
        cases declared
        refine ⟨definition, ?_, rfl, rfl, rfl⟩
        rw [exchange?, List.find?_append, ← exchange?, new]
        simp
  | queue definition =>
      rw [has_queue_iff]
      rw [declare?] at declared
      split at declared
      · rename_i kept found
        split at declared <;> cases declared
        exact ⟨kept, found, ‹_›⟩
      · rename_i new
        cases declared
        refine ⟨definition, ?_, rfl, rfl⟩
        rw [queue?, List.find?_append, ← queue?, new]
        simp
  | binding definition =>
      rw [has_binding_iff]
      rw [declare?] at declared
      split at declared
      · rename_i ends
        split at declared <;> cases declared
        · exact ⟨ends, ‹_›⟩
        · exact ⟨ends, List.mem_append_right _ (List.mem_singleton_self definition)⟩
      · cases declared

theorem Has.within (has : held.Has declaration) (within : held.Within later) :
    later.Has declaration := by
  cases declaration with
  | exchange definition =>
      rw [has_exchange_iff] at has ⊢
      obtain ⟨kept, found, same⟩ := has
      exact ⟨kept, within.exchanges _ _ found, same⟩
  | queue definition =>
      rw [has_queue_iff] at has ⊢
      obtain ⟨kept, found, same⟩ := has
      exact ⟨kept, within.queues _ _ found, same⟩
  | binding definition =>
      rw [has_binding_iff] at has ⊢
      obtain ⟨⟨exchange, queue⟩, member⟩ := has
      obtain ⟨first, found⟩ := Option.isSome_iff_exists.mp exchange
      obtain ⟨second, found'⟩ := Option.isSome_iff_exists.mp queue
      refine ⟨⟨?_, ?_⟩, within.bindings _ member⟩
      · rw [within.exchanges _ _ found]
        rfl
      · rw [within.queues _ _ found']
        rfl

theorem within_of_declareAll? {declarations : List Declaration}
    (declared : held.declareAll? declarations = some next) : held.Within next := by
  induction declarations generalizing held with
  | nil =>
      cases declared
      exact .refl _
  | cons declaration rest ih =>
      obtain ⟨middle, first, others⟩ := Option.bind_eq_some_iff.mp declared
      exact (within_of_declare? first).trans (ih others)

theorem has_of_declareAll? {declarations : List Declaration}
    (declared : held.declareAll? declarations = some next) :
    ∀ declaration ∈ declarations, next.Has declaration := by
  induction declarations generalizing held with
  | nil => exact nofun
  | cons declaration rest ih =>
      obtain ⟨middle, first, others⟩ := Option.bind_eq_some_iff.mp declared
      intro each member
      rcases List.mem_cons.mp member with rfl | later
      · exact (has_of_declare? first).within (within_of_declareAll? others)
      · exact ih others each later

end Holdings

/-! ## Installations that are cut -/

section Cut

variable {σ : Type} {wire : Wire σ} {held : σ → Holdings}

/-- The broker behind a wire keeps what it holds: a declaration that it refuses leaves no trace,
or took place and only the answer was lost. -/
structure Wire.Retains (wire : Wire σ) (held : σ → Holdings) : Prop
    extends wire.Respects held where
  refused : ∀ channel declaration state next,
    wire.declare channel declaration state = (false, next) →
      held next = held state ∨ (held state).declare? declaration = some (held next)

theorem install_append (declare : Declaration → σ → Bool × σ) (first second : List Declaration)
    (state : σ) :
    install declare (first ++ second) state =
      match install declare first state with
      | (.ok (), middle) => install declare second middle
      | (.error failure, middle) => (.error failure, middle) := by
  induction first generalizing state with
  | nil => rfl
  | cons declaration first ih =>
      rw [List.cons_append, install, install]
      rcases declare declaration state with ⟨_ | _, next⟩
      · rfl
      · exact ih next

/-- To install what is there changes nothing, however it ends. -/
theorem held_install_of_has (retains : wire.Retains held) {channel : Channel}
    {declarations : List Declaration} {state : σ}
    (has : ∀ declaration ∈ declarations, (held state).Has declaration) :
    held (install (wire.declare channel) declarations state).2 = held state := by
  induction declarations generalizing state with
  | nil => rfl
  | cons declaration rest ih =>
      have present := has declaration List.mem_cons_self
      rcases answer : wire.declare channel declaration state with ⟨accepted, next⟩
      have same : held next = held state := by
        cases accepted with
        | true =>
            have kept := retains.accepted _ _ _ _ answer
            exact (Option.some.inj (present.symm.trans kept)).symm
        | false =>
            rcases retains.refused _ _ _ _ answer with untouched | kept
            · exact untouched
            · exact (Option.some.inj (present.symm.trans kept)).symm
      rw [install, answer]
      cases accepted with
      | false => exact same
      | true =>
          refine (ih fun each member => ?_).trans same
          rw [same]
          exact has each (List.mem_cons_of_mem _ member)

/-- An installation that is cut has declared what stands in front. -/
theorem held_install (retains : wire.Retains held) (channel : Channel)
    (declarations : List Declaration) (state : σ) :
    ∃ done left, declarations = done ++ left ∧ (held state).declareAll? done =
      some (held (install (wire.declare channel) declarations state).2) := by
  induction declarations generalizing state with
  | nil => exact ⟨[], [], rfl, rfl⟩
  | cons declaration rest ih =>
      rcases answer : wire.declare channel declaration state with ⟨accepted, next⟩
      rw [install, answer]
      cases accepted with
      | true =>
          obtain ⟨done, left, split, declared⟩ := ih next
          refine ⟨declaration :: done, left, by rw [split, List.cons_append], ?_⟩
          rw [Holdings.declareAll?, retains.accepted _ _ _ _ answer, Option.bind_some]
          exact declared
      | false =>
          rcases retains.refused _ _ _ _ answer with untouched | kept
          · refine ⟨[], declaration :: rest, rfl, ?_⟩
            rw [Holdings.declareAll?, untouched]
          · refine ⟨[declaration], rest, rfl, ?_⟩
            rw [Holdings.declareAll?, kept]
            rfl

/-- A broker that held nothing holds what stands in front of a list of declarations. -/
def Holdings.Begun (held : Holdings) (declarations : List Declaration) : Prop :=
  ∃ done left, declarations = done ++ left ∧ Holdings.empty.declareAll? done = some held

/-- An installation takes a begun plan further: it passes over what is there and goes on
behind it, wherever it is cut. -/
theorem begun_install (retains : wire.Retains held) (channel : Channel)
    {declarations : List Declaration} {state : σ} (begun : (held state).Begun declarations) :
    (held (install (wire.declare channel) declarations state).2).Begun declarations := by
  obtain ⟨done, left, rfl, declared⟩ := begun
  have passedOver := @held_install_of_has _ _ _ retains channel _ _
    (Holdings.has_of_declareAll? declared)
  rw [install_append]
  rcases again : install (wire.declare channel) done state with ⟨outcome, middle⟩
  rw [again] at passedOver
  cases outcome with
  | error failure => exact ⟨done, left, rfl, declared.trans (congrArg some passedOver.symm)⟩
  | ok =>
      obtain ⟨more, rest, rfl, further⟩ := held_install retains channel left middle
      refine ⟨done ++ more, rest, (List.append_assoc _ _ _).symm, ?_⟩
      rw [Holdings.declareAll?_append, declared, Option.bind_some, ← further, passedOver]

/-- A plan that has begun is allowed from the start, and comes out as if nothing were there. -/
theorem Holdings.Begun.resumed {declarations : List Declaration} {begun whole : Holdings}
    (start : begun.Begun declarations)
    (allowed : Holdings.empty.declareAll? declarations = some whole) :
    begun.declareAll? declarations = some whole := by
  obtain ⟨done, left, rfl, declared⟩ := start
  have again : begun.declareAll? done = some begun := by
    have has := Holdings.has_of_declareAll? declared
    clear declared allowed
    induction done with
    | nil => rfl
    | cons declaration done ih =>
        rw [Holdings.declareAll?, has declaration List.mem_cons_self, Option.bind_some]
        exact ih fun each member => has each (List.mem_cons_of_mem _ member)
  rw [Holdings.declareAll?_append, declared, Option.bind_some] at allowed
  rw [Holdings.declareAll?_append, again, Option.bind_some, allowed]

end Cut

/-! ## Registrations that are cut -/

section Resuming

variable {σ : Type} {held : σ → Holdings} {classes : List MessageClass}

/-- What a registration of classes declares. -/
def registration (classes : List MessageClass) : List Declaration :=
  (Plan.ofClasses (enabledClasses classes)).declarations

/-- The worlds that registrations of the same classes leave behind, one after the other, on a
broker that was empty. Each of them may have a connection of its own or none, and a broker that
breaks off wherever it likes; what happens in between leaves alone what the broker holds. -/
inductive Attempted (held : σ → Holdings) (classes : List MessageClass) : σ → Prop where
  | empty {world : σ} (nothing : held world = .empty) : Attempted held classes world
  | registered {world : σ} (earlier : Attempted held classes world) {wire : Wire σ}
      (retains : wire.Retains held) (manager : Manager) :
      Attempted held classes
        (Manager.install wire (registration classes) (manager, world)).2.2
  | between {world next : σ} (earlier : Attempted held classes world)
      (same : held next = held world) : Attempted held classes next

/-- What is there is always the front of the plan. -/
theorem begun_of_attempted {world : σ} (attempted : Attempted held classes world) :
    (held world).Begun (registration classes) := by
  induction attempted with
  | empty nothing => exact ⟨[], _, rfl, congrArg some nothing.symm⟩
  | @registered world earlier wire retains manager begun =>
      cases connected : manager.link with
      | none =>
          rw [Manager.install, connected]
          exact begun
      | some link =>
          simp only [Manager.install, connected]
          exact begun_install retains link.produce begun
  | between earlier same begun =>
      rw [same]
      exact begun

/-- A registration that nothing hinders comes out as if nothing had been there. -/
theorem registered_of_begun {wire : Wire σ} (retains : wire.Retains held)
    (obliges : wire.Obliges held) {manager : Manager} (connected : manager.link.isSome = true)
    {world : σ} (begun : (held world).Begun (registration classes)) :
    ∃ next, Manager.install wire (registration classes) (manager, world) =
        (.ok (), manager, next) ∧
      held next = .ofPlan (Plan.ofClasses (enabledClasses classes)) := by
  obtain ⟨link, present⟩ := Option.isSome_iff_exists.mp connected
  have whole := begun.resumed (Plan.declareAll?_declarations (enabledClasses classes))
  obtain ⟨next, installed⟩ := @install_of_obliges _ _ _ retains.toRespects obliges link.produce
    world (registration classes) (by rw [whole]; rfl)
  refine ⟨next, by simp only [Manager.install, present, installed], ?_⟩
  have kept := install_of_respects retains.toRespects installed
  exact Option.some.inj (kept.symm.trans whole)

/-- **A registration resumes where earlier ones were cut.** Any number of registrations of the
same classes were cut, each anywhere, on a broker that was empty. One that the broker does not
hinder succeeds; the broker then holds the plan of the classes that are switched on and nothing
else, as after a single registration on an empty broker, no name and no binding twice; and to
register again changes nothing, even if it is cut. -/
theorem registration_resumes {world : σ} (attempted : Attempted held classes world)
    {wire : Wire σ} (retains : wire.Retains held) (obliges : wire.Obliges held)
    {manager : Manager} (connected : manager.link.isSome = true) :
    ∃ next, Manager.install wire (registration classes) (manager, world) =
        (.ok (), manager, next) ∧
      held next = .ofPlan (Plan.ofClasses (enabledClasses classes)) ∧
      (∀ start, held start = .empty →
        ∃ once, Manager.install wire (registration classes) (manager, start) =
            (.ok (), manager, once) ∧
          held once = held next) ∧
      (held next).Single ∧
      ∀ (again : Wire σ) (other : Manager), again.Retains held →
        held (Manager.install again (registration classes) (other, next)).2.2 = held next ∧
        (again.Obliges held → other.link.isSome = true →
          (Manager.install again (registration classes) (other, next)).1 = .ok ()) := by
  obtain ⟨next, installed, holds⟩ :=
    registered_of_begun retains obliges connected (begun_of_attempted attempted)
  refine ⟨next, installed, holds, ?_, ?_, ?_⟩
  · intro start nothing
    -- A single registration on an empty broker is a resumption of none.
    have unbegun : (held start).Begun (registration classes) :=
      begun_of_attempted (.empty nothing)
    obtain ⟨once, alone, same⟩ := registered_of_begun retains obliges connected unbegun
    exact ⟨once, alone, same.trans holds.symm⟩
  · rw [holds]
    exact Holdings.single_ofPlan
  · intro again other retains'
    have has : ∀ declaration ∈ registration classes, (held next).Has declaration := by
      rw [holds]
      exact Holdings.has_of_declareAll? (Plan.declareAll?_declarations _)
    constructor
    · cases there : other.link with
      | none => rw [Manager.install, there]
      | some link =>
          simp only [Manager.install, there]
          exact held_install_of_has retains' has
    · intro obliges' connected'
      have begun : (held next).Begun (registration classes) :=
        ⟨registration classes, [], (List.append_nil _).symm, by
          rw [holds]
          exact Plan.declareAll?_declarations _⟩
      obtain ⟨after, registered, -⟩ := registered_of_begun retains' obliges' connected' begun
      rw [registered]

/-! ## Poles -/

/-- A broker that holds what it was asked for, and refuses one declaration. -/
def Holdings.refusing (refused : Declaration) : Wire Holdings :=
  { Holdings.wire with
    declare := fun _ declaration held =>
      if declaration = refused then (false, held) else held.answer declaration }

theorem Holdings.answer_refused {held next : Holdings} {declaration : Declaration}
    (refused : held.answer declaration = (false, next)) : next = held := by
  rw [answer] at refused
  split at refused <;> cases refused
  rfl

theorem Holdings.wire_retains : Holdings.wire.Retains id :=
  { Holdings.wire_respects with
    refused := fun _ _ _ _ refused => .inl (answer_refused refused) }

theorem Holdings.refusing_retains (refused : Declaration) :
    (Holdings.refusing refused).Retains id where
  accepted channel declaration state next accepted := by
    by_cases same : declaration = refused
    · simp [refusing, same] at accepted
    · simp only [refusing, if_neg same] at accepted
      exact Holdings.wire_respects.accepted channel declaration state next accepted
  refused channel declaration state next told := by
    by_cases same : declaration = refused
    · simp only [refusing, if_pos same, Prod.mk.injEq, true_and] at told
      exact .inl told.symm
    · simp only [refusing, if_neg same] at told
      exact .inl (answer_refused told)

/-- What is left by a registration that breaks off before the queue in which messages wait, and
by another one that breaks off before the last binding. -/
def brokenOffTwice : Holdings :=
  (Manager.install (Holdings.refusing (.binding ⟨"junk", "junk", "junk"⟩))
    (registration [ticks, tocks])
    (joined, (Manager.install (Holdings.refusing (.queue ⟨"later", true, some 1000,
      some ("ticks", "tick")⟩)) (registration [ticks, tocks]) (joined, .empty)).2.2)).2.2

/-- Two registrations break off, and the third one resumes. -/
theorem registration_resumes_brokenOffTwice :
    brokenOffTwice ≠ .ofPlan (Plan.ofClasses (enabledClasses [ticks, tocks])) ∧
    ∃ next, Manager.install Holdings.wire (registration [ticks, tocks])
        (joined, brokenOffTwice) = (.ok (), joined, next) ∧
      next = .ofPlan (Plan.ofClasses (enabledClasses [ticks, tocks])) ∧ next.Single := by
  have first : Attempted id [ticks, tocks] Holdings.empty := .empty rfl
  have second := Attempted.registered first (Holdings.refusing_retains
    (.queue ⟨"later", true, some 1000, some ("ticks", "tick")⟩)) joined
  have third := Attempted.registered second (Holdings.refusing_retains
    (.binding ⟨"junk", "junk", "junk"⟩)) joined
  obtain ⟨next, registered, holds, -, single, -⟩ :=
    @registration_resumes _ _ _ _ third _ Holdings.wire_retains Holdings.wire_obliges joined rfl
  refine ⟨?_, next, registered, holds, single⟩
  decide

end Resuming

end Redelivery
