import Redelivery.Proofs.SwitchedOff
import Redelivery.Proofs.Topology.Occurrences
/-!
# How a registration ends

A registration asks for one declaration of its plan after the other. It ends with the first that
the broker refuses, and then it has asked for this one and for what stands before it, and for
nothing else; its failure names what was refused. Or nothing is refused, and it has asked for the
whole plan. What the broker grants on the way is said by `Grants`, whatever broker it is.

A plan can be asked for in its order: whatever a declaration refers to was declared before it.

* `install_of_refused`, `install_of_granted`: the two ends of an installation.
* `granted_or_refused`: there is no third one.
* `Plan.grounded_declarations`: the bindings and the dead-letter targets of a plan lead to what the
  plan declares before them.
* `registration_ends_at_refusal`: all of it, for the classes of an application.
-/

namespace Redelivery

set_option autoImplicit false

/-! ## What a broker grants -/

section Granting

variable {σ : Type} {declare : Declaration → σ → Bool × σ} {before after : List Declaration}
  {declaration : Declaration} {world middle next : σ}

/-- A broker accepts one declaration after the other, from one state of the world to another. -/
inductive Grants (declare : Declaration → σ → Bool × σ) : List Declaration → σ → σ → Prop where
  | nothing (world : σ) : Grants declare [] world world
  | accepted {declaration : Declaration} {rest : List Declaration} {world middle next : σ}
      (first : declare declaration world = (true, middle)) (others : Grants declare rest middle next) :
      Grants declare (declaration :: rest) world next

theorem install_of_granted (granted : Grants declare before world next) :
    install declare before world = (.ok (), next) := by
  induction granted with
  | nothing world => rfl
  | accepted first others ih =>
      rw [install, first]
      exact ih

/-- An installation ends at a refusal, with the failure of what was refused. -/
theorem install_of_refused (granted : Grants declare before world middle)
    (refused : declare declaration middle = (false, next)) :
    install declare (before ++ declaration :: after) world = (.error declaration.failure, next) := by
  simp only [install_append, install_of_granted granted, install, refused]

/-- Everything is granted, or something is refused behind what was granted. -/
theorem granted_or_refused (declare : Declaration → σ → Bool × σ) (declarations : List Declaration)
    (world : σ) :
    (∃ next, Grants declare declarations world next) ∨
      ∃ before declaration after middle next, declarations = before ++ declaration :: after ∧
        Grants declare before world middle ∧ declare declaration middle = (false, next) := by
  induction declarations generalizing world with
  | nil => exact .inl ⟨world, .nothing world⟩
  | cons declaration rest ih =>
      rcases told : declare declaration world with ⟨_ | _, middle⟩
      · exact .inr ⟨[], declaration, rest, world, middle, rfl, .nothing world, told⟩
      · rcases ih middle with ⟨next, granted⟩ | ⟨before, refused, after, later, next, split, granted, no⟩
        · exact .inl ⟨next, .accepted told granted⟩
        · refine .inr ⟨declaration :: before, refused, after, later, next, ?_, .accepted told granted, no⟩
          rw [split, List.cons_append]

theorem Grants.overheard {wire : Wire σ} {channel : Channel}
    (granted : Grants (wire.declare channel) before world next) (heard : List Request) :
    Grants (wire.overheard.declare channel) before (world, heard)
      (next, heard ++ before.map (.declare channel)) := by
  induction granted generalizing heard with
  | nothing world =>
      rw [List.map_nil, List.append_nil]
      exact .nothing _
  | @accepted declaration rest world middle next first others ih =>
      have told : wire.overheard.declare channel declaration (world, heard) =
          (true, middle, heard ++ [.declare channel declaration]) := by
        rw [Wire.overheard_declare, first]
      rw [List.map_cons, List.append_cons]
      exact .accepted told (ih _)

end Granting

/-- A failure tells what was refused: it is of its kind and bears its name. -/
inductive Declaration.ToldBy : Declaration → Failure → Prop where
  | exchange (definition : Exchange) :
      ToldBy (.exchange definition) (.declaringExchange definition.name)
  | queue (definition : Queue) : ToldBy (.queue definition) (.declaringQueue definition.name)
  | binding (definition : Binding) :
      ToldBy (.binding definition) (.bindingQueue definition.exchange definition.queue)

theorem Declaration.toldBy_failure (declaration : Declaration) :
    declaration.ToldBy declaration.failure := by
  cases declaration with
  | exchange definition => exact .exchange definition
  | queue definition => exact .queue definition
  | binding definition => exact .binding definition

/-! ## Plans that can be asked for in their order -/

/-- Whatever a declaration of a list refers to was declared before it. -/
structure Grounded (declarations : List Declaration) : Prop where
  /-- A binding leads from an exchange to a queue. -/
  bindings : ∀ before binding after, declarations = before ++ .binding binding :: after →
    (∃ exchange, .exchange exchange ∈ before ∧ exchange.name = binding.exchange) ∧
      ∃ queue, .queue queue ∈ before ∧ queue.name = binding.queue
  /-- What a queue drops goes to an exchange. -/
  deadLetters : ∀ before queue after target key, declarations = before ++ .queue queue :: after →
    queue.deadLetter = some (target, key) →
      ∃ exchange, .exchange exchange ∈ before ∧ exchange.name = target

namespace Plan

variable {classes : List MessageClass}

theorem behind_front {τ : Type} {front back before after : List τ} {item : τ}
    (split : front ++ back = before ++ item :: after) (other : item ∉ front) :
    item ∈ back ∧ ∀ earlier ∈ front, earlier ∈ before := by
  rcases List.append_eq_append_iff.mp split with ⟨more, rfl, rfl⟩ | ⟨more, rfl, rest⟩
  · refine ⟨List.mem_append_right more List.mem_cons_self, ?_⟩
    intro earlier member
    exact List.mem_append_left more member
  · cases more with
    | nil =>
        rw [List.nil_append] at rest
        rw [← rest, List.append_nil]
        exact ⟨List.mem_cons_self, fun _ member => member⟩
    | cons first more =>
        obtain ⟨rfl, -⟩ := List.cons.inj rest
        exact absurd (List.mem_append_right before List.mem_cons_self) other

theorem target_of_everything {queue : Queue} {target key : String}
    (member : queue ∈ (everything classes).queues) (leads : queue.deadLetter = some (target, key)) :
    target ∈ (everything classes).exchanges.map Exchange.name := by
  obtain ⟨cls, listed, own⟩ := List.mem_flatMap.mp member
  have near : target = cls.deadLetter.exchange ∨ target = cls.direct.exchange := by
    simp only [RetryCycle.ofClass, List.mem_cons, List.not_mem_nil, or_false] at own
    rcases own with rfl | rfl | rfl
    · exact .inl (congrArg Prod.fst (Option.some.inj leads)).symm
    · exact .inr (congrArg Prod.fst (Option.some.inj leads)).symm
    · cases leads
  rw [names_exchanges]
  rcases near with rfl | rfl
  · exact List.mem_map.mpr ⟨cls.deadLetter, List.mem_flatMap.mpr ⟨cls, listed, by simp⟩, rfl⟩
  · exact List.mem_map.mpr ⟨cls.direct, List.mem_flatMap.mpr ⟨cls, listed, by simp⟩, rfl⟩

theorem declared_of_needed {τ : Type} {key : τ → String} {ask : τ → Declaration} {items : List τ}
    {before : List Declaration} {name : String}
    (front : ∀ declaration ∈ (collect key items).map ask, declaration ∈ before)
    (needed : name ∈ items.map key) : ∃ item, ask item ∈ before ∧ key item = name := by
  obtain ⟨item, kept, named⟩ := List.mem_map.mp ((mem_keys_collect items name).mpr needed)
  exact ⟨item, front _ (List.mem_map_of_mem kept), named⟩

/-- A plan of classes can be asked for in its order. -/
theorem grounded_declarations (classes : List MessageClass) :
    Grounded (ofClasses classes).declarations := by
  rw [ofClasses_eq, declarations]
  let exchanges := collect Exchange.name (everything classes).exchanges
  let queues := collect Queue.name (everything classes).queues
  let bindings := collect id (everything classes).bindings
  constructor
  · intro before binding after split
    -- no binding stands among the exchanges and the queues, so all of these come before it
    obtain ⟨listed, front⟩ := behind_front split (by simp)
    have member : binding ∈ bindings := by simpa using listed
    obtain ⟨exchange, queue⟩ := ends_of_everything classes (mem_collect_id.mp member)
    constructor
    · apply declared_of_needed _ exchange
      intro declaration first
      exact front declaration (List.mem_append_left _ first)
    · apply declared_of_needed _ queue
      intro declaration second
      exact front declaration (List.mem_append_right _ second)
  · intro before queue after target key split leads
    rw [List.append_assoc] at split
    obtain ⟨listed, front⟩ := behind_front split (by simp)
    have member : queue ∈ queues := by simpa using listed
    exact declared_of_needed front (target_of_everything (mem_of_mem_collect member) leads)

end Plan

/-! ## Registrations -/

section Registering

variable {σ : Type} {wire : Wire σ} {manager : Manager} {link : Link}

theorem split_at {τ : Type} {items : List τ} {count : Nat} {item : τ}
    (found : items[count]? = some item) :
    items.take count ++ item :: items.drop (count + 1) = items := by
  obtain ⟨within, rfl⟩ := List.getElem?_eq_some_iff.mp found
  rw [List.getElem_cons_drop, List.take_append_drop]

/-- **A registration ends at the first refusal.** If the broker grants the first `count`
declarations of the plan and refuses the next one, the registration has asked for these and for
nothing else, and its failure tells what was refused; if it grants them all, all were asked for and
the registration succeeds. One of the two happens. The plan is the exchanges, then the queues, then
the bindings of the classes that are switched on, the first of everything in the order in which
it came up, and whatever a declaration refers to was declared before it. -/
theorem registration_ends_at_refusal (connected : manager.link = some link) (world : σ)
    (heard : List Request) (classes : List MessageClass) :
    (∀ count declaration middle next, (registration classes)[count]? = some declaration →
      Grants (wire.declare link.produce) ((registration classes).take count) world middle →
      wire.declare link.produce declaration middle = (false, next) →
      ∃ failure, declaration.ToldBy failure ∧
        Manager.install wire.overheard (registration classes) (manager, world, heard) =
          (.error failure, manager, next,
            heard ++ ((registration classes).take (count + 1)).map (.declare link.produce))) ∧
    (∀ next, Grants (wire.declare link.produce) (registration classes) world next →
      Manager.install wire.overheard (registration classes) (manager, world, heard) =
        (.ok (), manager, next, heard ++ (registration classes).map (.declare link.produce))) ∧
    ((∃ next, Grants (wire.declare link.produce) (registration classes) world next) ∨
      ∃ count declaration middle next, (registration classes)[count]? = some declaration ∧
        Grants (wire.declare link.produce) ((registration classes).take count) world middle ∧
        wire.declare link.produce declaration middle = (false, next)) ∧
    (∃ exchanges queues bindings, registration classes =
        exchanges.map .exchange ++ queues.map .queue ++ bindings.map .binding ∧
      Plan.KeepsFirsts Exchange.name (Plan.everything (enabledClasses classes)).exchanges exchanges ∧
      Plan.KeepsFirsts Queue.name (Plan.everything (enabledClasses classes)).queues queues ∧
      Plan.KeepsFirsts id (Plan.everything (enabledClasses classes)).bindings bindings) ∧
    Grounded (registration classes) := by
  refine ⟨?_, ?_, ?_, ?_, Plan.grounded_declarations _⟩
  · intro count declaration middle next found granted refused
    refine ⟨declaration.failure, declaration.toldBy_failure, ?_⟩
    have told : wire.overheard.declare link.produce declaration
        (middle, heard ++ ((registration classes).take count).map (.declare link.produce)) =
          (false, next, heard ++ ((registration classes).take count).map (.declare link.produce) ++
            [.declare link.produce declaration]) := by
      rw [Wire.overheard_declare, refused]
    -- The plan is cut at the refused declaration, and put together again once it has ended there.
    have ended := @install_of_refused _ _ _ ((registration classes).drop (count + 1)) _ _ _ _
      (granted.overheard heard) told
    rw [split_at found] at ended
    rw [List.take_add_one, found]
    simp only [Manager.install, connected, ended, Option.toList_some, List.map_append,
      List.map_singleton, List.append_assoc]
  · intro next granted
    simp only [Manager.install, connected, install_of_granted (granted.overheard heard)]
  · rcases granted_or_refused (wire.declare link.produce) (registration classes) world with
      whole | ⟨before, declaration, after, middle, next, split, granted, refused⟩
    · exact .inl whole
    · refine .inr ⟨before.length, declaration, middle, next, ?_, ?_, refused⟩
      · rw [split, List.getElem?_append_right (Nat.le_refl _), Nat.sub_self, List.getElem?_cons_zero]
      · rwa [split, List.take_left]
  · refine ⟨_, _, _, rfl, ?_⟩
    rw [Plan.ofClasses_eq]
    exact ⟨Plan.keepsFirsts_collect _, Plan.keepsFirsts_collect _, Plan.keepsFirsts_collect _⟩

/-- A broker that refuses the queue in which messages wait is asked for the five exchanges, for the
first queue and for this one, and not for what stands behind it. -/
theorem registration_ends_at_refusal_later :
    ∃ held, Manager.install (Holdings.refusing (.queue ⟨"later", true, some 1000,
        some ("ticks", "tick")⟩)).overheard (registration [ticks, tocks]) (joined, .empty, []) =
      (.error (.declaringQueue "later"), joined, held,
        ((registration [ticks, tocks]).take 7).map (.declare ⟨0, 1⟩)) := by
  obtain ⟨ends, -⟩ := @registration_ends_at_refusal _ (Holdings.refusing (.queue ⟨"later", true,
    some 1000, some ("ticks", "tick")⟩)) joined _ rfl .empty [] [ticks, tocks]
  obtain ⟨failure, told, ended⟩ := ends 6
    (.queue ⟨"later", true, some 1000, some ("ticks", "tick")⟩) _ _ (by decide)
    (.accepted rfl (.accepted rfl (.accepted rfl (.accepted rfl (.accepted rfl (.accepted rfl
      (.nothing _))))))) rfl
  cases told
  exact ⟨_, ended⟩

end Registering

end Redelivery
