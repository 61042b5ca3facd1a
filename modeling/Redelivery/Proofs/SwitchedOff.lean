import Redelivery.Proofs.Connection.Observer
import Redelivery.Proofs.Topology.Resumption
import Redelivery.Subscription.Opening
/-!
# Classes that are switched off

A class that is switched off might as well not be there. It has names, which it may share with
other classes, and definitions, which come first under these names if the class does; but it
is left out before anything is collected, so the broker is asked for exactly what it would be
asked for without it. Its subscription is none, and every publication of it is refused before
the connection is looked at.

What a broker sees is said by `Wire.overheard`, which writes every request down.

* `registration_of_prunes`: a registration does not depend on classes that are switched off.
* `install_overheard`: what a broker hears of a registration.
* `PublishRequest.send_switchedOff`: how a request for such a class fails, over any publisher.
* `switched_off_unseen`: all entrances together.
-/

namespace Redelivery

set_option autoImplicit false

variable {σ : Type}

/-! ## What a broker hears -/

inductive Request where
  | dial
  | openChannel (connection : ConnectionId)
  | disconnect (connection : ConnectionId) (reason : String)
  | declare (channel : Channel) (declaration : Declaration)
  | publish (channel : Channel) (publication : Publication)
  | limitPrefetch (channel : Channel) (count : Nat)
  | startConsumer (channel : Channel) (queue : String)
  | cancelConsumer (channel : Channel) (tag : ConsumerTag)

def Request.observer : Observer Request where
  dial _ := [.dial]
  openChannel connection _ := [.openChannel connection]
  disconnect connection reason _ := [.disconnect connection reason]
  declare channel declaration _ := [.declare channel declaration]
  publish channel publication _ := [.publish channel publication]
  limitPrefetch channel count _ := [.limitPrefetch channel count]
  startConsumer channel queue _ := [.startConsumer channel queue]
  cancelConsumer channel tag _ := [.cancelConsumer channel tag]

/-- The wire with every request written down behind the earlier ones. -/
def Wire.overheard (wire : Wire σ) : Wire (σ × List Request) := wire.observed Request.observer

@[simp] theorem Wire.overheard_declare (wire : Wire σ) (channel : Channel)
    (declaration : Declaration) (state : σ × List Request) :
    wire.overheard.declare channel declaration state =
      ((wire.declare channel declaration state.1).1, (wire.declare channel declaration state.1).2,
        state.2 ++ [.declare channel declaration]) := rfl

theorem install_overheard (wire : Wire σ) (channel : Channel) (declarations : List Declaration)
    (world : σ) (heard : List Request) :
    ∃ asked, asked <+: declarations ∧
      install (wire.overheard.declare channel) declarations (world, heard) =
        ((install (wire.declare channel) declarations world).1,
          (install (wire.declare channel) declarations world).2,
          heard ++ asked.map (.declare channel)) := by
  induction declarations generalizing world heard with
  | nil => exact ⟨[], List.prefix_rfl, by simp [install]⟩
  | cons declaration rest ih =>
      rcases told : wire.declare channel declaration world with ⟨_ | _, next⟩
      · exact ⟨[declaration], ⟨rest, rfl⟩, by simp [install, told]⟩
      · obtain ⟨asked, front, goesOn⟩ := ih next (heard ++ [.declare channel declaration])
        refine ⟨declaration :: asked, List.cons_prefix_cons.mpr ⟨rfl, front⟩, ?_⟩
        simp [install, told, goesOn]

/-! ## Registrations -/

/-- What a class needs on the broker. -/
def MessageClass.needs (cls : MessageClass) : List Declaration :=
  (RetryCycle.ofClass cls).exchanges.map .exchange ++ (RetryCycle.ofClass cls).queues.map .queue ++
    (RetryCycle.ofClass cls).bindings.map .binding

theorem Plan.mem_of_mem_collect {τ κ : Type} [DecidableEq κ] {key : τ → κ} {items : List τ}
    {item : τ} (member : item ∈ collect key items) : item ∈ items := by
  have found := find?_of_mem (nodup_collect items) member
  rw [find?_collect] at found
  exact List.mem_of_find?_eq_some found

/-- Whatever a plan declares, one of its classes needs. -/
theorem Plan.needed_of_mem_declarations {classes : List MessageClass} {declaration : Declaration}
    (member : declaration ∈ (ofClasses classes).declarations) :
    ∃ cls ∈ classes, declaration ∈ cls.needs := by
  simp only [ofClasses_eq, declarations, List.mem_append, List.mem_map] at member
  rcases member with (⟨exchange, kept, rfl⟩ | ⟨queue, kept, rfl⟩) | ⟨binding, kept, rfl⟩
  · obtain ⟨cls, own, needed⟩ := List.mem_flatMap.mp (mem_of_mem_collect kept)
    exact ⟨cls, own, by simp [MessageClass.needs, needed]⟩
  · obtain ⟨cls, own, needed⟩ := List.mem_flatMap.mp (mem_of_mem_collect kept)
    exact ⟨cls, own, by simp [MessageClass.needs, needed]⟩
  · obtain ⟨cls, own, needed⟩ := List.mem_flatMap.mp (mem_of_mem_collect kept)
    exact ⟨cls, own, by simp [MessageClass.needs, needed]⟩

/-- Some of the classes that are switched off are deleted from a list; the rest stay as they
stand. -/
inductive Prunes : List MessageClass → List MessageClass → Prop where
  | nil : Prunes [] []
  | keep {classes kept : List MessageClass} (cls : MessageClass) (rest : Prunes classes kept) :
      Prunes (cls :: classes) (cls :: kept)
  | delete {cls : MessageClass} {classes kept : List MessageClass} (off : cls.enabled = false)
      (rest : Prunes classes kept) : Prunes (cls :: classes) kept

theorem prunes_filter (classes : List MessageClass) :
    Prunes classes (classes.filter MessageClass.enabled) := by
  induction classes with
  | nil => exact .nil
  | cons cls rest ih =>
      cases on : cls.enabled with
      | true =>
          rw [List.filter_cons_of_pos on]
          exact .keep cls ih
      | false =>
          rw [List.filter_cons_of_neg (by simp [on])]
          exact .delete on ih

theorem enabledClasses_of_prunes {classes kept : List MessageClass} (prunes : Prunes classes kept) :
    enabledClasses kept = enabledClasses classes := by
  induction prunes with
  | nil => rfl
  | keep cls rest ih =>
      simp only [enabledClasses, List.filter_cons] at ih ⊢
      rw [ih]
  | delete off rest ih =>
      rw [ih, enabledClasses, enabledClasses, List.filter_cons_of_neg (by simp [off])]

/-- A registration does not depend on classes that are switched off, whatever names they
share with others and wherever they stand. -/
theorem registration_of_prunes {classes kept : List MessageClass} (prunes : Prunes classes kept) :
    registration kept = registration classes := by
  rw [registration, registration, enabledClasses_of_prunes prunes]

/-! ## Publications -/

namespace PublishRequest

/-- Why a request for a class that is switched off fails: a payload that cannot be written is
found first where the payload is written first, and else the class is named by the queue where
the message would have gone. -/
def refusal (cls : MessageClass) : PublishRequest → Failure
  | direct _ | directAfter _ _ | directJsonIncremented _ _ => .classDisabled cls.direct.queue
  | junk _ => .classDisabled cls.junk.queue
  | directJson payload =>
      match payload.encode? with
      | .ok _ => .classDisabled cls.direct.queue
      | .error failure => failure
  | junkJson payload =>
      match payload.encode? with
      | .ok _ => .classDisabled cls.junk.queue
      | .error failure => failure

variable {cls : MessageClass} (off : cls.enabled = false) (publisher : Publisher σ)
  (context : Trace.Context) (payload : Octets) (state : σ)

include off

theorem sendDirect_switchedOff (delay : Int) :
    sendDirect publisher cls payload delay context state =
      (.error (.classDisabled cls.direct.queue), state) := by
  simp [sendDirect, Publication.direct, off]

theorem sendJunk_switchedOff :
    sendJunk publisher cls payload context state =
      (.error (.classDisabled cls.junk.queue), state) := by
  simp [sendJunk, Publication.junk, off]

/-- No request for a class that is switched off reaches the publisher. -/
theorem send_switchedOff (request : PublishRequest) :
    request.send publisher cls context state = (.error (request.refusal cls), state) := by
  cases request with
  | direct octets => exact sendDirect_switchedOff off publisher context octets state cls.delay
  | directAfter octets delay =>
      exact sendDirect_switchedOff off publisher context octets state delay
  | junk octets => exact sendJunk_switchedOff off publisher context octets state
  | directJson content =>
      simp only [send, refusal]
      cases content.encode? with
      | ok octets => exact sendDirect_switchedOff off publisher context octets state cls.delay
      | error failure => rfl
  | directJsonIncremented content times => simp [send, refusal, off]
  | junkJson content =>
      simp only [send, refusal]
      cases content.encode? with
      | ok octets => exact sendJunk_switchedOff off publisher context octets state
      | error failure => rfl

end PublishRequest

/-! ## All entrances -/

/-- **Classes that are switched off are not seen by the broker**, over any wire, in any state of
the connection. To delete all or some of them changes neither what a registration asks for, in
its order, nor what comes of it, and all that it asks for is needed by a class that is on; their
subscriptions are none, and their publications fail, with no request at all. -/
theorem switched_off_unseen (wire : Wire σ) (manager : Manager) (world : σ)
    (heard : List Request) :
    (∀ classes, Prunes classes (classes.filter MessageClass.enabled) ∧
      ∀ kept, Prunes classes kept →
        Manager.install wire.overheard (registration kept) (manager, world, heard) =
          Manager.install wire.overheard (registration classes) (manager, world, heard)) ∧
    (∀ classes, ∃ asked,
      (Manager.install wire.overheard (registration classes) (manager, world, heard)).2.2.2 =
        heard ++ asked ∧
      ∀ request ∈ asked, ∃ channel declaration, request = .declare channel declaration ∧
        ∃ cls ∈ classes, cls.enabled = true ∧ declaration ∈ cls.needs) ∧
    ∀ cls : MessageClass, cls.enabled = false →
      (∀ prefetch, Subscription.opened wire.overheard cls prefetch (manager, world, heard) =
        (.ok none, manager, world, heard)) ∧
      ∀ (request : PublishRequest) context,
        request.send (Manager.publish wire.overheard) cls context (manager, world, heard) =
          (.error (request.refusal cls), manager, world, heard) := by
  refine ⟨fun classes => ⟨prunes_filter classes, fun kept prunes => ?_⟩, fun classes => ?_,
    fun cls off => ⟨fun prefetch => ?_, fun request context => ?_⟩⟩
  · rw [registration_of_prunes prunes]
  -- Of the plan at most a front is asked for, as a refusal ends the registration.
  · cases connected : manager.link with
    | none => exact ⟨[], by simp [Manager.install, connected], nofun⟩
    | some link =>
        obtain ⟨asked, front, installed⟩ :=
          install_overheard wire link.produce (registration classes) world heard
        refine ⟨asked.map (.declare link.produce), ?_, fun request member => ?_⟩
        · simp only [Manager.install, connected, installed]
        · obtain ⟨declaration, listed, rfl⟩ := List.mem_map.mp member
          obtain ⟨cls, taking, needed⟩ := Plan.needed_of_mem_declarations (front.subset listed)
          obtain ⟨own, on⟩ := mem_enabledClasses.mp taking
          exact ⟨link.produce, declaration, rfl, cls, own, on, needed⟩
  · simp [Subscription.opened, off]
  · exact PublishRequest.send_switchedOff off _ context _ request

/-! ## Poles -/

/-- A class that would be first under the names that it shares with `ticks`, on other terms. -/
def hiddenTicks : MessageClass := { ticks with enabled := false, kind := .fanout, ttl := 1 }

/-- The class that is switched off stands first under every name, and if it were not left out
its terms would win; the broker hears the same as without it. -/
theorem switched_off_unseen_hiddenTicks :
    Prunes [hiddenTicks, ticks] [ticks] ∧ hiddenTicks.enabled = false ∧
      (Plan.ofClasses [hiddenTicks, ticks]).declarations ≠ registration [ticks] ∧
      Manager.install Holdings.wire.overheard (registration [ticks]) (joined, .empty, []) =
        Manager.install Holdings.wire.overheard (registration [hiddenTicks, ticks])
          (joined, .empty, []) ∧
      Subscription.opened Holdings.wire.overheard hiddenTicks 1 (joined, .empty, []) =
        (.ok none, joined, .empty, []) ∧
      (PublishRequest.junk [1]).send (Manager.publish Holdings.wire.overheard) hiddenTicks []
          (joined, .empty, []) =
        (.error (.classDisabled "junk"), joined, .empty, []) := by
  have prunes : Prunes [hiddenTicks, ticks] [ticks] := .delete rfl (.keep ticks .nil)
  obtain ⟨registers, -, entrances⟩ := switched_off_unseen Holdings.wire joined .empty []
  obtain ⟨subscribes, publishes⟩ := entrances hiddenTicks rfl
  exact ⟨prunes, rfl, by decide, (registers _).2 _ prunes, subscribes 1, publishes (.junk [1]) []⟩

end Redelivery
