import Redelivery.Connection.Manager
import Redelivery.Proofs.Delivery.Calls
import Redelivery.Rehearsal.Broker
/-!
# What a publish that succeeded is worth

A publish succeeds when its client answers with a confirmation, whichever that is. A client
answers a positive confirmation only on a channel that was asked to confirm, and there is no
request by which a channel is asked. So the success of a publish says that the message was sent,
and does not say that the broker has it; and a message that is given up is removed from its
queue on the strength of such a success.

* `Wire.recorded`: a wire of which every publish is written down with its answer.
* `Ledger`: a run of connecting, publishing and giving up messages over a recorded wire.
* `published_unconfirmed`: what a publish that succeeded was answered, and what has become of
  the copies of removed messages.
* `refusedCopy_removed`: a message is removed although the broker has refused its copy.
-/

namespace Redelivery

set_option autoImplicit false

open Delivery (junkCopy)

/-! ## Recording -/

/-- A publish as it was sent, with the answer of the client. -/
structure Sent where
  channel : Channel
  publication : Publication
  answer : Except PublishFault Confirmation

namespace Sent

/-- What was answered with a confirmation, whichever. -/
def taken? (sent : Sent) : Option Publication :=
  match sent.answer with
  | .ok _ => some sent.publication
  | .error _ => none

def confirmed? (sent : Sent) : Option Publication :=
  match sent.answer with
  | .ok .positive => some sent.publication
  | .ok .unasked | .ok .negative | .error _ => none

end Sent

variable {σ : Type}

/-- The wire with every publish written down behind the earlier ones. -/
def Wire.recorded (wire : Wire σ) : Wire (σ × List Sent) where
  dial state :=
    let told := wire.dial state.1
    (told.1, told.2, state.2)
  openChannel connection state :=
    let told := wire.openChannel connection state.1
    (told.1, told.2, state.2)
  disconnect connection reason state :=
    let told := wire.disconnect connection reason state.1
    (told.1, told.2, state.2)
  declare channel declaration state :=
    let told := wire.declare channel declaration state.1
    (told.1, told.2, state.2)
  publish channel publication state :=
    let told := wire.publish channel publication state.1
    (told.1, told.2, state.2 ++ [⟨channel, publication, told.1⟩])
  limitPrefetch channel count state :=
    let told := wire.limitPrefetch channel count state.1
    (told.1, told.2, state.2)
  startConsumer channel queue state :=
    let told := wire.startConsumer channel queue state.1
    (told.1, told.2, state.2)
  cancelConsumer channel tag state :=
    let told := wire.cancelConsumer channel tag state.1
    (told.1, told.2, state.2)

variable (wire : Wire σ) (manager : Manager) (world : σ) (sent : List Sent)

theorem Connecting.step_recorded (point : Connecting) :
    point.step wire.recorded (manager, world, sent) =
      ((point.step wire (manager, world)).1, (point.step wire (manager, world)).2.1,
        (point.step wire (manager, world)).2.2, sent) := by
  cases point with
  | dialing =>
      rcases dialed : wire.dial world with ⟨_ | _, _⟩ <;> simp [step, Wire.recorded, dialed]
  | openingProduce connection =>
      rcases opened : wire.openChannel connection world with ⟨_ | _, _⟩ <;>
        simp [step, Wire.recorded, opened]
  | openingConsume connection produce =>
      rcases opened : wire.openChannel connection world with ⟨_ | _, _⟩ <;>
        simp [step, Wire.recorded, opened]
  | storing link => cases stored : manager.link <;> simp [step, stored]
  | numbering | retiring | withdrawing | finished => rfl

theorem Connecting.steps_recorded (count : Nat) (point : Connecting) (manager : Manager)
    (world : σ) :
    point.steps wire.recorded count (manager, world, sent) =
      ((point.steps wire count (manager, world)).1, (point.steps wire count (manager, world)).2.1,
        (point.steps wire count (manager, world)).2.2, sent) := by
  induction count generalizing point manager world with
  | zero => rfl
  | succ count ih =>
      simp only [steps, step_recorded]
      exact ih _ _ _

namespace Manager

theorem connect_recorded :
    connect wire.recorded (manager, world, sent) =
      ((connect wire (manager, world)).1, (connect wire (manager, world)).2.1,
        (connect wire (manager, world)).2.2, sent) := by
  simp only [connect, Connecting.steps_recorded]

/-- What a publish sends: nothing without a connection, and one message with one. -/
def sending (wire : Wire σ) (publication : Publication) (manager : Manager) (world : σ) :
    List Sent :=
  match manager.link with
  | none => []
  | some link =>
      [⟨link.produce, publication, (wire.publish link.produce publication world).1⟩]

theorem publish_recorded (publication : Publication) :
    publish wire.recorded publication (manager, world, sent) =
      ((publish wire publication (manager, world)).1,
        (publish wire publication (manager, world)).2.1,
        (publish wire publication (manager, world)).2.2,
        sent ++ sending wire publication manager world) := by
  cases inUse : manager.link with
  | none => simp [publish, sending, inUse]
  | some link =>
      rcases told : wire.publish link.produce publication world with ⟨_ | _, _⟩ <;>
        simp [publish, sending, Wire.recorded, inUse, told]

theorem answered_sending {publication : Publication} {each : Sent}
    (member : each ∈ sending wire publication manager world) :
    ∃ world, (wire.publish each.channel each.publication world).1 = each.answer := by
  cases inUse : manager.link with
  | none => simp [sending, inUse] at member
  | some link =>
      simp only [sending, inUse, List.mem_singleton] at member
      subst member
      exact ⟨world, rfl⟩

/-- A publish succeeds exactly if the client answers with a confirmation, whichever it is. -/
theorem publish_ok_iff (publication : Publication) :
    (publish wire publication (manager, world)).1 = .ok () ↔
      ∃ link confirmation, manager.link = some link ∧
        (wire.publish link.produce publication world).1 = .ok confirmation := by
  cases inUse : manager.link with
  | none => simp [publish, inUse]
  | some link =>
      rcases told : wire.publish link.produce publication world with ⟨_ | _, _⟩ <;>
        simp [publish, inUse, told]

theorem taken_of_published {publication : Publication}
    (published : (publish wire publication (manager, world)).1 = .ok ()) :
    (sending wire publication manager world).filterMap Sent.taken? = [publication] := by
  obtain ⟨link, confirmation, inUse, answer⟩ := (publish_ok_iff wire manager world _).mp published
  simp [sending, inUse, Sent.taken?, answer]

end Manager

/-! ## What a broker keeps -/

/-- The client's rule: a channel that was not asked to confirm answers so. No request of a wire
asks one. -/
def Wire.Unasking (wire : Wire σ) : Prop :=
  ∀ channel publication world confirmation,
    (wire.publish channel publication world).1 = .ok confirmation → confirmation = .unasked

/-- A broker that keeps what it has acknowledged, next to all that it has kept before. -/
structure Wire.Keeps (wire : Wire σ) (kept : σ → List Publication) : Prop where
  dial : ∀ world, (kept world).Sublist (kept (wire.dial world).2)
  openChannel : ∀ connection world,
    (kept world).Sublist (kept (wire.openChannel connection world).2)
  disconnect : ∀ connection reason world,
    (kept world).Sublist (kept (wire.disconnect connection reason world).2)
  publish : ∀ channel publication world,
    (kept world).Sublist (kept (wire.publish channel publication world).2)
  confirmed : ∀ channel publication world,
    (wire.publish channel publication world).1 = .ok .positive →
      (kept world ++ [publication]).Sublist (kept (wire.publish channel publication world).2)

section Keeps

variable {wire} {kept : σ → List Publication} (keeps : wire.Keeps kept)

include keeps

theorem Connecting.step_keeps (point : Connecting) :
    (kept world).Sublist (kept (point.step wire (manager, world)).2.2) := by
  cases point with
  | dialing =>
      have dial := keeps.dial world
      rcases dialed : wire.dial world with ⟨_ | _, _⟩ <;> simpa [step, dialed] using dial
  | openingProduce connection | openingConsume connection produce =>
      have opening := keeps.openChannel connection world
      rcases opened : wire.openChannel connection world with ⟨_ | _, _⟩ <;>
        simpa [step, opened] using opening
  | storing link => cases stored : manager.link <;> simp [step, stored]
  | retiring previous => exact keeps.disconnect previous.connection closingReason world
  | withdrawing connection reason => exact keeps.disconnect connection closingReason world
  | numbering | finished => exact List.Sublist.refl _

theorem Connecting.steps_keep (count : Nat) (point : Connecting) (manager : Manager) (world : σ) :
    (kept world).Sublist (kept (point.steps wire count (manager, world)).2.2) := by
  induction count generalizing point manager world with
  | zero => exact List.Sublist.refl _
  | succ count ih => exact (step_keeps manager world keeps point).trans (ih _ _ _)

theorem Manager.connect_keeps :
    (kept world).Sublist (kept (connect wire (manager, world)).2.2) := by
  simp only [connect]
  exact Connecting.steps_keep keeps Connecting.longest .dialing manager world

theorem Manager.publish_keeps (publication : Publication) :
    (kept world ++ (sending wire publication manager world).filterMap Sent.confirmed?).Sublist
      (kept (publish wire publication (manager, world)).2.2) := by
  cases inUse : manager.link with
  | none => simp [publish, sending, inUse]
  | some link =>
      have before := keeps.publish link.produce publication world
      have after := keeps.confirmed link.produce publication world
      rcases told : wire.publish link.produce publication world with ⟨_ | answer, _⟩
      · simpa [publish, sending, Sent.confirmed?, List.filterMap_cons, inUse, told] using before
      · cases answer with
        | positive => simpa [publish, sending, Sent.confirmed?, inUse, told] using after
        | unasked | negative =>
            simpa [publish, sending, Sent.confirmed?, List.filterMap_cons, inUse, told] using before

end Keeps

/-! ## Giving a message up -/

/-- What a message is given up with: publishes over a manager, and any answers to its
acknowledgement and its rejection. -/
def archiveServices (wire : Wire σ) (acknowledged rejected : Outcome) :
    Services (Manager × σ) Unit where
  propagator := .standard
  handle _ _ state := (.done (), state)
  publish := Manager.publish wire
  acknowledge state := (acknowledged, state)
  reject _ state := (rejected, state)

theorem archive_of_disabled {cls : MessageClass} (off : cls.enabled = false)
    (acknowledged rejected : Outcome) (body : Octets) (disposition : Disposition)
    (span : Trace.Span) (state : Manager × σ) :
    (∃ failure, (Delivery.archive (archiveServices wire acknowledged rejected) cls body
      disposition span state).1.ending = .returned (.error failure)) ∧
    (Delivery.archive (archiveServices wire acknowledged rejected) cls body disposition span
      state).2 = state := by
  cases rejected <;>
    simp [Delivery.archive, Desk.archive, Services.desk, PublishRequest.sendJunk,
      Delivery.junk_of_disabled cls body off, archiveServices]

/-- A message that is given up is removed only if the publish of its copy has succeeded. -/
theorem archive_of_enabled {cls : MessageClass} (on : cls.enabled = true)
    (acknowledged rejected : Outcome) (body : Octets) (disposition : Disposition)
    (span : Trace.Span) (state : Manager × σ) :
    ((∃ failure, (Delivery.archive (archiveServices wire acknowledged rejected) cls body
        disposition span state).1.ending = .returned (.error failure)) ∨
      (Manager.publish wire (junkCopy cls body) state).1 = .ok ()) ∧
    (Delivery.archive (archiveServices wire acknowledged rejected) cls body disposition span
      state).2 = (Manager.publish wire (junkCopy cls body) state).2 := by
  rcases told : Manager.publish wire (junkCopy cls body) state with ⟨_ | _, _⟩ <;>
    cases acknowledged <;> cases rejected <;>
    simp [Delivery.archive, Desk.archive, Services.desk, PublishRequest.sendJunk,
      Delivery.junk_of_enabled cls body on, archiveServices, told]

/-! ## Ledgers -/

/-- A run over a recorded wire, with the messages that were removed from their queues after
their copies had gone to junk. -/
structure Ledger (σ : Type) where
  manager : Manager
  world : σ
  sent : List Sent
  removed : List (MessageClass × Octets)

namespace Ledger

variable {ledger : Ledger σ}

def state (ledger : Ledger σ) : Manager × σ × List Sent :=
  (ledger.manager, ledger.world, ledger.sent)

def left (ledger : Ledger σ) (state : Manager × σ × List Sent) : Ledger σ :=
  { ledger with manager := state.1, world := state.2.1, sent := state.2.2 }

/-- A message was given up; it is removed if that went well. -/
def givenUp (ledger : Ledger σ) (cls : MessageClass) (body : Octets) : Ending → Ledger σ
  | .returned (.ok _) => { ledger with removed := ledger.removed ++ [(cls, body)] }
  | .returned (.error _) | .panicked => ledger

/-- Runs of connecting, publishing and giving up messages, in any order. -/
inductive Reachable (wire : Wire σ) : Ledger σ → Prop where
  | fresh (world : σ) : Reachable wire ⟨.fresh, world, [], []⟩
  | connected {ledger : Ledger σ} (earlier : Reachable wire ledger) :
      Reachable wire (ledger.left (Manager.connect wire.recorded ledger.state).2)
  | published {ledger : Ledger σ} (earlier : Reachable wire ledger) (publication : Publication) :
      Reachable wire (ledger.left (Manager.publish wire.recorded publication ledger.state).2)
  | archived {ledger : Ledger σ} (earlier : Reachable wire ledger) (cls : MessageClass)
      (body : Octets) (disposition : Disposition) (span : Trace.Span)
      (acknowledged rejected : Outcome) :
      Reachable wire
        (let told := Delivery.archive (archiveServices wire.recorded acknowledged rejected) cls
          body disposition span ledger.state
        (ledger.left told.2).givenUp cls body told.1.ending)

def copies (ledger : Ledger σ) : List Publication :=
  ledger.removed.map fun message => junkCopy message.1 message.2

/-- What holds of a ledger at every moment: every copy of a removed message was taken, what was
confirmed is kept, and all answers came from the wire. -/
structure Balanced (wire : Wire σ) (kept : σ → List Publication) (ledger : Ledger σ) : Prop where
  removed : ledger.copies.Sublist (ledger.sent.filterMap Sent.taken?)
  kept : (ledger.sent.filterMap Sent.confirmed?).Sublist (kept ledger.world)
  answered : ∀ sent ∈ ledger.sent, ∃ world,
    (wire.publish sent.channel sent.publication world).1 = sent.answer

variable {kept : σ → List Publication}

theorem balanced_connected (keeps : wire.Keeps kept) (balanced : Balanced wire kept ledger) :
    Balanced wire kept (ledger.left (Manager.connect wire.recorded ledger.state).2) := by
  rw [state, Manager.connect_recorded]
  exact ⟨balanced.removed, balanced.kept.trans (Manager.connect_keeps _ _ keeps),
    balanced.answered⟩

theorem balanced_published (keeps : wire.Keeps kept) (balanced : Balanced wire kept ledger)
    (publication : Publication) :
    Balanced wire kept
      (ledger.left (Manager.publish wire.recorded publication ledger.state).2) := by
  rw [state, Manager.publish_recorded]
  refine ⟨?_, ?_, fun sent member => ?_⟩
  · simp only [left, List.filterMap_append]
    exact balanced.removed.trans (List.sublist_append_left _ _)
  · simp only [left, List.filterMap_append]
    exact (balanced.kept.append_right _).trans (Manager.publish_keeps _ _ keeps publication)
  · rcases List.mem_append.mp member with old | new
    · exact balanced.answered sent old
    · exact Manager.answered_sending wire _ _ new

theorem balanced_givenUp (balanced : Balanced wire kept ledger) {cls : MessageClass}
    {body : Octets}
    (taken : (ledger.copies ++ [junkCopy cls body]).Sublist (ledger.sent.filterMap Sent.taken?))
    (ending : Ending) : Balanced wire kept (ledger.givenUp cls body ending) := by
  cases ending with
  | panicked => exact balanced
  | returned result =>
      cases result with
      | error failure => exact balanced
      | ok disposition =>
          refine ⟨?_, balanced.kept, balanced.answered⟩
          simpa [givenUp, copies] using taken

/-- A message is removed only when its copy was taken. -/
theorem balanced_archived (keeps : wire.Keeps kept) (balanced : Balanced wire kept ledger)
    (cls : MessageClass) (body : Octets) (disposition : Disposition) (span : Trace.Span)
    (acknowledged rejected : Outcome) :
    Balanced wire kept
      (let told := Delivery.archive (archiveServices wire.recorded acknowledged rejected) cls body
        disposition span ledger.state
      (ledger.left told.2).givenUp cls body told.1.ending) := by
  cases on : cls.enabled with
  | false =>
      obtain ⟨⟨failure, ending⟩, same⟩ := archive_of_disabled wire.recorded on acknowledged
        rejected body disposition span ledger.state
      simp only [ending, same, givenUp]
      exact balanced
  | true =>
      obtain ⟨ended, same⟩ := archive_of_enabled wire.recorded on acknowledged rejected body
        disposition span ledger.state
      have published := balanced_published wire keeps balanced (junkCopy cls body)
      simp only [same]
      rcases ended with ⟨failure, ending⟩ | succeeded
      · simp only [ending, givenUp]
        exact published
      · refine balanced_givenUp wire published ?_ _
        rw [state, Manager.publish_recorded] at succeeded ⊢
        simp only [left, List.filterMap_append, Manager.taken_of_published wire _ _ succeeded]
        exact balanced.removed.append_right _

theorem reachable_balanced (keeps : wire.Keeps kept) (reachable : Reachable wire ledger) :
    Balanced wire kept ledger := by
  induction reachable with
  | fresh world => exact ⟨.slnil, List.nil_sublist _, nofun⟩
  | connected earlier balanced => exact balanced_connected wire keeps balanced
  | published earlier publication balanced =>
      exact balanced_published wire keeps balanced publication
  | archived earlier cls body disposition span acknowledged rejected balanced =>
      exact balanced_archived wire keeps balanced cls body disposition span acknowledged rejected

/-- What the success of a publish is worth. -/
structure Audited (wire : Wire σ) (kept : σ → List Publication) (ledger : Ledger σ) : Prop where
  /-- The next publish succeeds exactly if the client answers it with a confirmation, be it
  negative or none at all. -/
  published : ∀ publication,
    (Manager.publish wire publication (ledger.manager, ledger.world)).1 = .ok () ↔
      ∃ link confirmation, ledger.manager.link = some link ∧
        (wire.publish link.produce publication ledger.world).1 = .ok confirmation
  /-- For every removed message the copy was sent and answered so. -/
  removed : ledger.copies.Sublist (ledger.sent.filterMap Sent.taken?)
  /-- What the broker has acknowledged it keeps. -/
  acknowledged : (ledger.sent.filterMap Sent.confirmed?).Sublist (kept ledger.world)
  /-- If all that was taken was acknowledged, the copies of all removed messages are kept. -/
  secured : (∀ sent ∈ ledger.sent, ∀ confirmation, sent.answer = .ok confirmation →
      confirmation = .positive) → ledger.copies.Sublist (kept ledger.world)
  /-- But nothing ever is: no channel is asked to confirm. -/
  unconfirmed : wire.Unasking → ledger.sent.filterMap Sent.confirmed? = []

/-- What was taken was confirmed, if the broker has acknowledged whatever it took. -/
theorem taken_eq_confirmed {sent : List Sent}
    (positive : ∀ each ∈ sent, ∀ confirmation, each.answer = .ok confirmation →
      confirmation = .positive) :
    sent.filterMap Sent.taken? = sent.filterMap Sent.confirmed? := by
  induction sent with
  | nil => rfl
  | cons first later ih =>
      have rest := ih fun each member => positive each (List.mem_cons_of_mem first member)
      have same : first.taken? = first.confirmed? := by
        cases answer : first.answer with
        | error fault => simp [Sent.taken?, Sent.confirmed?, answer]
        | ok confirmation =>
            have acknowledged := positive first List.mem_cons_self confirmation answer
            simp [Sent.taken?, Sent.confirmed?, answer, acknowledged]
      rw [List.filterMap_cons, List.filterMap_cons, rest, same]

/-- **A publish that succeeded is not a message that the broker has**: the success rests on any
confirmation, and on a client that answers by the rule none is ever positive. -/
theorem published_unconfirmed (keeps : wire.Keeps kept) (reachable : Reachable wire ledger) :
    Audited wire kept ledger := by
  have balanced := reachable_balanced wire keeps reachable
  refine ⟨Manager.publish_ok_iff wire ledger.manager ledger.world, balanced.removed,
    balanced.kept, fun positive => ?_, fun unasking => ?_⟩
  · have taken := balanced.removed
    rw [taken_eq_confirmed positive] at taken
    exact taken.trans balanced.kept
  · refine List.filterMap_eq_nil_iff.mpr fun each member => ?_
    obtain ⟨world, answered⟩ := balanced.answered each member
    cases answer : each.answer with
    | error fault => simp [Sent.confirmed?, answer]
    | ok confirmation =>
        have unasked := unasking _ _ _ _ (answered.trans answer)
        simp [Sent.confirmed?, answer, unasked]

end Ledger

/-! ## Poles -/

def Wire.keeping : Wire (List Publication) where
  dial world := (.ok 1, world)
  openChannel connection world := (.ok ⟨connection, 1⟩, world)
  disconnect _ _ world := (.ok (), world)
  declare _ _ world := (true, world)
  publish _ publication world := (.ok .positive, world ++ [publication])
  limitPrefetch _ _ world := (true, world)
  startConsumer _ queue world := (some ⟨queue, 1⟩, world)
  cancelConsumer _ _ world := (true, world)

theorem Wire.keeping_keeps : Wire.keeping.Keeps id where
  dial _ := .refl _
  openChannel _ _ := .refl _
  disconnect _ _ _ := .refl _
  publish _ publication world := List.sublist_append_left world [publication]
  confirmed _ _ _ _ := .refl _

theorem Rehearsal.Broker.wire_unasking (target : Option DialTarget) (name : String) :
    (Rehearsal.Broker.wire target name).Unasking := by
  intro channel publication broker confirmation answer
  simp only [Rehearsal.Broker.wire, Rehearsal.Broker.publish] at answer
  split at answer
  · cases answer
  · exact (Except.ok.inj answer).symm

namespace Ledger

/-- A message is given up over a broker that acknowledges its copy, and the copy is kept. -/
theorem keptCopy_removed :
    ∃ ledger, Reachable .keeping ledger ∧ Wire.keeping.Keeps id ∧
      ledger.removed = [({ MessageClass.blank with enabled := true }, [7])] ∧
      ledger.world = ledger.copies ∧ Audited .keeping id ledger := by
  have fresh : Reachable .keeping _ := .fresh []
  have connected := Reachable.connected fresh
  have archived := Reachable.archived connected { MessageClass.blank with enabled := true } [7]
    .unparseable (Trace.Span.opened .standard "" []) (.ok ()) (.ok ())
  exact ⟨_, archived, Wire.keeping_keeps, rfl, rfl,
    published_unconfirmed _ Wire.keeping_keeps archived⟩

/-- A message is removed although the broker has refused its copy: the broker closes the
channel on which the copy was published, and was never asked to confirm. -/
theorem refusedCopy_removed :
    ∃ ledger, Reachable (Rehearsal.Broker.wire (some ⟨"guest", "guest", "/"⟩) "") ledger ∧
      ledger.removed = [({ MessageClass.blank with enabled := true }, [7])] ∧
      ledger.sent.map (fun sent => sent.answer) = [.ok .unasked] ∧
      ledger.world.record.map (fun frame => frame.method.word) =
        ["connection.open", "channel.open", "channel.open", "basic.publish"] ∧
      ledger.world.channelState ⟨1, 1⟩ = some "Closed" := by
  have fresh : Reachable (Rehearsal.Broker.wire (some ⟨"guest", "guest", "/"⟩) "") _ :=
    .fresh { Rehearsal.Broker.idle with
      rules := [⟨"basic.publish", none, 0, .closeChannel 404 "no exchange"⟩] }
  have connected := Reachable.connected fresh
  have archived := Reachable.archived connected { MessageClass.blank with enabled := true } [7]
    .unparseable (Trace.Span.opened .standard "" []) (.ok ()) (.ok ())
  exact ⟨_, archived, rfl, rfl, rfl, rfl⟩

end Ledger

end Redelivery
