import Redelivery.Connection.Manager
import Redelivery.Proofs.Connection.Observer
/-!
# Who has to close a connection

A manager dials more often than it stores: an attempt may be refused after the dialing, and a
connection may be replaced or given up. Every connection that a manager has dialed is either the
one it holds or one that it has asked to close, and it asks once. `Wire.attended` writes down
what a manager asks of its wire about connections, with the answers, and a `Tenure` is a manager
with that record and its calls, one after the other.

* `Connects`, `Closes`: what one call asks, in order, what comes of it and what it leaves.
* `connect_attended`, `close_attended`: every call is one of these, over any wire.
* `every_dial_answered_for`: after any calls, whatever fails, the generation is the number of
  calls that have connected, and what was dialed is what was asked to close and the one
  connection that is held.
-/

namespace Redelivery

set_option autoImplicit false

/-! ## What a wire is asked -/

/-- What was asked of a wire about a connection, with the answer. -/
inductive Errand where
  | dialed (answer : Except String ConnectionId)
  | opened (connection : ConnectionId) (answer : Except String Channel)
  | disconnected (connection : ConnectionId) (reason : String) (answer : Except String Unit)

namespace Errand

def dialed? : Errand → Option ConnectionId
  | dialed (.ok connection) => some connection
  | _ => none

/-- The connection that was asked to close, whatever it answered. -/
def parted? : Errand → Option ConnectionId
  | disconnected connection _ _ => some connection
  | _ => none

end Errand

def dials (errands : List Errand) : List ConnectionId := errands.filterMap Errand.dialed?

def partings (errands : List Errand) : List ConnectionId := errands.filterMap Errand.parted?

theorem dials_append (first second : List Errand) :
    dials (first ++ second) = dials first ++ dials second :=
  List.filterMap_append

theorem partings_append (first second : List Errand) :
    partings (first ++ second) = partings first ++ partings second :=
  List.filterMap_append

variable {σ : Type}

def Errand.observer : Observer Errand where
  dial answer := [.dialed answer]
  openChannel connection answer := [.opened connection answer]
  disconnect connection reason answer := [.disconnected connection reason answer]

/-- The wire with every errand written down behind the earlier ones. -/
def Wire.attended (wire : Wire σ) : Wire (σ × List Errand) := wire.observed Errand.observer

namespace Wire

variable (wire : Wire σ) (state : σ × List Errand) (connection : ConnectionId)

@[simp] theorem attended_dial : wire.attended.dial state =
    ((wire.dial state.1).1, (wire.dial state.1).2,
      state.2 ++ [.dialed (wire.dial state.1).1]) := rfl

@[simp] theorem attended_openChannel : wire.attended.openChannel connection state =
    ((wire.openChannel connection state.1).1, (wire.openChannel connection state.1).2,
      state.2 ++ [.opened connection (wire.openChannel connection state.1).1]) := rfl

@[simp] theorem attended_disconnect (reason : String) :
    wire.attended.disconnect connection reason state =
      ((wire.disconnect connection reason state.1).1, (wire.disconnect connection reason state.1).2,
        state.2 ++
          [.disconnected connection reason (wire.disconnect connection reason state.1).1]) := rfl

end Wire

/-! ## What a call asks -/

namespace Manager

def held (manager : Manager) : List ConnectionId := manager.link.toList.map Link.connection

/-- The manager with a new connection, of the next generation. -/
def linked (connection : ConnectionId) (produce consume : Channel) (manager : Manager) :
    Manager :=
  { manager with
    generation := manager.generation + 1
    link := some ⟨manager.generation + 1, connection, produce, consume⟩
    watched := (connection, manager.generation + 1) :: manager.watched }

/-- The manager without a connection and without a stream of notices. -/
def unlinked (manager : Manager) : Manager :=
  { manager with notices := manager.notices.close, link := none }

end Manager

/-- What is asked when a link is let go for a reason: to close its connection, if there is one. -/
inductive Parts (reason : String) : Option Link → List Errand → Prop where
  | nobody : Parts reason none []
  | link (link : Link) (answer : Except String Unit) :
      Parts reason (some link) [.disconnected link.connection reason answer]

/-- What an attempt to connect asks, what comes of it, and the manager that it leaves. The
attempt ends with the first failure: then the manager is what it was, and the connection is
asked to close if it was dialed. Otherwise it is held, with the first channel to publish on and
the second to consume on, and the one that it replaces is asked to close, whatever that answers. -/
inductive Connects (manager : Manager) : List Errand → Outcome → Manager → Prop where
  | unreachable (reason : String) :
      Connects manager [.dialed (.error reason)] (.error (.connecting reason)) manager
  | firstRefused (connection : ConnectionId) (reason : String) (answer : Except String Unit) :
      Connects manager
        [.dialed (.ok connection), .opened connection (.error reason),
          .disconnected connection Connecting.closingReason answer]
        (.error (.openingChannel reason)) manager
  | secondRefused (connection : ConnectionId) (produce : Channel) (reason : String)
      (answer : Except String Unit) :
      Connects manager
        [.dialed (.ok connection), .opened connection (.ok produce),
          .opened connection (.error reason),
          .disconnected connection Connecting.closingReason answer]
        (.error (.openingChannel reason)) manager
  | established (connection : ConnectionId) (produce consume : Channel) {replacing : List Errand}
      (parts : Parts Connecting.closingReason manager.link replacing) :
      Connects manager
        (.dialed (.ok connection) :: .opened connection (.ok produce) ::
          .opened connection (.ok consume) :: replacing)
        (.ok ()) (manager.linked connection produce consume)

/-- What a closure asks: nothing without a connection, and otherwise to close it. The manager
is without one in either case, and a failure is only reported. -/
inductive Closes (manager : Manager) : List Errand → Outcome → Manager → Prop where
  | idle (none : manager.link = none) : Closes manager [] (.ok ()) manager.unlinked
  | parted {link : Link} (inUse : manager.link = some link) :
      Closes manager [.disconnected link.connection Closing.shutdownReason (.ok ())] (.ok ())
        manager.unlinked
  | failed {link : Link} (inUse : manager.link = some link) (reason : String) :
      Closes manager [.disconnected link.connection Closing.shutdownReason (.error reason)]
        (.error (.connectionClosed reason)) manager.unlinked

section Attended

variable (wire : Wire σ) (manager : Manager) (world : σ) (errands : List Errand)

theorem connect_attended : ∃ asked outcome after next,
    Manager.connect wire (manager, world) = (outcome, after, next) ∧
      Manager.connect wire.attended (manager, world, errands) =
        (outcome, after, next, errands ++ asked) ∧
      Connects manager asked outcome after := by
  simp only [Manager.connect, Connecting.longest, Connecting.steps]
  rcases dialed : wire.dial world with ⟨reason | connection, opening⟩
  · refine ⟨_, _, manager, opening, ?_, ?_, .unreachable reason⟩ <;>
      simp [Connecting.step, Connecting.outcome?, dialed]
  rcases first : wire.openChannel connection opening with ⟨reason | produce, second⟩
  · rcases left : wire.disconnect connection Connecting.closingReason second with ⟨answer, next⟩
    refine ⟨_, _, manager, next, ?_, ?_, .firstRefused connection reason answer⟩ <;>
      simp [Connecting.step, Connecting.outcome?, dialed, first, left]
  rcases last : wire.openChannel connection second with ⟨reason | consume, third⟩
  · rcases left : wire.disconnect connection Connecting.closingReason third with ⟨answer, next⟩
    refine ⟨_, _, manager, next, ?_, ?_, .secondRefused connection produce reason answer⟩ <;>
      simp [Connecting.step, Connecting.outcome?, dialed, first, last, left]
  -- The first connection replaces none, and every later one replaces the one in use.
  cases inUse : manager.link with
  | none =>
      have parts : Parts Connecting.closingReason manager.link [] := by
        rw [inUse]
        exact .nobody
      refine ⟨_, _, manager.linked connection produce consume, third, ?_, ?_,
        .established connection produce consume parts⟩ <;>
        simp [Connecting.step, Connecting.outcome?, Manager.linked, dialed, first, last, inUse]
  | some previous =>
      rcases left : wire.disconnect previous.connection Connecting.closingReason third with
        ⟨answer, next⟩
      have parts : Parts Connecting.closingReason manager.link
          [.disconnected previous.connection Connecting.closingReason answer] := by
        rw [inUse]
        exact .link previous answer
      refine ⟨_, _, manager.linked connection produce consume, next, ?_, ?_,
        .established connection produce consume parts⟩ <;>
        simp [Connecting.step, Connecting.outcome?, Manager.linked, dialed, first, last, inUse,
          left]

theorem close_attended : ∃ asked outcome after next,
    Manager.close wire (manager, world) = (outcome, after, next) ∧
      Manager.close wire.attended (manager, world, errands) =
        (outcome, after, next, errands ++ asked) ∧
      Closes manager asked outcome after := by
  simp only [Manager.close, Closing.longest, Closing.steps]
  cases inUse : manager.link with
  | none =>
      refine ⟨[], .ok (), manager.unlinked, world, ?_, ?_, .idle inUse⟩ <;>
        simp [Closing.step, Closing.outcome?, Manager.unlinked, inUse]
  | some link =>
      rcases left : wire.disconnect link.connection Closing.shutdownReason world with
        ⟨reason | _, next⟩
      · refine ⟨_, _, manager.unlinked, next, ?_, ?_, .failed inUse reason⟩ <;>
          simp [Closing.step, Closing.outcome?, Manager.unlinked, inUse, left]
      · refine ⟨_, _, manager.unlinked, next, ?_, ?_, .parted inUse⟩ <;>
          simp [Closing.step, Closing.outcome?, Manager.unlinked, inUse, left]

end Attended

/-! ## Accounts of a call -/

theorem Parts.partings_eq {reason : String} {link : Option Link} {errands : List Errand}
    (parts : Parts reason link errands) :
    dials errands = [] ∧ partings errands = link.toList.map Link.connection := by
  cases parts with
  | nobody => exact ⟨rfl, rfl⟩
  | link link answer => exact ⟨rfl, rfl⟩

section Accounts

variable {manager after : Manager} {errands : List Errand} {outcome : Outcome}

/-- What was held or dialed is held afterwards, or was asked to close. -/
theorem Connects.balance (connects : Connects manager errands outcome after) :
    (manager.held ++ dials errands).Perm (partings errands ++ after.held) := by
  cases connects with
  | unreachable reason => exact .of_eq (List.append_nil _)
  | firstRefused connection reason answer | secondRefused connection produce reason answer =>
      exact List.perm_append_comm
  | @established connection produce consume replacing parts =>
      obtain ⟨none, same⟩ := parts.partings_eq
      refine .of_eq ?_
      calc manager.held ++ connection :: dials replacing
          = manager.held ++ [connection] := by rw [none]
        _ = partings replacing ++ [connection] := by rw [same]; rfl

theorem Closes.balance (closes : Closes manager errands outcome after) :
    (manager.held ++ dials errands).Perm (partings errands ++ after.held) := by
  cases closes with
  | idle none => simp [Manager.held, Manager.unlinked, none, dials, partings]
  | parted inUse | failed inUse reason =>
      simp [Manager.held, Manager.unlinked, inUse, dials, partings, Errand.dialed?, Errand.parted?]

theorem Connects.generation_eq (connects : Connects manager errands outcome after) :
    after.generation = manager.generation + outcome.isOk.toNat := by
  cases connects <;> rfl

theorem Closes.generation_eq (closes : Closes manager errands outcome after) :
    after.generation = manager.generation := by
  cases closes <;> rfl

theorem Closes.inUse_eq (closes : Closes manager errands outcome after) :
    after.inUse = .error .notConnected := by
  cases closes <;> rfl

end Accounts

/-! ## Tenures -/

/-- What an application asks of its manager. To reconnect is to connect. -/
inductive ManagerCall where
  | connect
  | close
  deriving DecidableEq

namespace ManagerCall

def make (wire : Wire σ) : ManagerCall → Manager × σ → Outcome × (Manager × σ)
  | connect => Manager.connect wire
  | close => Manager.close wire

/-- What a call may ask, and what comes of it. -/
def Does : ManagerCall → Manager → List Errand → Outcome → Manager → Prop
  | connect => Connects
  | close => Closes

def connected : ManagerCall × Outcome → Bool
  | (connect, outcome) => outcome.isOk
  | (close, _) => false

theorem make_attended (call : ManagerCall) (wire : Wire σ) (manager : Manager) (world : σ)
    (errands : List Errand) : ∃ asked outcome after next,
      call.make wire (manager, world) = (outcome, after, next) ∧
        call.make wire.attended (manager, world, errands) =
          (outcome, after, next, errands ++ asked) ∧
        call.Does manager asked outcome after := by
  cases call with
  | connect => exact connect_attended wire manager world errands
  | close => exact close_attended wire manager world errands

variable {call : ManagerCall} {manager after : Manager} {errands : List Errand} {outcome : Outcome}

theorem Does.balance (does : call.Does manager errands outcome after) :
    (manager.held ++ dials errands).Perm (partings errands ++ after.held) := by
  cases call with
  | connect => exact Connects.balance does
  | close => exact Closes.balance does

theorem Does.generation_eq (does : call.Does manager errands outcome after) :
    after.generation = manager.generation + [(call, outcome)].countP connected := by
  cases call with
  | connect =>
      rw [Connects.generation_eq does]
      cases outcome <;> rfl
  | close => exact Closes.generation_eq does

end ManagerCall

/-- A manager with all that it was asked, and all that it asked of its wire. -/
structure Tenure (σ : Type) where
  manager : Manager
  world : σ
  errands : List Errand
  history : List (ManagerCall × Outcome)

namespace Tenure

def fresh (world : σ) : Tenure σ := ⟨.fresh, world, [], []⟩

def called (wire : Wire σ) (tenure : Tenure σ) (call : ManagerCall) : Tenure σ :=
  let told := call.make wire.attended (tenure.manager, tenure.world, tenure.errands)
  ⟨told.2.1, told.2.2.1, told.2.2.2, tenure.history ++ [(call, told.1)]⟩

def run (wire : Wire σ) (world : σ) (calls : List ManagerCall) : Tenure σ :=
  calls.foldl (called wire) (fresh world)

variable {wire : Wire σ} {tenure : Tenure σ}

theorem called_eq (wire : Wire σ) (tenure : Tenure σ) (call : ManagerCall) :
    ∃ asked outcome after next,
      call.make wire (tenure.manager, tenure.world) = (outcome, after, next) ∧
        tenure.called wire call =
          ⟨after, next, tenure.errands ++ asked, tenure.history ++ [(call, outcome)]⟩ ∧
        call.Does tenure.manager asked outcome after := by
  obtain ⟨asked, outcome, after, next, plain, attended, does⟩ :=
    call.make_attended wire tenure.manager tenure.world tenure.errands
  exact ⟨asked, outcome, after, next, plain, by simp only [called, attended], does⟩

/-- The books of a tenure: the generation counts the calls that have connected, and what was
dialed was asked to close or is held. -/
structure Balanced (tenure : Tenure σ) : Prop where
  counted : tenure.manager.generation = tenure.history.countP ManagerCall.connected
  owned : (dials tenure.errands).Perm (partings tenure.errands ++ tenure.manager.held)

/-- Every call keeps the books balanced, whatever its wire answers. -/
theorem balanced_called (balanced : tenure.Balanced) (call : ManagerCall) :
    (tenure.called wire call).Balanced := by
  obtain ⟨asked, outcome, after, next, -, same, does⟩ := called_eq wire tenure call
  rw [same]
  constructor
  · rw [List.countP_append, ← balanced.counted]
    exact does.generation_eq
  · rw [dials_append, partings_append, List.append_assoc]
    have carried := balanced.owned.append_right (dials asked)
    rw [List.append_assoc] at carried
    exact carried.trans (does.balance.append_left _)

theorem balanced_run (wire : Wire σ) (calls : List ManagerCall) (tenure : Tenure σ)
    (balanced : tenure.Balanced) : (calls.foldl (called wire) tenure).Balanced := by
  induction calls generalizing tenure with
  | nil => exact balanced
  | cons call later ih => exact ih _ (balanced_called balanced call)

theorem history_run (wire : Wire σ) (calls : List ManagerCall) (tenure : Tenure σ) :
    (calls.foldl (called wire) tenure).history.map Prod.fst =
      tenure.history.map Prod.fst ++ calls := by
  induction calls generalizing tenure with
  | nil => exact (List.append_nil _).symm
  | cons call later ih =>
      rw [List.foldl_cons, ih]
      simp only [called, List.map_append, List.map_cons, List.map_nil, List.append_assoc,
        List.singleton_append]

/-- Where no connection was dialed twice, those that were never asked to close are the one that
is held. -/
theorem Balanced.open_iff (balanced : tenure.Balanced) (distinct : (dials tenure.errands).Nodup)
    {connection : ConnectionId} (dialed : connection ∈ dials tenure.errands) :
    connection ∉ partings tenure.errands ↔
      ∃ link, tenure.manager.link = some link ∧ link.connection = connection := by
  have apart := (List.nodup_append.mp (balanced.owned.nodup distinct)).2.2
  have owner := List.mem_append.mp (balanced.owned.mem_iff.mp dialed)
  have held : connection ∈ tenure.manager.held ↔
      ∃ link, tenure.manager.link = some link ∧ link.connection = connection := by
    simp [Manager.held]
  rw [← held]
  exact ⟨fun kept => owner.resolve_left kept, fun inUse parted => apart _ parted _ inUse rfl⟩

/-- What a manager answers for after the calls that were made. -/
structure Answerable (wire : Wire σ) (calls : List ManagerCall) (tenure : Tenure σ) : Prop where
  history : tenure.history.map Prod.fst = calls
  /-- The next call does what a call may do, and goes as it would unattended. -/
  next : ∀ call : ManagerCall, ∃ asked outcome after world,
    call.make wire (tenure.manager, tenure.world) = (outcome, after, world) ∧
      tenure.called wire call =
        ⟨after, world, tenure.errands ++ asked, tenure.history ++ [(call, outcome)]⟩ ∧
      call.Does tenure.manager asked outcome after
  /-- A closure leaves no connection, whatever it reports. -/
  closed : (tenure.called wire .close).manager.inUse = .error .notConnected
  counted : tenure.manager.generation = tenure.history.countP ManagerCall.connected
  owned : (dials tenure.errands).Perm (partings tenure.errands ++ tenure.manager.held)
  /-- If no connection was dialed twice, none was asked to close twice, and the one that is held
  is the only one that was not asked. -/
  once : (dials tenure.errands).Nodup → (partings tenure.errands).Nodup ∧
    ∀ connection ∈ dials tenure.errands, connection ∉ partings tenure.errands ↔
      ∃ link, tenure.manager.link = some link ∧ link.connection = connection

/-- **Every connection that was dialed is answered for**, after any calls and over any wire: it
was asked to close, or is the one connection that is held. -/
theorem every_dial_answered_for (wire : Wire σ) (world : σ) (calls : List ManagerCall) :
    Answerable wire calls (run wire world calls) := by
  have balanced : (run wire world calls).Balanced :=
    balanced_run wire calls (fresh world) ⟨rfl, .refl _⟩
  refine ⟨history_run wire calls (fresh world), called_eq wire _, ?_, balanced.counted,
    balanced.owned, fun distinct => ⟨?_, fun connection dialed =>
      balanced.open_iff distinct dialed⟩⟩
  · obtain ⟨asked, outcome, after, next, -, same, does⟩ :=
      called_eq wire (run wire world calls) .close
    rw [same]
    exact Closes.inUse_eq does
  · exact (List.nodup_append.mp (balanced.owned.nodup distinct)).1

/-! ## Poles -/

/-- A broker that reads from a script what it grants. It numbers the connections. -/
def scripted : Wire (Nat × List Bool) where
  dial
    | (count, true :: later) => (.ok count, count + 1, later)
    | (count, script) => (.error "refused", count, script.tail)
  openChannel connection
    | (count, true :: later) => (.ok ⟨connection, later.length⟩, count, later)
    | (count, script) => (.error "not allowed", count, script.tail)
  disconnect _ _
    | (count, true :: later) => (.ok (), count, later)
    | (count, script) => (.error "gone", count, script.tail)
  declare _ _ world := (true, world)
  publish _ _ world := (.ok .unasked, world)
  limitPrefetch _ _ world := (true, world)
  startConsumer _ queue world := (some ⟨queue, 0⟩, world)
  cancelConsumer _ _ world := (true, world)

/-- A connection is established, an attempt fails at each step, another replaces it, and the
closure complains. -/
example :
    let tenure := run scripted
      (0, [true, true, true, false, true, false, false, true, true, false, true, true, true, true,
        false, false])
      [.connect, .connect, .connect, .connect, .connect, .close]
    tenure.history.map Prod.snd =
        [.ok (), .error (.connecting "refused"), .error (.openingChannel "not allowed"),
          .error (.openingChannel "not allowed"), .ok (), .error (.connectionClosed "gone")] ∧
      tenure.manager.generation = 2 ∧ dials tenure.errands = [0, 1, 2, 3] ∧
      partings tenure.errands = [1, 2, 0, 3] ∧ tenure.manager.link = none :=
  ⟨rfl, rfl, rfl, rfl, rfl⟩

end Tenure

end Redelivery
