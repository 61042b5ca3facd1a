import Redelivery.Settings.Basic
import Redelivery.Settings.Node
/-!
# Reading settings

A record is read from a section by the names of its members, or from a list in their
order. Within a record the members that are there are read first, so that a bad
member is reported before a missing one.
-/

namespace Redelivery.Settings

set_option autoImplicit false

variable {α : Type}

/-- The members of a record: those that are there, and whether they came in a list. -/
inductive Members where
  | named (entries : List (String × Node))
  | listed (entries : List (String × Nat × Node)) (type : String) (count : Nat)

/-- The members of a record of a given type. -/
def members? (type : String) (names : List String) (node : Node) : Except Fault Members :=
  match node with
  | .group entries => .ok (.named entries)
  | .list items =>
      .ok (.listed (names.zip ((List.range items.length).zip items)) type names.length)
  | _ => .error (.refused ("invalid type: " ++ node.found ++ ", expected struct " ++ type) none)

namespace Members

/-- The member under a name, with a way to say where a fault in it lies. -/
def find? (members : Members) (name : String) : Option (Node × (Fault → Fault)) :=
  match members with
  | named entries =>
      (SortedTable.find? name entries).map fun node => (node, Fault.underName name)
  | listed entries _ _ =>
      (entries.find? (·.1 = name)).map fun entry => (entry.2.2, Fault.underIndex entry.2.1)

/-- Reads a member that is there. -/
def read? (members : Members) (name : String) (read : Node → Except Fault α) :
    Except Fault (Option α) :=
  match members.find? name with
  | some (node, locate) => ((read node).map some).mapError locate
  | none => .ok none

/-- The fault of a member that is not there. -/
def missing (members : Members) (name : String) : Fault :=
  match members with
  | named _ => .missing name
  | listed entries type count =>
      .refused ("invalid length " ++ toString entries.length ++ ", expected struct " ++ type
        ++ " with " ++ toString count ++ (if count = 1 then " element" else " elements")) none

/-- A member that was read, or the fault that it is not there. -/
def require (members : Members) (name : String) : Option α → Except Fault α
  | some value => .ok value
  | none => .error (members.missing name)

/-- A member that may be missing from a section but not from a list. -/
def requireListed (members : Members) (name : String) :
    Option (Option α) → Except Fault (Option α)
  | some value => .ok value
  | none =>
      match members with
      | named _ => .ok none
      | listed _ _ _ => .error (members.missing name)

end Members

/-- An absent node, or a value. -/
def optional (read : Node → Except Fault α) : Node → Except Fault (Option α)
  | .absent => .ok none
  | node => (read node).map some

/-- The name of an application. -/
def readApplication (node : Node) : Except Fault String := do
  let members ← members? "AppConfigs" ["name"] node
  let name ← members.read? "name" Node.toText?
  members.require "name" name

/-- The address of a broker. -/
def readAddress (node : Node) : Except Fault BrokerAddress := do
  let members ← members? "RabbitMQConfigs" BrokerAddress.memberNames node
  let host ← members.read? "host" Node.toText?
  let port ← members.read? "port" Node.toNat16?
  let user ← members.read? "user" Node.toText?
  let password ← members.read? "password" Node.toText?
  let vhost ← members.read? "vhost" Node.toText?
  let recoverySeconds ← members.read? "recovery_interval_secs" Node.toNat64?
  let space ← members.read? "namespace" (optional Node.toText?)
  return {
    host := ← members.require "host" host
    port := ← members.require "port" port
    user := ← members.require "user" user
    password := ← members.require "password" password
    vhost := vhost.getD ""
    recoverySeconds := recoverySeconds.getD BrokerAddress.usualRecoverySeconds
    space := space.getD none }

/-- The size of consumers. -/
def readSizing (node : Node) : Except Fault ConsumerSizing := do
  let members ← members? "ConsumerConfigs" ConsumerSizing.memberNames node
  let prefetch ← members.read? "prefetch_count" (optional Node.toNat16?)
  let workers ← members.read? "worker_count" (optional Node.toNat64?)
  let buffer ← members.read? "task_buffer" (optional Node.toNat64?)
  return {
    prefetch := ← members.requireListed "prefetch_count" prefetch
    workers := ← members.requireListed "worker_count" workers
    buffer := ← members.requireListed "task_buffer" buffer }

/-- An exchange kind by its word, or by the one name in a section. -/
def readKind (node : Node) : Except Fault ExchangeKind :=
  let ofWord (word : String) : Except Fault ExchangeKind :=
    match SortedTable.find? word ExchangeKind.named with
    | some kind => .ok kind
    | none => .error
        (.refused ("enum ExchangeKind does not have variant constructor " ++ word) none)
  match node with
  | .text word _ => ofWord word
  | .group [(word, _)] => ofWord word
  | _ => .error (.refused ("value of enum ExchangeKind should be represented by either string "
      ++ "or table with exactly one key") none)

/-- A message class. -/
def readClass (node : Node) : Except Fault MessageClass := do
  let members ← members? "MessageClassConfig" MessageClass.memberNames node
  let enabled ← members.read? "enabled" Node.toBool?
  let kind ← members.read? "exchange_kind" readKind
  let names ← (MessageClass.memberNames.drop 2).take 9 |>.mapM fun name =>
    (members.read? name Node.toText?).map (name, ·)
  let ttl ← members.read? "ttl" Node.toInt64?
  let delay ← members.read? "delay" Node.toInt64?
  let limit ← members.read? "limit" Node.toInt64?
  let name (member : String) : Except Fault String :=
    members.require member ((SortedTable.find? member names).getD none)
  return {
    enabled := enabled.getD false
    kind := kind.getD .direct
    direct := ⟨← name "exchange_direct", ← name "queue_direct", ← name "routing_key_direct"⟩
    deadLetter := ⟨← name "exchange_dlx", ← name "queue_dlq", ← name "routing_key_dlx"⟩
    junk := ⟨← name "exchange_junk", ← name "queue_junk", ← name "routing_key_junk"⟩
    ttl := ttl.getD 0
    delay := delay.getD 0
    limit := limit.getD 0 }

/-- The message classes by name. -/
def readClasses : Node → Except Fault (SortedTable MessageClass)
  | .group entries => entries.mapM fun entry =>
      ((readClass entry.2).map (entry.1, ·)).mapError (Fault.underName entry.1)
  | node => .error (.refused ("invalid type: " ++ node.found ++ ", expected a map") none)

/-- The settings in a document. -/
def read (node : Node) : Except Fault Settings := do
  let members ← members? "Settings" ["app", "rabbitmq", "consumer", "message_classes"] node
  let application ← members.read? "app" readApplication
  let broker ← members.read? "rabbitmq" readAddress
  let consumer ← members.read? "consumer" readSizing
  let messageClasses ← members.read? "message_classes" readClasses
  return {
    application := ← members.require "app" application
    broker := ← members.require "rabbitmq" broker
    consumer := consumer.getD ConsumerSizing.unset
    messageClasses := messageClasses.getD [] }

end Redelivery.Settings
