import Redelivery.MessageClass
/-!
# Settings

What an application is configured with: its name, the address of its broker, the
size of its consumers, and its message classes. Every name of the application on the
broker starts with `Settings.namePrefix`; `Settings.class?` and `Settings.classes`
give the classes under their full names.
-/

namespace Redelivery

set_option autoImplicit false

/-- Where the broker is and how to sign in. -/
structure BrokerAddress where
  host : String
  port : Nat
  user : String
  password : String
  vhost : String
  /-- The wait before each attempt to reconnect, in seconds. -/
  recoverySeconds : Nat
  /-- A further leading part of every name. -/
  space : Option String
  deriving DecidableEq

namespace BrokerAddress

/-- The wait before reconnecting when none is configured. -/
def usualRecoverySeconds : Nat := 30

/-- A character of a virtual host inside an address. -/
def escapeVhost (c : Char) : List Char := if c = '/' then ['%', '2', 'f'] else [c]

/-- The address as one text; an empty virtual host is left out. -/
def uri (address : BrokerAddress) : String :=
  let base := "amqp://" ++ address.user ++ ":" ++ address.password ++ "@" ++ address.host
    ++ ":" ++ toString address.port
  if address.vhost = "" then base
  else base ++ "/" ++ String.ofList (address.vhost.toList.flatMap escapeVhost)

/-- The prefix of the names of an application. -/
def namePrefix (address : BrokerAddress) (application : String) : String :=
  match address.space with
  | some space => if space = "" then application ++ "-" else space ++ "-" ++ application ++ "-"
  | none => application ++ "-"

/-- The members of an address, in the order in which an array lists them. -/
def memberNames : List String :=
  ["host", "port", "user", "password", "vhost", "recovery_interval_secs", "namespace"]

/-- Reads an address. -/
def reader : Json.Reader BrokerAddress := fun depth raw => do
  let slots ← Json.Reader.slots? memberNames depth raw
  return {
    host := ← slots.required "host" Json.Reader.text
    port := ← slots.required "port" (Json.Reader.natural 16)
    user := ← slots.required "user" Json.Reader.text
    password := ← slots.required "password" Json.Reader.text
    vhost := ← slots.defaulted "vhost" Json.Reader.text ""
    recoverySeconds :=
      ← slots.defaulted "recovery_interval_secs" (Json.Reader.natural 64) usualRecoverySeconds
    space := ← slots.defaulted "namespace" (Json.Reader.nullable Json.Reader.text) none }

end BrokerAddress

/-- How many workers a subscription runs. -/
inductive WorkerCount where
  | fixed (count : Nat)
  /-- As many as the machine can run at once. -/
  | machine
  deriving DecidableEq

/-- The size of a subscription, as far as it is configured. -/
structure ConsumerSizing where
  prefetch : Option Nat
  workers : Option Nat
  buffer : Option Nat
  deriving DecidableEq

namespace ConsumerSizing

def unset : ConsumerSizing := ⟨none, none, none⟩

/-- A configured number, unless it is zero. -/
def positive? (configured : Option Nat) : Option Nat := configured.filter (0 < ·)

/-- How many messages the broker may send ahead. -/
def effectivePrefetch (sizing : ConsumerSizing) : Nat := (positive? sizing.prefetch).getD 100

/-- How many messages may wait for a worker. -/
def effectiveBuffer (sizing : ConsumerSizing) : Nat := (positive? sizing.buffer).getD 1000

def effectiveWorkers (sizing : ConsumerSizing) : WorkerCount :=
  match positive? sizing.workers with
  | some count => .fixed count
  | none => .machine

/-- The members of a sizing, in the order in which an array lists them. -/
def memberNames : List String := ["prefetch_count", "worker_count", "task_buffer"]

/-- Reads a sizing. -/
def reader : Json.Reader ConsumerSizing := fun depth raw => do
  let slots ← Json.Reader.slots? memberNames depth raw
  return {
    prefetch := ← slots.optional "prefetch_count" (Json.Reader.natural 16)
    workers := ← slots.optional "worker_count" (Json.Reader.natural 64)
    buffer := ← slots.optional "task_buffer" (Json.Reader.natural 64) }

end ConsumerSizing

/-- The configuration of an application. -/
structure Settings where
  application : String
  broker : BrokerAddress
  consumer : ConsumerSizing
  messageClasses : SortedTable MessageClass
  deriving DecidableEq

namespace Settings

/-- The prefix of every name of the application on the broker. -/
def namePrefix (settings : Settings) : String := settings.broker.namePrefix settings.application

/-- A configured class under its full names. -/
def class? (settings : Settings) (name : String) : Except Failure MessageClass :=
  match SortedTable.find? name settings.messageClasses with
  | some cls => .ok (cls.withPrefix settings.namePrefix)
  | none => .error (.configuration ("unknown message class " ++ Failure.named name))

/-- The configured classes under their full names, in the order of their own. -/
def classes (settings : Settings) : List MessageClass :=
  settings.messageClasses.map fun entry => entry.2.withPrefix settings.namePrefix

end Settings

end Redelivery
