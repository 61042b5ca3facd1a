import Redelivery.Connection.Target
import Redelivery.Connection.Wire
/-!
# A scripted broker

A broker for rehearsals. It grants every request, routes nothing, and keeps a record
of the methods it received; a rule makes it refuse one of them by closing the channel
or the connection, or by cutting the line. What its client would be told of by itself,
the loss of a connection and the end of a consumer's stream, is put out as signals.

Requests on a channel or connection that is gone are never sent: they fail at the
client and leave no record.
-/

namespace Redelivery.Rehearsal

set_option autoImplicit false

/-- A method that a client sends to a broker. -/
inductive Method where
  | openConnection (target : DialTarget) (name : String)
  | closeConnection (code : Nat) (text : String)
  | openChannel
  | declare (declaration : Declaration)
  | limitPrefetch (count : Nat)
  | startConsumer (tag : ConsumerTag)
  | cancelConsumer (tag : ConsumerTag)
  | publish (publication : Publication)
  | acknowledge (delivery : Nat)
  | reject (delivery : Nat) (requeue : Bool)

namespace Method

/-- The name of a method in the protocol. -/
def word : Method → String
  | openConnection _ _ => "connection.open"
  | closeConnection _ _ => "connection.close"
  | openChannel => "channel.open"
  | declare (.exchange _) => "exchange.declare"
  | declare (.queue _) => "queue.declare"
  | declare (.binding _) => "queue.bind"
  | limitPrefetch _ => "basic.qos"
  | startConsumer _ => "basic.consume"
  | cancelConsumer _ => "basic.cancel"
  | publish _ => "basic.publish"
  | acknowledge _ => "basic.ack"
  | reject _ _ => "basic.nack"

/-- The exchange, queue or virtual host that a method is about. -/
def subject? : Method → Option String
  | openConnection target _ => some target.vhost
  | declare (.exchange definition) => some definition.name
  | declare (.queue definition) => some definition.name
  | declare (.binding definition) => some definition.queue
  | startConsumer tag => some tag.queue
  | publish publication => some publication.exchange
  | _ => none

/-- The method by which a client answers the first word of a broker. -/
def signingIn : String := "connection.start-ok"

end Method

/-- A method as it was received; channel zero stands for the connection itself. -/
structure Frame where
  channel : Channel
  method : Method

/-- How a broker refuses. -/
inductive Refusal where
  | closeChannel (code : Nat) (text : String)
  | closeConnection (code : Nat) (text : String)
  | cut

/-- A rule: which method to refuse, how many of them to let pass first, and how. -/
structure Rule where
  method : String
  subject : Option String
  skip : Nat
  refusal : Refusal

namespace Rule

def covers (rule : Rule) (method : String) (subject : Option String) : Bool :=
  rule.method = method && (rule.subject.isNone || rule.subject = subject)

/-- The first rule that covers a method decides: it refuses and is used up, or it
counts the method and lets it pass. -/
def consult (method : String) (subject : Option String) :
    List Rule → Option Refusal × List Rule
  | [] => (none, [])
  | rule :: rest =>
      if rule.covers method subject then
        match rule.skip with
        | 0 => (some rule.refusal, rest)
        | skip + 1 => (none, { rule with skip } :: rest)
      else
        let (refusal, rest) := consult method subject rest
        (refusal, rule :: rest)

end Rule

/-- The condition of a connection. -/
inductive LineState where
  | up
  /-- Its client closed it. -/
  | left
  /-- The broker closed it, or it was cut. -/
  | lost
  deriving DecidableEq

/-- A connection as the broker sees it. -/
structure Line where
  id : ConnectionId
  state : LineState
  /-- How many channels were opened. -/
  channels : Nat
  /-- The channels that the broker closed. -/
  shut : List Nat
  /-- How many messages were delivered on each channel that saw any. -/
  delivered : List (Nat × Nat)

/-- A consumer and the channel it lives on. -/
structure Consumer where
  tag : ConsumerTag
  channel : Channel
  deriving DecidableEq

/-- What a client is told by itself. -/
inductive Signal where
  | connectionLost (connection : ConnectionId) (reason : String)
  /-- The stream of a consumer ended, with an error or without. -/
  | streamEnded (tag : ConsumerTag) (error : Option String)
  deriving DecidableEq

/-- A scripted broker. -/
structure Broker where
  dialed : Nat
  lines : List Line
  consumers : List Consumer
  nextSerial : Nat
  rules : List Rule
  /-- The methods received, the oldest first. -/
  record : List Frame
  /-- What the client was not told yet. -/
  signals : List Signal

namespace ReplyCode

/-- The codes that concern a channel. -/
def soft : List (Nat × String) :=
  [(311, "CONTENT-TOO-LARGE"), (312, "NO-ROUTE"), (313, "NO-CONSUMERS"), (403, "ACCESS-REFUSED"),
    (404, "NOT-FOUND"), (405, "RESOURCE-LOCKED"), (406, "PRECONDITION-FAILED")]

/-- The codes that concern a connection. -/
def hard : List (Nat × String) :=
  [(320, "CONNECTION-FORCED"), (402, "INVALID-PATH"), (501, "FRAME-ERROR"), (502, "SYNTAX-ERROR"),
    (503, "COMMAND-INVALID"), (504, "CHANNEL-ERROR"), (505, "UNEXPECTED-FRAME"),
    (506, "RESOURCE-ERROR"), (530, "NOT-ALLOWED"), (540, "NOT-IMPLEMENTED"),
    (541, "INTERNAL-ERROR")]

/-- How a client words a reply code and its text; `unknown` is its wording for a code
that it does not know. -/
def reason (code : Nat) (text unknown : String) : String :=
  match soft.lookup code with
  | some name => "protocol error: AMQP soft error: " ++ name ++ ": " ++ text
  | none =>
      match hard.lookup code with
      | some name => "protocol error: AMQP hard error: " ++ name ++ ": " ++ text
      | none => unknown

def ofChannel (code : Nat) (text : String) : String :=
  reason code text "invalid channel state: Closing"

def ofConnection (code : Nat) (text : String) : String :=
  reason code text "invalid connection state: Closing"

/-- How a client words that the line was cut. -/
def ofCut : String := "IO error: connection aborted"

end ReplyCode

namespace Broker

/-- A broker that nobody has dialed yet. -/
def idle : Broker := ⟨0, [], [], 0, [], [], []⟩

def line? (broker : Broker) (connection : ConnectionId) : Option Line :=
  broker.lines.find? (·.id = connection)

/-- Changes one connection. -/
def updateLine (connection : ConnectionId) (change : Line → Line) (broker : Broker) : Broker :=
  { broker with
    lines := broker.lines.map fun line => if line.id = connection then change line else line }

def isUp (broker : Broker) (connection : ConnectionId) : Bool :=
  match broker.line? connection with
  | some line => decide (line.state = .up)
  | none => false

/-- Whether a channel can be used, and if not, the state it is in. -/
def channelState (broker : Broker) (channel : Channel) : Option String :=
  match broker.line? channel.connection with
  | none => some "Closed"
  | some line =>
      if line.shut.contains channel.number then some "Closed"
      else match line.state with
        | .up => none
        | .left => some "Closed"
        | .lost => some "Error"

def usable (broker : Broker) (channel : Channel) : Bool := (broker.channelState channel).isNone

def signal (signal : Signal) (broker : Broker) : Broker :=
  { broker with signals := broker.signals ++ [signal] }

/-- Ends the streams of the consumers that meet a condition. -/
def endStreams (concerned : Consumer → Bool) (error : Option String) (broker : Broker) : Broker :=
  { broker with
    consumers := broker.consumers.filter (!concerned ·)
    signals := broker.signals
      ++ (broker.consumers.filter concerned).map fun consumer => .streamEnded consumer.tag error }

/-- The broker closes a channel. -/
def shutChannel (channel : Channel) (reason : String) (broker : Broker) : Broker :=
  (broker.updateLine channel.connection fun line =>
    { line with shut := channel.number :: line.shut }).endStreams (·.channel = channel) (some reason)

/-- The broker closes a connection, or it is cut. -/
def lose (connection : ConnectionId) (reason : String) (broker : Broker) : Broker :=
  ((broker.updateLine connection fun line => { line with state := .lost }).signal
    (.connectionLost connection reason)).endStreams
      (·.channel.connection = connection) (some reason)

/-- Carries out a refusal on a channel. -/
def refuse (channel : Channel) (broker : Broker) : Refusal → Broker
  | .closeChannel code text =>
      let reason := ReplyCode.ofChannel code text
      if channel.number = 0 then broker.lose channel.connection reason
      else broker.shutChannel channel reason
  | .closeConnection code text =>
      broker.lose channel.connection (ReplyCode.ofConnection code text)
  | .cut => broker.lose channel.connection ReplyCode.ofCut

/-- Receives a method: records it and consults the rules. -/
def receive (channel : Channel) (method : Method) (broker : Broker) :
    Option Refusal × Broker :=
  let (refusal, rules) := Rule.consult method.word method.subject? broker.rules
  (refusal, { broker with rules, record := broker.record ++ [⟨channel, method⟩] })

/-- A method whose sender waits for the answer; says whether it was granted. -/
def request (channel : Channel) (method : Method) (broker : Broker) : Bool × Broker :=
  if broker.usable channel then
    match broker.receive channel method with
    | (none, broker) => (true, broker)
    | (some refusal, broker) => (false, broker.refuse channel refusal)
  else (false, broker)

/-- A method whose sender waits for nothing; says whether it was sent. -/
def post (channel : Channel) (method : Method) (broker : Broker) : Bool × Broker :=
  if broker.usable channel then
    match broker.receive channel method with
    | (none, broker) => (true, broker)
    | (some refusal, broker) => (true, broker.refuse channel refusal)
  else (false, broker)

/-- A client dials. A refusal before the connection is open is no loss of one. -/
def dial (target : Option DialTarget) (name : String) (broker : Broker) :
    Except String ConnectionId × Broker :=
  match target with
  | none => (.error "invalid address", broker)
  | some target =>
      let id := broker.dialed + 1
      let broker := { broker with dialed := id }
      let (refusal, rules) := Rule.consult Method.signingIn none broker.rules
      let broker := { broker with rules }
      match refusal with
      | some _ => (.error "not allowed to sign in", broker)
      | none =>
          match broker.receive ⟨id, 0⟩ (.openConnection target name) with
          | (some _, broker) => (.error "not allowed to open", broker)
          | (none, broker) =>
              (.ok id, { broker with lines := broker.lines ++ [⟨id, .up, 0, [], []⟩] })

/-- A client opens a channel. A connection whose channel was refused is of no further
use. -/
def openChannel (connection : ConnectionId) (broker : Broker) :
    Except String Channel × Broker :=
  match broker.line? connection with
  | none => (.error "no connection", broker)
  | some line =>
      if line.state = .up then
        let channel : Channel := ⟨connection, line.channels + 1⟩
        match broker.receive channel .openChannel with
        | (none, broker) =>
            (.ok channel, broker.updateLine connection fun line =>
              { line with channels := line.channels + 1 })
        | (some _, broker) =>
            (.error "channel refused", broker.lose connection "channel refused")
      else (.error "connection gone", broker)

/-- The code with which a client closes a connection. -/
def farewellCode : Nat := 200

/-- A client closes a connection. -/
def disconnect (connection : ConnectionId) (text : String) (broker : Broker) :
    Except String Unit × Broker :=
  if broker.isUp connection then
    match broker.receive ⟨connection, 0⟩ (.closeConnection farewellCode text) with
    | (none, broker) =>
        (.ok (), (broker.updateLine connection fun line =>
          { line with state := .left }).endStreams (·.channel.connection = connection) none)
    | (some refusal, broker) =>
        (.error "connection gone", broker.refuse ⟨connection, 0⟩ refusal)
  else (.error "connection gone", broker)

/-- A client publishes; nothing is confirmed. -/
def publish (channel : Channel) (publication : Publication) (broker : Broker) :
    Except PublishFault Confirmation × Broker :=
  match broker.channelState channel with
  | some state => (.error ⟨"invalid channel state: " ++ state, .channelState, false⟩, broker)
  | none => (.ok .unasked, (broker.post channel (.publish publication)).2)

/-- A client starts a consumer. -/
def startConsumer (channel : Channel) (queue : String) (broker : Broker) :
    Option ConsumerTag × Broker :=
  let tag : ConsumerTag := ⟨queue, broker.nextSerial⟩
  let broker := { broker with nextSerial := broker.nextSerial + 1 }
  match broker.request channel (.startConsumer tag) with
  | (true, broker) => (some tag, { broker with consumers := broker.consumers ++ [⟨tag, channel⟩] })
  | (false, broker) => (none, broker)

/-- A client cancels a consumer. -/
def cancelConsumer (channel : Channel) (tag : ConsumerTag) (broker : Broker) : Bool × Broker :=
  match broker.request channel (.cancelConsumer tag) with
  | (true, broker) => (true, broker.endStreams (·.tag = tag) none)
  | (false, broker) => (false, broker)

/-- The broker as its client reaches it. -/
def wire (target : Option DialTarget) (name : String) : Wire Broker where
  dial := dial target name
  openChannel := openChannel
  disconnect := disconnect
  declare channel declaration := request channel (.declare declaration)
  publish := publish
  limitPrefetch channel count := request channel (.limitPrefetch count)
  startConsumer := startConsumer
  cancelConsumer := cancelConsumer

/-- The newest connection that is up. -/
def newestLine? (broker : Broker) : Option Line :=
  (broker.lines.filter fun line => line.state = .up).getLast?

/-- The newest consumer of a queue. -/
def newestConsumer? (queue : String) (broker : Broker) : Option Consumer :=
  (broker.consumers.filter (·.tag.queue = queue)).getLast?

/-- The broker delivers a message on a channel; gives the number of the delivery. -/
def deliver (channel : Channel) (broker : Broker) : Nat × Broker :=
  let count := match broker.line? channel.connection with
    | some line => (line.delivered.lookup channel.number).getD 0 + 1
    | none => 1
  (count, broker.updateLine channel.connection fun line =>
    { line with delivered := (channel.number, count) :: line.delivered })

/-- The broker closes a channel of the newest connection. -/
def closeChannel (number code : Nat) (text : String) (broker : Broker) : Broker :=
  match broker.newestLine? with
  | none => broker
  | some line =>
      if broker.usable ⟨line.id, number⟩ then
        broker.shutChannel ⟨line.id, number⟩ (ReplyCode.ofChannel code text)
      else broker

/-- The broker closes the newest connection. -/
def closeConnection (code : Nat) (text : String) (broker : Broker) : Broker :=
  match broker.newestLine? with
  | none => broker
  | some line => broker.lose line.id (ReplyCode.ofConnection code text)

/-- The newest connection is cut. -/
def cut (broker : Broker) : Broker :=
  match broker.newestLine? with
  | none => broker
  | some line => broker.lose line.id ReplyCode.ofCut

/-- The broker cancels the newest consumer of a queue; says whether there was one. -/
def cancel (queue : String) (broker : Broker) : Bool × Broker :=
  match broker.newestConsumer? queue with
  | none => (false, broker)
  | some consumer => (true, broker.endStreams (· = consumer) none)

/-- Hands out what was received since it was last asked. -/
def takeRecord (broker : Broker) : List Frame × Broker :=
  (broker.record, { broker with record := [] })

/-- Hands out what the client was not told yet. -/
def takeSignals (broker : Broker) : List Signal × Broker :=
  (broker.signals, { broker with signals := [] })

end Broker

end Redelivery.Rehearsal
