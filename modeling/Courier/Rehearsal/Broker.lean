import Courier.Amqp.Connection

/-!
# A scripted broker

The broker of a rehearsal follows a script: how it greets, which methods it refuses, what it says
about published messages, and what its consumers get.  It hands a consumer one delivery at a time,
the next one when the last is settled, and notes everything that it is sent.

## Main definitions

* `Rehearsal.BrokerScript`: the script.
* `Rehearsal.Broker`: a broker that follows it.
* `Rehearsal.Broker.answer`: the answer to a question.
* `Rehearsal.Broker.handOut?`, `Rehearsal.Broker.endConsumers`: what consumers get, and their end.
-/

namespace Courier

namespace Rehearsal

open Amqp (Ask Closure Method)

/-- How a broker refuses something. -/
inductive Refusal where
  | closeChannel (closure : Closure)
  | closeConnection (closure : Closure)
  | hangUp
  deriving DecidableEq, Repr

/-- The words for a refusal. -/
def Refusal.reason : Refusal → Reason
  | .closeChannel c => c.reason
  | .closeConnection c => c.reason
  | .hangUp => none

/-- A method that is refused. -/
structure Fault where
  /-- The name of the method. -/
  method : String
  /-- Which one of that name it is, counted from one. -/
  nth : Nat
  /-- How it is refused. -/
  refusal : Refusal
  deriving DecidableEq, Repr

/-- How a broker greets. -/
inductive Greeting where
  /-- As it should. -/
  | proper
  /-- With another version of the protocol. -/
  | otherVersion
  /-- Not at all. -/
  | hangUp
  /-- It does not let the client in. -/
  | refuse (closure : Closure)
  deriving DecidableEq, Repr

/-- What a broker says about a published message. -/
inductive Judgement where
  | confirm (confirmation : Amqp.Confirmation)
  | refuse (refusal : Refusal)
  deriving DecidableEq, Repr

/-- A delivery to come. -/
structure Parcel where
  /-- What is delivered. -/
  occurrence : Amqp.Occurrence
  /-- A closure of the channel that follows it at once. -/
  closing : Option Closure
  deriving DecidableEq, Repr

/-- How a consumer ends when everything is settled. -/
inductive Ending where
  /-- The broker cancels the consumer alone. -/
  | cancel
  /-- The broker refuses to go on. -/
  | refuse (refusal : Refusal)
  deriving DecidableEq, Repr

/-- What a consumer gets. -/
structure ConsumerScript where
  /-- Its deliveries. -/
  parcels : List Parcel
  /-- Its end, if it has one. -/
  ending : Option Ending
  deriving DecidableEq, Repr

/-- What a broker does. -/
structure BrokerScript where
  /-- Where it is reached. -/
  url : String
  greeting : Greeting
  faults : List Fault
  /-- The name that it gives to a queue without one. -/
  queueName : String
  /-- What it says about messages, one after the other; it confirms all further ones. -/
  judgements : List Judgement
  /-- How many channels may be open at once, if there is a limit. -/
  channelMax : Option Nat
  /-- What consumers get, in the order of their start. -/
  consumers : List ConsumerScript

/-- A consumer. -/
structure Subscription where
  /-- The number of its channel. -/
  channel : Nat
  /-- The deliveries to come. -/
  parcels : List Parcel
  /-- How many deliveries it was handed. -/
  handed : Nat
  /-- Whether the last one of them is not settled. -/
  unsettled : Bool
  /-- Its end, if it has one. -/
  ending : Option Ending
  /-- Whether it was cancelled. -/
  cancelled : Bool
  deriving DecidableEq, Repr

/-- A broker that follows a script, with channels that a client gave names in `χ`. -/
structure Broker (χ : Type) where
  /-- The rest of the script. -/
  script : BrokerScript
  /-- Whether there is a connection. -/
  connected : Bool
  /-- The numbers of the channels by their names, the latest first. -/
  names : List (χ × Nat)
  /-- The numbers of the open channels. -/
  live : List Nat
  /-- The consumers, in the order of their start. -/
  subscriptions : List Subscription
  /-- What was sent on which channel, the latest first; the connection itself counts as zero. -/
  sent : List (Nat × Method)

namespace Broker

variable {χ : Type}

/-- A broker to which nobody has connected. -/
def start (script : BrokerScript) : Broker χ := ⟨script, false, [], [], [], []⟩

/-- The broker without a channel. -/
def closeChannel (b : Broker χ) (n : Nat) : Broker χ :=
  { b with live := b.live.filter (· ≠ n) }

/-- The broker after the end of the connection. -/
def lose (b : Broker χ) : Broker χ := { b with connected := false, live := [] }

/-- The broker after a refusal on a channel. -/
def refuse (b : Broker χ) (n : Nat) : Refusal → Broker χ
  | .closeChannel _ => if n = 0 then b.lose else b.closeChannel n
  | .closeConnection _ => b.lose
  | .hangUp => b.lose

/-- The broker after it was sent a method, and whether the script refuses that one. -/
def receive (b : Broker χ) (n : Nat) (m : Method) : Option Refusal × Broker χ :=
  let sent := (n, m) :: b.sent
  let nth := (sent.filter fun (_, other) => other.name = m.name).length
  ((b.script.faults.find? fun fault => fault.method = m.name ∧ fault.nth = nth).map Fault.refusal,
    { b with sent })

/-- A connection is made, and its virtual host opened. -/
def connect (b : Broker χ) (url : String) : Except Reason Unit × Broker χ :=
  if url ≠ b.script.url then (.error none, b)
  else
    match b.script.greeting with
    | .otherVersion => (.error (some "the server only supports AMQP 0.8.0"), b)
    | .hangUp => (.error none, b)
    | .refuse closure => (.error closure.reason, b)
    | .proper =>
      match b.receive 0 (.connectionOpen "/") with
      | (some refusal, b) => (.error refusal.reason, b)
      | (none, b) => (.ok (), { b with connected := true })

/-- The connection is ended by the client. -/
def disconnect (b : Broker χ) (closure : Closure) : Except Reason Unit × Broker χ :=
  if b.connected then
    match b.receive 0 (.connectionClose closure) with
    | (some refusal, b) => (.error refusal.reason, b.lose)
    | (none, b) => (.ok (), b.lose)
  else (.error none, b)

/-- Whether one more channel may be opened. -/
def hasRoom (b : Broker χ) : Bool := b.script.channelMax.all fun limit => b.live.length < limit

/-- A channel is opened; the channels are counted in the order of their opening. -/
def openChannel (b : Broker χ) (channel : χ) : Except Reason Unit × Broker χ :=
  if b.connected ∧ b.hasRoom then
    let n := b.names.length + 1
    let b := { b with names := (channel, n) :: b.names }
    match b.receive n .channelOpen with
    | (some refusal, b) => (.error refusal.reason, b.refuse n refusal)
    | (none, b) => (.ok (), { b with live := n :: b.live })
  else (.error none, b)

/-- The broker with a change to the consumers of a channel. -/
def withConsumers (b : Broker χ) (n : Nat) (f : Subscription → Subscription) : Broker χ :=
  { b with subscriptions := b.subscriptions.map fun s => if s.channel = n then f s else s }

/-- The broker with one more consumer. -/
def subscribe (b : Broker χ) (n : Nat) : Broker χ :=
  let script : ConsumerScript := b.script.consumers.headD ⟨[], none⟩
  let subscription : Subscription :=
    { channel := n, parcels := script.parcels, handed := 0, unsettled := false,
      ending := script.ending, cancelled := false }
  { b with
    script := { b.script with consumers := b.script.consumers.tail }
    subscriptions := b.subscriptions ++ [subscription] }

/-- The next judgement of a message. -/
def judge (b : Broker χ) : Judgement × Broker χ :=
  match b.script.judgements with
  | [] => (.confirm .ack, b)
  | judgement :: rest => (judgement, { b with script := { b.script with judgements := rest } })

/-- The answer to a method that the script does not refuse. -/
def respond (b : Broker χ) (n : Nat) : (m : Method) → Except Reason m.Reply × Broker χ
  | .queueDeclare name .. => (.ok (if name.isEmpty then b.script.queueName else name), b)
  | .basicPublish _ =>
    match b.judge with
    | (.confirm confirmation, b) => (.ok confirmation, b)
    | (.refuse refusal, b) => (.error refusal.reason, b.refuse n refusal)
  | .basicConsume .. => (.ok (), b.subscribe n)
  | .basicCancel _ => (.ok (), b.withConsumers n fun s => { s with cancelled := true })
  | .basicAck _ => (.ok (), b.withConsumers n fun s => { s with unsettled := false })
  | .basicNack _ => (.ok (), b.withConsumers n fun s => { s with unsettled := false })
  | .channelClose _ => (.ok (), b.closeChannel n)
  | .connectionOpen _ => (.ok (), b)
  | .connectionClose _ => (.ok (), b)
  | .channelOpen => (.ok (), b)
  | .exchangeDeclare _ => (.ok (), b)
  | .queueBind .. => (.ok (), b)
  | .confirmSelect => (.ok (), b)
  | .basicQos _ => (.ok (), b)

/-- The answer to a method that the script refuses.  Nothing is awaited after a settlement, so
that its refusal shows only later. -/
def reject (b : Broker χ) (n : Nat) (refusal : Refusal) :
    (m : Method) → Except Reason m.Reply × Broker χ
  | .basicAck _ => (.ok (), b.refuse n refusal)
  | .basicNack _ => (.ok (), b.refuse n refusal)
  | _ => (.error refusal.reason, b.refuse n refusal)

variable [DecidableEq χ]

/-- The number of an open channel. -/
def number? (b : Broker χ) (channel : χ) : Option Nat :=
  (b.names.lookup channel).filter fun n => b.connected && b.live.contains n

/-- A method is sent. -/
def call (b : Broker χ) (channel : χ) (m : Method) : Except Reason m.Reply × Broker χ :=
  match b.number? channel with
  | none => (.error none, b)
  | some n =>
    match b.receive n m with
    | (some refusal, b) => b.reject n refusal m
    | (none, b) => b.respond n m

/-- The answer to a question. -/
def answer : (q : Ask χ) → Broker χ → q.Answer × Broker χ
  | .connect url, b => b.connect url
  | .isConnected, b => (b.connected, b)
  | .disconnect closure, b => b.disconnect closure
  | .openChannel channel, b => b.openChannel channel
  | .isOpen channel, b => ((b.number? channel).isSome, b)
  | .call channel m, b => b.call channel m

/-- A dialogue with the broker. -/
def talk {α : Type} (b : Broker χ) (d : Amqp.Connection χ α) : α × Broker χ := d.run answer b

/-- The consumer of a channel, while it can get deliveries. -/
def consumer? (b : Broker χ) (channel : χ) : Option Subscription :=
  (b.number? channel).bind fun n =>
    b.subscriptions.find? fun s => s.channel = n ∧ ¬ s.cancelled

/-- Hands out the next delivery of a channel. -/
def handOut? (b : Broker χ) (channel : χ) : Option (UInt64 × Amqp.Occurrence × Broker χ) :=
  match b.consumer? channel with
  | none => none
  | some s =>
    if s.unsettled then none
    else
      match s.parcels with
      | [] => none
      | parcel :: rest =>
        let b := b.withConsumers s.channel fun s =>
          { s with parcels := rest, handed := s.handed + 1, unsettled := true }
        some (UInt64.ofNat (s.handed + 1), parcel.occurrence,
          if parcel.closing.isSome then b.closeChannel s.channel else b)

/-- The end of one consumer, if it has a script for it and is still there. -/
def endConsumer (b : Broker χ) (s : Subscription) : Broker χ :=
  if b.live.contains s.channel then
    match s.ending with
    | none => b
    | some .cancel => b.withConsumers s.channel fun s => { s with cancelled := true }
    | some (.refuse refusal) => b.refuse s.channel refusal
  else b

/-- The end of all consumers whose scripts have one. -/
def endConsumers (b : Broker χ) : Broker χ := b.subscriptions.foldl endConsumer b

/-- What was sent on every channel that was used, the first one first. -/
def transcript (b : Broker χ) : List (Nat × List Method) :=
  let sent := b.sent.reverse
  let sentOn := fun n => sent.filterMap fun (m, method) => if m = n then some method else none
  ((List.range (b.names.length + 1)).map fun n => (n, sentOn n)).filter fun (_, ms) => !ms.isEmpty

end Broker

end Rehearsal

end Courier
