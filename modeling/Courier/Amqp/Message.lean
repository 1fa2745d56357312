import Courier.Amqp.Value

/-!
# Messages

A message reaches a worker as an occurrence: its body, the two properties that a retry keeps, and
the counter of its retries.  The counter travels in the header `x-retry-count`, is written as a
signed integer of 64 bits and read from an integer of any width, clamped to 32 bits.

## Main definitions

* `Amqp.Occurrence`, `Amqp.Outgoing`: a message as it comes and as it goes.
* `Amqp.retryCount`, `Amqp.retryHeaders`: the counter in and out of the headers.
* `Amqp.Outgoing.properties`: the properties that a message is published with.
-/

namespace Courier

namespace Amqp

/-- The header that carries the counter of retries. -/
def retryCountHeader : String := "x-retry-count"

/-- An integer clamped to 32 bits. -/
def clamp32 (n : Int) : UInt32 := UInt32.ofNat (min n.toNat 4294967295)

/-- The counter of retries in some headers: zero if it is missing or no integer. -/
def retryCount (headers : Option Table) : UInt32 :=
  match headers.bind fun table => table.get? retryCountHeader with
  | none => 0
  | some value =>
    match value.integer? with
    | none => 0
    | some n => clamp32 n

/-- The headers with a counter of retries. -/
def retryHeaders (count : UInt32) : Table :=
  Keyed.empty.insert retryCountHeader (.int64 (Int64.ofNat count.toNat))

/-- A message as a worker gets it. -/
structure Occurrence where
  body : Bytes
  /-- The type of the body. -/
  contentType : Option String
  /-- The identity under which the message is followed. -/
  correlationId : Option String
  /-- The counter of retries. -/
  retryCount : UInt32
  deriving DecidableEq, Repr

/-- A message as it is given to a channel. -/
structure Outgoing where
  /-- The exchange that it is published to. -/
  exchange : String
  routingKey : String
  body : Bytes
  /-- The type of the body. -/
  contentType : Option String
  /-- The identity under which the message is followed. -/
  correlationId : Option String
  /-- The counter of retries; absent on a first publication. -/
  retryCount : Option UInt32
  /-- Whether the broker is to keep the message on disk. -/
  persistent : Bool
  deriving DecidableEq, Repr

/-- The properties that a message is published with. -/
structure Properties where
  contentType : Option String
  correlationId : Option String
  messageId : Option String
  deliveryMode : Option UInt8
  headers : Option Table

/-- The delivery mode of a message that is kept on disk. -/
def persistentMode : UInt8 := 2

/-- The properties of a message; its identity is that of its correlation. -/
def Outgoing.properties (m : Outgoing) : Properties where
  contentType := m.contentType
  correlationId := m.correlationId
  messageId := m.correlationId
  deliveryMode := if m.persistent then some persistentMode else none
  headers := m.retryCount.map retryHeaders

/-- A published message as it comes back to a worker. -/
def Outgoing.occurrence (m : Outgoing) : Occurrence where
  body := m.body
  contentType := m.contentType
  correlationId := m.correlationId
  retryCount := Amqp.retryCount m.properties.headers

end Amqp

end Courier
