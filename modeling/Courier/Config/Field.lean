import Courier.Config.Basic
import Courier.Json.Number
import Courier.Json.Record
import Courier.Text.Unsigned

/-!
# The fields of a configuration

A configuration is put together from values for some of its fields; all but one have a default.
The values come from an environment, as text, or from a JSON record.

## Main definitions

* `Config.Field`: the fields, with their names and the kinds of their values.
* `Config.Draft`: values for some fields.
* `Config.ofDraft?`: the configuration of a draft.
* `Config.ofJson?`: the configuration of a JSON record.
-/

namespace Courier

namespace Config

/-- The kind of the value of a field. -/
inductive Kind where
  | text
  | optionalText
  | word16
  | word32
  | word64
  deriving DecidableEq, Repr

/-- The values of a kind. -/
def Kind.Value : Kind → Type
  | .text => String
  | .optionalText => Option String
  | .word16 => UInt16
  | .word32 => UInt32
  | .word64 => UInt64

/-- The value of a kind that a text stands for. -/
def Kind.ofText : (k : Kind) → String → Except Unsigned.Fault k.Value
  | .text, s => .ok s
  | .optionalText, s => .ok (some s)
  | .word16, s => (Unsigned.read 65536 s).map UInt16.ofNat
  | .word32, s => (Unsigned.read 4294967296 s).map UInt32.ofNat
  | .word64, s => (Unsigned.read 18446744073709551616 s).map UInt64.ofNat

/-- The natural number below `bound` that a JSON value is. -/
def natOfJson? (bound : Nat) : Json.Value → Option Nat
  | .number l => l.nat?.bind fun n => if n < bound then some n else none
  | _ => none

/-- The value of a kind that a JSON value is. -/
def Kind.ofJson? : (k : Kind) → Json.Value → Option k.Value
  | .text, v => v.text?
  | .optionalText, v => Json.nullable? Json.Value.text? v
  | .word16, v => (natOfJson? 65536 v).map UInt16.ofNat
  | .word32, v => (natOfJson? 4294967296 v).map UInt32.ofNat
  | .word64, v => (natOfJson? 18446744073709551616 v).map UInt64.ofNat

/-- The fields of a configuration. -/
inductive Field where
  | rabbitmqUrl
  | mainExchange
  | retryExchange
  | deadLetterExchange
  | mainQueue
  | retryQueue
  | deadLetterQueue
  | mainRoutingKey
  | retryRoutingKey
  | deadLetterRoutingKey
  | workerCount
  | prefetchCount
  | retryDelayMs
  | maxRetries
  | defaultPushToken
  | deliveryTimeoutMs
  | fcmProjectId
  | fcmBaseUrl
  | serverPort
  | publishBuffer
  | shutdownGraceMs
  deriving DecidableEq, Repr

namespace Field

/-- The fields in their order. -/
def all : List Field :=
  [.rabbitmqUrl, .mainExchange, .retryExchange, .deadLetterExchange, .mainQueue, .retryQueue,
    .deadLetterQueue, .mainRoutingKey, .retryRoutingKey, .deadLetterRoutingKey, .workerCount,
    .prefetchCount, .retryDelayMs, .maxRetries, .defaultPushToken, .deliveryTimeoutMs,
    .fcmProjectId, .fcmBaseUrl, .serverPort, .publishBuffer, .shutdownGraceMs]

/-- The name of a field. -/
def name : Field → String
  | rabbitmqUrl => "rabbitmq_url"
  | mainExchange => "main_exchange"
  | retryExchange => "retry_exchange"
  | deadLetterExchange => "dead_letter_exchange"
  | mainQueue => "main_queue"
  | retryQueue => "retry_queue"
  | deadLetterQueue => "dead_letter_queue"
  | mainRoutingKey => "main_routing_key"
  | retryRoutingKey => "retry_routing_key"
  | deadLetterRoutingKey => "dead_letter_routing_key"
  | workerCount => "worker_count"
  | prefetchCount => "prefetch_count"
  | retryDelayMs => "retry_delay_ms"
  | maxRetries => "max_retries"
  | defaultPushToken => "default_push_token"
  | deliveryTimeoutMs => "delivery_timeout_ms"
  | fcmProjectId => "fcm_project_id"
  | fcmBaseUrl => "fcm_base_url"
  | serverPort => "server_port"
  | publishBuffer => "publish_buffer"
  | shutdownGraceMs => "shutdown_grace_ms"

/-- The kind of the value of a field. -/
def kind : Field → Kind
  | workerCount | retryDelayMs | deliveryTimeoutMs | publishBuffer | shutdownGraceMs => .word64
  | maxRetries => .word32
  | prefetchCount | serverPort => .word16
  | defaultPushToken => .optionalText
  | _ => .text

/-- The field with a name. -/
def ofName? (name : String) : Option Field := all.find? fun f => f.name == name

/-- The list of all fields leaves none out. -/
theorem mem_all (f : Field) : f ∈ all := by cases f <;> decide

end Field

/-- Values for some fields. -/
abbrev Draft := (f : Field) → Option f.kind.Value

namespace Draft

/-- No values. -/
def empty : Draft := fun _ => none

/-- A draft with one more value. -/
def set (d : Draft) (f : Field) (v : f.kind.Value) : Draft :=
  fun g => if h : f = g then some (h ▸ v) else d g

end Draft

/-- The configuration of a draft, all other fields at their defaults.  Only the address of the
broker has none. -/
def ofDraft? (d : Draft) : Option Config :=
  (d .rabbitmqUrl).map fun url => {
    rabbitmqUrl := url
    mainExchange := (d .mainExchange).getD "push_notifs"
    retryExchange := (d .retryExchange).getD "retry-notifs_ex"
    deadLetterExchange := (d .deadLetterExchange).getD "push_notifs_dlx"
    mainQueue := (d .mainQueue).getD "push_notifs_queue"
    retryQueue := (d .retryQueue).getD "retry-notifs_queue"
    deadLetterQueue := (d .deadLetterQueue).getD "push_notifs_dlq"
    mainRoutingKey := (d .mainRoutingKey).getD "notifs"
    retryRoutingKey := (d .retryRoutingKey).getD "retried-messages"
    deadLetterRoutingKey := (d .deadLetterRoutingKey).getD "failed-messages"
    workerCount := (d .workerCount).getD (5 : UInt64)
    prefetchCount := (d .prefetchCount).getD (1 : UInt16)
    retryDelayMs := (d .retryDelayMs).getD (5000 : UInt64)
    maxRetries := (d .maxRetries).getD (5 : UInt32)
    defaultPushToken := (d .defaultPushToken).getD (none : Option String)
    deliveryTimeoutMs := (d .deliveryTimeoutMs).getD (10000 : UInt64)
    fcmProjectId := (d .fcmProjectId).getD ""
    fcmBaseUrl := (d .fcmBaseUrl).getD "https://fcm.googleapis.com"
    serverPort := (d .serverPort).getD (8080 : UInt16)
    publishBuffer := (d .publishBuffer).getD (256 : UInt64)
    shutdownGraceMs := (d .shutdownGraceMs).getD (30000 : UInt64) }

/-- The configuration with everything but the address of the broker at its default. -/
def standard (url : String) : Config := (ofDraft? (Draft.empty.set .rabbitmqUrl url)).get rfl

/-- Adds the value that a record has for a field. -/
def addFromRecord? (fields : Json.Fields) (d : Draft) (f : Field) : Option Draft :=
  match fields.get? f.name with
  | none => some d
  | some v => (f.kind.ofJson? v).map (d.set f)

/-- The draft of a JSON record. -/
def draftOfJson? (v : Json.Value) : Option Draft :=
  (Json.fields? (Field.all.map Field.name) v).bind fun fields =>
    Field.all.foldlM (addFromRecord? fields) .empty

/-- The configuration of a JSON record. -/
def ofJson? (v : Json.Value) : Option Config := (draftOfJson? v).bind ofDraft?

end Config

end Courier
