import Courier.Keyed
import Courier.Number.Basic
import Courier.Text.Utf8

/-!
# Field tables

Messages and declarations carry tables of typed values under string keys.

## Main definitions

* `Amqp.Value`: a typed value.
* `Amqp.Table`: values under keys.
* `Amqp.Value.integer?`: the value of any of the seven integer types.
-/

namespace Courier

namespace Amqp

/-- A typed value. -/
inductive Value where
  | bool (b : Bool)
  | int8 (n : Int8)
  | uint8 (n : UInt8)
  | int16 (n : Int16)
  | uint16 (n : UInt16)
  | int32 (n : Int32)
  | uint32 (n : UInt32)
  | int64 (n : Int64)
  | float32 (x : Number)
  | float64 (x : Number)
  | decimal (scale : UInt8) (digits : UInt32)
  | shortString (s : String)
  | string (s : String)
  | timestamp (seconds : UInt64)
  | bytes (octets : Bytes)
  | table (entries : List (String × Value))
  | array (elements : List Value)
  | void
  deriving Inhabited

/-- The number that a value of an integer type is. -/
def Value.integer? : Value → Option Int
  | .int8 n => some n.toInt
  | .uint8 n => some n.toNat
  | .int16 n => some n.toInt
  | .uint16 n => some n.toNat
  | .int32 n => some n.toInt
  | .uint32 n => some n.toNat
  | .int64 n => some n.toInt
  | _ => none

/-- Values under string keys. -/
abbrev Table := Keyed Value

end Amqp

end Courier
