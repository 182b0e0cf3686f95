import WeighScale.Wire.Buffer
import WeighScale.Wire.Message

set_option autoImplicit false

/-! # Readings for the host

A completed sample is sent to the host as a reading: the converter it comes from, a clock and
the value. The host reads it back with `Reading.decode`.
-/

namespace WeighScale.Wire

/-- A sample as the host sees it. -/
structure Reading where
  oid : UInt8
  clock : UInt32
  value : Int32
  deriving DecidableEq, Repr, Inhabited

namespace Reading

/-- The fields of the message, the id first. -/
def fields (reading : Reading) (ids : Ids) : List UInt32 :=
  [ids.reading, reading.oid.toUInt32, reading.clock, reading.value.toUInt32]

def encode (reading : Reading) (ids : Ids) : Except EncodeError (List UInt8) :=
  match (Buffer.empty maxMessageSize).writeFields (reading.fields ids) with
  | .ok buffer => .ok buffer.bytes
  | .error e => .error e

end Reading

namespace Reader

def reading (ids : Ids) : Reader Reading := do
  let id ← word
  if id ≠ ids.reading then throw (.unknownMessage id)
  let oid ← byte "oid"
  let clock ← word
  let value ← signed
  return { oid, clock, value }

end Reader

/-- The reading that a message body holds. -/
def Reading.decode (ids : Ids) (body : List UInt8) : Except DecodeError Reading :=
  (Reader.reading ids).run' body

end WeighScale.Wire
