import WeighScale.Wire.Message

set_option autoImplicit false

/-! # Requests from the host

A host sends two kinds of message: one that says how a converter is wired and set up, and one
that starts or stops its sampling. Decoding checks what the message formats promise and no
more: the codes for gain and polarity are passed on as they are.
-/

namespace WeighScale.Wire

/-- How a converter is wired and set up. -/
structure Configure where
  oid : UInt8
  dout : UInt32
  sck : UInt32
  gain : UInt32
  invert : Int32
  deriving DecidableEq, Repr, Inhabited

/-- Start or stop sampling, and the endstop that samples are shown to, if any. -/
structure Query where
  oid : UInt8
  enable : Bool
  endstop : Option UInt8
  deriving DecidableEq, Repr, Inhabited

inductive Request
  | configure (request : Configure)
  | query (request : Query)
  deriving DecidableEq, Repr, Inhabited

namespace Reader

def configure : Reader Configure := do
  let oid ← byte "oid"
  let dout ← word
  let sck ← word
  let gain ← word
  let invert ← signed
  return { oid, dout, sck, gain, invert }

/-- Reads the endstop of a query: none if the field is negative, otherwise a byte. -/
def endstop : Reader (Option UInt8) := do
  let v ← word
  if v.toInt32 < 0 then return none
  else if v.toNat < 256 then return some v.toUInt8
  else throw (.outOfRange "endstop_oid" v)

/-- Reads the fields of a `Query`. Any value but zero enables. -/
def query : Reader Query := do
  let oid ← byte "oid"
  let enable ← word
  let endstop ← endstop
  return { oid, enable := enable != 0, endstop }

/-- Reads a message from the host. An id that both messages have stands for `Configure`. -/
def request (ids : Ids) : Reader Request := do
  let id ← word
  if id = ids.configure then
    return .configure (← configure)
  else if id = ids.query then
    return .query (← query)
  else
    throw (.unknownMessage id)

end Reader

def Request.decode (ids : Ids) (body : List UInt8) : Except DecodeError Request :=
  (Reader.request ids).run' body

end WeighScale.Wire
