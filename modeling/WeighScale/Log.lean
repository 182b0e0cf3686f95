import WeighScale.Board
import WeighScale.Wire.Reading

set_option autoImplicit false

/-! # Log lines

What the scale writes to its log: one constructor for each occasion, with what the line
tells about it.
-/

namespace WeighScale

inductive LogLine
  | configured (oid : UInt8) (dout sck : Pin) (gain : Gain) (polarity : Polarity)
  | queried (oid : UInt8) (enable : Bool) (endstop : Option UInt8)
  /-- A device was stopped by a fault. -/
  | stopped (oid : UInt8) (fault : PinFault)
  /-- A reading is about to be sent. -/
  | sending (reading : Wire.Reading)
  /-- A reading could not be written. -/
  | dropped (oid : UInt8) (error : Wire.EncodeError)
  deriving DecidableEq, Repr

namespace LogLine

def severity : LogLine → String
  | configured .. => "DEBUG"
  | queried .. => "DEBUG"
  | stopped .. => "ERROR"
  | sending .. => "TRACE"
  | dropped .. => "WARN"

def endstopText : Option UInt8 → String
  | none => "None"
  | some endstop => s!"Some({endstop})"

def text : LogLine → String
  | configured oid dout sck gain polarity =>
      s!"hx711 oid={oid} configured: dout={dout} sck={sck} gain={gain.name} " ++
        s!"invert={polarity.name}"
  | queried oid enable endstop =>
      let verb := if enable then "enabled" else "disabled"
      s!"hx711 oid={oid} {verb} endstop={endstopText endstop}"
  | stopped oid fault => s!"hx711 oid={oid} pin error, stopping: {fault.name}"
  | sending reading =>
      s!"hx711 oid={reading.oid} clock={reading.clock} value={reading.value}"
  | dropped oid error => s!"hx711 oid={oid} report dropped: {error.message}"

end LogLine

end WeighScale
