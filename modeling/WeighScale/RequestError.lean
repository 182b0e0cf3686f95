import WeighScale.Board
import WeighScale.Wire.Error

set_option autoImplicit false

/-! # Requests that fail

A request of the host fails for one of six causes, each with its wording.
-/

namespace WeighScale

inductive RequestError
  | pin (fault : PinFault)
  | noGain (code : UInt32)
  | noPolarity (sign : Int32)
  | noDevice (oid : UInt8)
  | noRoom
  | unreadable (error : Wire.DecodeError)
  deriving DecidableEq, Repr, Inhabited

def RequestError.message : RequestError → String
  | pin fault => s!"hx711 pin error: {fault.name}"
  | noGain code => s!"invalid hx711 gain code {code}"
  | noPolarity sign => s!"invalid hx711 invert value {sign}"
  | noDevice oid => s!"no hx711 configured with oid {oid}"
  | noRoom => "no free hx711 slot"
  | unreadable error => error.message

end WeighScale
