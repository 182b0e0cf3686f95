import WeighScale.Handoff
import WeighScale.Log

set_option autoImplicit false

/-! # Effects

Everything the scale does to what surrounds it, one constructor for each thing done. A list
of effects is what an observer of the lines, the timers, the endstops, the transport and the
log sees of a run.
-/

namespace WeighScale

inductive Effect
  | setupInput (pin : Pin) (pull : Pull) (fault : Option PinFault)
  | setupOutput (pin : Pin) (high : Level) (fault : Option PinFault)
  | read (pin : Pin) (high : Level) (fault : Option PinFault)
  | drive (pin : Pin) (high : Level) (fault : Option PinFault)
  | cancel (oid : UInt8)
  | schedule (oid : UInt8) (clock : Clock)
  | wake (slot : Nat) (sample : Sample)
  | probe (endstop : UInt8) (value : Int32) (clock : Clock)
  | send (body : List UInt8)
  | log (line : LogLine)
  deriving DecidableEq, Repr

/-- The body of the message, if the effect is that one was sent. -/
def Effect.sent? : Effect → Option (List UInt8)
  | send body => some body
  | _ => none

end WeighScale
