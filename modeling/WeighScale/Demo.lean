import WeighScale.Session

set_option autoImplicit false

/-! # A demonstration

One converter with four conversions, sampled until four readings have come in and then
disabled. The lines tell what happens, in the order in which it happens: the pins set up, the
samples shown to the endstop and the readings sent. The last line counts the readings.
-/

namespace WeighScale.Demo

/-- The conversions: a small number, a negative one, and both ends of the range. -/
def conversions : List UInt32 := [0x001234, 0xffff00, 0x800000, 0x7fffff]

/-- The readings of the data line that a conversion takes. -/
def busy : Nat := 3

def fixture : Fixture where
  oid := 0
  dout := 4
  sck := 5
  gain := 1
  invert := 1
  endstop := 7
  chip := ⟨conversions, by simp [conversions], busy, 1⟩

/-- One converter on a timer that counts microseconds. -/
def plan : SessionPlan where
  ids := .standard
  delays := .standard
  capacity := 1
  fixtures := [fixture]
  target := conversions.length
  script := []
  now := 0

/-- The callbacks that the session takes: those of a frame for each reading up to the target
and for the one in flight when the devices are disabled, and before each frame but the first
those in which the conversion is not ready. -/
def callbacks : Nat :=
  (conversions.length + 1) * Gain.a128.frameLength + conversions.length * (busy - 1)

/-- The line for an effect, if there is one. -/
def line? : Effect → Option String
  | .setupInput pin pull none => some s!"dout on pin {pin} ({pull.name})"
  | .setupOutput pin high none => some s!"sck on pin {pin} ({high.name})"
  | .probe endstop value clock => some s!"  probe {endstop}: {value} @ {clock}"
  | .send body =>
      (Wire.Reading.decode plan.ids body).toOption.map fun reading =>
        s!"hx711_in_state oid={reading.oid} clock={reading.clock} value={reading.value}"
  | _ => none

/-- The session, run to its end. -/
def session : Session := Session.run plan callbacks (Session.start plan)

def lines : List String :=
  session.journal.reverse.filterMap (fun entry => line? entry.2) ++
    [s!"stopped after {session.sent} reports"]

end WeighScale.Demo
