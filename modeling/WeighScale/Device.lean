import WeighScale.Rig

set_option autoImplicit false

/-! # Devices

A device is one converter: the lines it is on, its settings and how far its frame has come.
It is clocked from timer callbacks, one half-cycle in each (`Device.callback`), so a frame is
spread over as many callbacks as it has half-cycles and nothing waits in between.

A callback first reads the data line. What there is to do then depends on the device and on
the level alone (`Device.turn`):

* before a frame, a high level says that the converter has no conversion ready; the clock line
  stays as it is and the device asks for another callback;
* within a frame, the level is taken and the clock line is driven to its next level;
* at the last half-cycle of a frame, the sample is complete; the clock line is left low and the
  sample is handed over.

Enabling always begins anew. Disabling lets the frame in flight run to its end, after which
the device asks for no more callbacks.
-/

namespace WeighScale

/-- A converter, with the state of its sampling. -/
structure Device where
  oid : UInt8
  dout : Pin
  sck : Pin
  gain : Gain
  polarity : Polarity
  delays : Delays
  /-- The slot that completed samples are put into. -/
  slot : Nat
  frame : Frame
  /-- The last sample completed. -/
  latest : Int32
  endstop : Option UInt8
  /-- Sampling goes on after the frame in flight. -/
  active : Bool
  /-- A callback is to come. -/
  running : Bool
  /-- The clock of the callback to come, or of the last one. -/
  waketime : Clock
  deriving DecidableEq, Repr, Inhabited

namespace Device

/-! ## One callback, as a decision -/

/-- What a callback finds to do, once it has read the data line. -/
inductive Turn
  | wait
  | clock (high : Level) (frame : Frame)
  | complete (value : Int32)
  deriving DecidableEq, Repr

/-- What there is to do when the data line is at `high`. -/
def turn (device : Device) (high : Level) : Turn :=
  if device.frame.halfCycles = 0 ∧ high = true then .wait
  else
    let frame := device.frame.advance high
    if frame.isOver device.gain then .complete (frame.value device.polarity)
    else .clock device.frame.clockLevel frame

/-- The device with its next callback `delay` after `now`. -/
def wakeAfter (device : Device) (now delay : Clock) : Device :=
  { device with waketime := now + delay }

def stop (device : Device) : Device := { device with active := false, running := false }

/-- The last value, stamped with the clock of the next callback. -/
def sample (device : Device) : Sample where
  oid := device.oid
  clock := device.waketime
  value := device.latest
  endstop := device.endstop

/-- The device after a frame: it waits for the next conversion, or stops if it is not to go
on. -/
def settle (device : Device) (now : Clock) : Device :=
  if device.active then device.wakeAfter now device.delays.sample
  else { device with running := false }

def afterFrame (device : Device) : Next :=
  if device.active then .again device.waketime else .done

/-! ## What a device does on its rig -/

/-- What came of an operation: its result, and the device and the rig after it. -/
structure Outcome (α β : Type) where
  result : Except PinFault α
  device : Device
  rig : Rig β

variable {β : Type} [Board β]

/-- Drives the clock line, and goes on with `next` if that succeeds. A device that fails to
drive its line is left as it is. -/
def driveThen {α : Type} (device : Device) (high : Level) (rig : Rig β)
    (next : Rig β → Outcome α β) : Outcome α β :=
  match rig.drive device.sck high with
  | (.error fault, rig) => ⟨.error fault, device, rig⟩
  | (.ok (), rig) => next rig

/-- Drives the clock line high, which keeps the converter powered down until it is enabled. -/
def powerDown (device : Device) (rig : Rig β) : Except PinFault Unit × Rig β :=
  rig.drive device.sck true

/-- Claims the lines and powers the converter down. -/
def attach (device : Device) (rig : Rig β) : Except PinFault Unit × Rig β :=
  match rig.setupInput device.dout .down with
  | (.error fault, rig) => (.error fault, rig)
  | (.ok (), rig) =>
      match rig.setupOutput device.sck true with
      | (.error fault, rig) => (.error fault, rig)
      | (.ok (), rig) => device.powerDown rig

/-- Begins sampling anew: the callback to come is cancelled, the frame is cleared, the clock
line is lowered and the first ready check is asked for. A device whose clock line cannot be
lowered is stopped, since it has no callback any more. -/
def enable (device : Device) (endstop : Option UInt8) (now : Clock) (rig : Rig β) :
    Outcome Unit β :=
  let cleared := { device with frame := .start }
  let rig := rig.cancel device.oid
  match rig.drive device.sck false with
  | (.error fault, rig) =>
      -- the callback is cancelled already, so nothing would clock the device again
      ⟨.error fault, cleared.stop, rig⟩
  | (.ok (), rig) =>
      let started :=
        { cleared with endstop, active := true, running := true }.wakeAfter now
          device.delays.retry
      ⟨.ok (), started, rig.schedule device.oid started.waketime⟩

/-- Lets sampling end with the frame in flight. -/
def disable (device : Device) (endstop : Option UInt8) : Device :=
  { device with endstop, active := false }

/-- Starts or stops sampling, and links the device to an endstop. -/
def query (device : Device) (enable : Bool) (endstop : Option UInt8) (now : Clock)
    (rig : Rig β) : Outcome Unit β :=
  if enable then device.enable endstop now rig
  else ⟨.ok (), device.disable endstop, rig⟩

/-- What a callback does once it has read the data line. -/
def act (device : Device) (now : Clock) (rig : Rig β) : Turn → Outcome Next β
  | .wait =>
      let device := device.wakeAfter now device.delays.retry
      ⟨.ok (.again device.waketime), device, rig⟩
  | .clock high frame =>
      -- the half-cycle counts as done even if the line cannot be driven
      { device with frame }.driveThen high rig fun rig =>
        let device := { device with frame }.wakeAfter now device.delays.edge
        ⟨.ok (.again device.waketime), device, rig⟩
  | .complete value =>
      -- likewise the sample is the latest one even if it is not handed over
      { device with frame := .start, latest := value }.driveThen false rig fun rig =>
        let device := { device with frame := .start, latest := value }.settle now
        ⟨.ok device.afterFrame, device, rig.wake device.slot device.sample⟩

/-- One timer callback: reads the data line and does what there is to do. A device that fails
to read it is left as it is. -/
def callback (device : Device) (now : Clock) (rig : Rig β) : Outcome Next β :=
  match rig.read device.dout with
  | (.error fault, rig) => ⟨.error fault, device, rig⟩
  | (.ok high, rig) => device.act now rig (device.turn high)

end Device

end WeighScale
