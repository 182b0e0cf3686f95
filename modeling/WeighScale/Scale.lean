import WeighScale.Device
import WeighScale.RequestError
import WeighScale.Wire.Request

set_option autoImplicit false

/-! # The scale

A scale is a fixed number of device slots on one rig. Requests of the host configure
devices, each under its oid, and start and stop their sampling; timer callbacks are passed on
to the device they are for. A device keeps its slot when its oid is configured again.

A request that asks for a gain or a polarity that does not exist, for a device that is not
there or for one more device than there is room for, changes nothing at all. The checks come
before the first call of the board, in that order.
-/

namespace WeighScale

/-- Devices on one rig. There are at most as many as the rig has slots. -/
structure Scale (β : Type) where
  delays : Delays
  devices : List Device
  rig : Rig β

namespace Scale

variable {β : Type}

/-- A scale with room for `capacity` devices, and none yet. -/
def start (board : β) (delays : Delays) (capacity : Nat) : Scale β :=
  ⟨delays, [], Rig.start board capacity⟩

/-- The number of devices there is room for. -/
def capacity (scale : Scale β) : Nat := scale.rig.handoff.capacity

/-- The device with this oid. -/
def device? (scale : Scale β) (oid : UInt8) : Option Device :=
  scale.devices.find? (·.oid == oid)

/-- Puts a device in the place of the one with its oid. -/
def replace (scale : Scale β) (device : Device) : Scale β :=
  { scale with
    devices := scale.devices.map fun other => if other.oid = device.oid then device else other }

/-- Stops the device with this oid at once. -/
def stop (scale : Scale β) (oid : UInt8) : Scale β :=
  { scale with
    devices := scale.devices.map fun device => if device.oid = oid then device.stop else device }

def append (scale : Scale β) (device : Device) : Scale β :=
  { scale with devices := scale.devices ++ [device] }

/-- The scale with its rig as it is after an operation. -/
def onRig (scale : Scale β) (rig : Rig β) : Scale β := { scale with rig }

/-- The slot for a device with this oid: the one it has, else the next free one. -/
def slotFor (scale : Scale β) (oid : UInt8) : Except RequestError Nat :=
  match scale.device? oid with
  | some device => .ok device.slot
  | none =>
      if scale.devices.length < scale.capacity then .ok scale.devices.length
      else .error .noRoom

/-- The settings that a request asks for, if they exist. -/
def settings (request : Wire.Configure) : Except RequestError (Gain × Polarity) :=
  match Gain.ofCode? request.gain with
  | none => .error (.noGain request.gain)
  | some gain =>
      match Polarity.ofSign? request.invert with
      | none => .error (.noPolarity request.invert)
      | some polarity => .ok (gain, polarity)

/-- The device that a request asks for, before it was clocked at all. -/
def fresh (scale : Scale β) (request : Wire.Configure) (gain : Gain) (polarity : Polarity)
    (slot : Nat) : Device where
  oid := request.oid
  dout := request.dout
  sck := request.sck
  gain := gain
  polarity := polarity
  delays := scale.delays
  slot := slot
  frame := .start
  latest := 0
  endstop := none
  active := false
  running := false
  waketime := 0

variable [Board β]

/-- Configures a device. A device that has the oid already is replaced by one that was never
enabled. -/
def configure (scale : Scale β) (request : Wire.Configure) :
    Except RequestError Unit × Scale β :=
  match settings request with
  | .error e => (.error e, scale)
  | .ok (gain, polarity) =>
      match scale.slotFor request.oid with
      | .error e => (.error e, scale)
      | .ok slot =>
          let device := scale.fresh request gain polarity slot
          match device.attach scale.rig with
          | (.error fault, rig) => (.error (.pin fault), scale.onRig rig)
          | (.ok (), rig) =>
              let line := .configured request.oid request.dout request.sck gain polarity
              let scale := scale.onRig (rig.log line)
              (.ok (),
                if (scale.device? request.oid).isSome then scale.replace device
                else scale.append device)

/-- Starts or stops the sampling of a device. -/
def query (scale : Scale β) (request : Wire.Query) (now : Clock) :
    Except RequestError Unit × Scale β :=
  match scale.device? request.oid with
  | none => (.error (.noDevice request.oid), scale)
  | some device =>
      let outcome := device.query request.enable request.endstop now scale.rig
      let scale := scale.replace outcome.device
      match outcome.result with
      | .error fault => (.error (.pin fault), scale.onRig outcome.rig)
      | .ok () =>
          let line := .queried request.oid request.enable request.endstop
          (.ok (), scale.onRig (outcome.rig.log line))

/-- Does what a request asks for. -/
def perform (scale : Scale β) (request : Wire.Request) (now : Clock) :
    Except RequestError Unit × Scale β :=
  match request with
  | .configure request => scale.configure request
  | .query request => scale.query request now

/-- Reads a message body and does what it asks for. -/
def receive (scale : Scale β) (ids : Wire.Ids) (body : List UInt8) (now : Clock) :
    Except RequestError Unit × Scale β :=
  match Wire.Request.decode ids body with
  | .error e => (.error (.unreadable e), scale)
  | .ok request => scale.perform request now

/-- A callback of the device with this oid, whose fault is left to the caller. There is no
result if there is no such device. -/
def clockDevice (scale : Scale β) (oid : UInt8) (now : Clock) :
    Option (Except PinFault Next) × Scale β :=
  match scale.device? oid with
  | none => (none, scale)
  | some device =>
      let outcome := device.callback now scale.rig
      (some outcome.result, (scale.replace outcome.device).onRig outcome.rig)

/-- A timer callback. A device whose lines fail is stopped, since there is no use in trying
them again. -/
def callback (scale : Scale β) (oid : UInt8) (now : Clock) : Next × Scale β :=
  match scale.clockDevice oid now with
  | (none, scale) => (.done, scale)
  | (some (.ok next), scale) => (next, scale)
  | (some (.error fault), scale) =>
      (.done, (scale.onRig (scale.rig.log (.stopped oid fault))).stop oid)

/-- Takes a callback out of the timers and makes it at `now`. If the device asks for another
one, it goes back among the timers. -/
def serve (scale : Scale β) (timer : Timer) (now : Clock) : Scale β :=
  let taken := { scale.rig with timers := scale.rig.timers.remove timer }
  match (scale.onRig taken).callback timer.oid now with
  | (.done, scale) => scale
  | (.again clock, scale) =>
      scale.onRig { scale.rig with timers := scale.rig.timers.schedule timer.oid clock }

end Scale

end WeighScale
