import WeighScale.Rig

set_option autoImplicit false

/-! # Delivery of samples

From time to time the main loop drains the slots. Each sample found is shown to the endstop
that its device was linked to, if any, and is then sent to the host as a reading. The samples
go out in the order of the slots, and each one is done with before the next.
-/

namespace WeighScale

/-- The reading that a sample is sent as. -/
def Sample.reading (sample : Sample) : Wire.Reading where
  oid := sample.oid
  clock := sample.clock
  value := sample.value

namespace Rig

variable {β : Type}

/-- Shows a sample to its endstop, if it has one and there is a probe to show it to. -/
def showSample (rig : Rig β) (probe : Bool) (sample : Sample) : Rig β :=
  match probe, sample.endstop with
  | true, some endstop => rig.note (.probe endstop sample.value sample.clock)
  | _, _ => rig

/-- Sends a reading to the host. Returns whether it was sent. -/
def send (rig : Rig β) (ids : Wire.Ids) (reading : Wire.Reading) : Bool × Rig β :=
  match reading.encode ids with
  | .ok body => (true, (rig.log (.sending reading)).note (.send body))
  | .error e => (false, rig.log (.dropped reading.oid e))

/-- Shows and sends samples one after another. Returns the number of those sent. -/
def deliverSamples (ids : Wire.Ids) (probe : Bool) : List Sample → Rig β → Nat × Rig β
  | [], rig => (0, rig)
  | sample :: samples, rig =>
      let this := (rig.showSample probe sample).send ids sample.reading
      let others := deliverSamples ids probe samples this.2
      (if this.1 then others.1 + 1 else others.1, others.2)

/-- Drains the slots and delivers what was in them. Returns the number of messages sent. -/
def deliver (rig : Rig β) (ids : Wire.Ids) (probe : Bool) : Nat × Rig β :=
  let drained := rig.handoff.drain
  deliverSamples ids probe drained.1 { rig with handoff := drained.2 }

def takeSample (rig : Rig β) (slot : Nat) : Option Sample × Rig β :=
  let taken := rig.handoff.take slot
  (taken.1, { rig with handoff := taken.2 })

end Rig

end WeighScale
