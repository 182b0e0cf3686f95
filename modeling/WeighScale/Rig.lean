import WeighScale.Effect
import WeighScale.Timers

set_option autoImplicit false

/-! # The rig

What the devices of a scale share: the board, the timers, the slots for completed samples,
and the trace of all effects so far. The operations here are the only ones that the devices
have on it, and each records its effect. The calls of the board touch neither the timers nor the
slots, and these are touched by nothing but their own operations.
-/

namespace WeighScale

structure Rig (β : Type) where
  board : β
  timers : Timers
  handoff : Handoff
  /-- The effects so far, the latest first. -/
  trace : List Effect

namespace Rig

variable {β : Type}

/-- A rig with room for `capacity` devices, before anything was done with it. -/
def start (board : β) (capacity : Nat) : Rig β :=
  ⟨board, Timers.empty, Handoff.clear capacity, []⟩

/-- The effects so far, the earliest first. -/
def effects (rig : Rig β) : List Effect := rig.trace.reverse

/-- The rig with its trace begun anew. -/
def forget (rig : Rig β) : Rig β := { rig with trace := [] }

def note (rig : Rig β) (effect : Effect) : Rig β :=
  { rig with trace := effect :: rig.trace }

def log (rig : Rig β) (line : LogLine) : Rig β := rig.note (.log line)

/-- Drops every callback of a device. -/
def cancel (rig : Rig β) (oid : UInt8) : Rig β :=
  { rig with timers := rig.timers.cancel oid }.note (.cancel oid)

/-- Asks for a callback of a device. -/
def schedule (rig : Rig β) (oid : UInt8) (clock : Clock) : Rig β :=
  { rig with timers := rig.timers.schedule oid clock }.note (.schedule oid clock)

/-- Puts a completed sample into a slot. -/
def wake (rig : Rig β) (slot : Nat) (sample : Sample) : Rig β :=
  { rig with handoff := rig.handoff.wake slot sample }.note (.wake slot sample)

@[simp] theorem timers_note (rig : Rig β) (effect : Effect) :
    (rig.note effect).timers = rig.timers := rfl

@[simp] theorem handoff_note (rig : Rig β) (effect : Effect) :
    (rig.note effect).handoff = rig.handoff := rfl

@[simp] theorem trace_note (rig : Rig β) (effect : Effect) :
    (rig.note effect).trace = effect :: rig.trace := rfl

@[simp] theorem timers_cancel (rig : Rig β) (oid : UInt8) :
    (rig.cancel oid).timers = rig.timers.cancel oid := rfl

@[simp] theorem timers_schedule (rig : Rig β) (oid : UInt8) (clock : Clock) :
    (rig.schedule oid clock).timers = rig.timers.schedule oid clock := rfl

@[simp] theorem handoff_wake (rig : Rig β) (slot : Nat) (sample : Sample) :
    (rig.wake slot sample).handoff = rig.handoff.wake slot sample := rfl

/-! ## Calls of the board -/

/-- The result of a call that gives `value` unless it fails. -/
def unlessFault {α : Type} (fault : Option PinFault) (value : α) : Except PinFault α :=
  match fault with
  | none => .ok value
  | some fault => .error fault

variable [Board β]

/-- Claims a pin as an input. -/
def setupInput (rig : Rig β) (pin : Pin) (pull : Pull) : Except PinFault Unit × Rig β :=
  let answer := Board.setupInput rig.board pin pull
  (unlessFault answer.fault (),
    { rig with board := answer.board }.note (.setupInput pin pull answer.fault))

/-- Claims a pin as an output that is driven to `high` at once. -/
def setupOutput (rig : Rig β) (pin : Pin) (high : Level) : Except PinFault Unit × Rig β :=
  let answer := Board.setupOutput rig.board pin high
  (unlessFault answer.fault (),
    { rig with board := answer.board }.note (.setupOutput pin high answer.fault))

def read (rig : Rig β) (pin : Pin) : Except PinFault Level × Rig β :=
  let seen := Board.read rig.board pin
  (unlessFault seen.2.fault seen.1,
    { rig with board := seen.2.board }.note (.read pin seen.1 seen.2.fault))

def drive (rig : Rig β) (pin : Pin) (high : Level) : Except PinFault Unit × Rig β :=
  let answer := Board.drive rig.board pin high
  (unlessFault answer.fault (),
    { rig with board := answer.board }.note (.drive pin high answer.fault))

@[simp] theorem timers_drive (rig : Rig β) (pin : Pin) (high : Level) :
    (rig.drive pin high).2.timers = rig.timers := rfl

end Rig

end WeighScale
