import WeighScale.Clock

set_option autoImplicit false

/-! # The handoff of samples

Samples are completed in timer callbacks and sent from the main loop. Between the two lie
slots, one for each device there is room for. A slot holds one sample: a sample that was not
taken is replaced by the next one. Waking a slot changes no other (`slots_wake`).
-/

namespace WeighScale

/-- A completed sample. -/
structure Sample where
  oid : UInt8
  /-- The clock of the next callback, or of the last one if there is none. -/
  clock : Clock
  value : Int32
  /-- The endstop that the device was linked to when the sample was completed. -/
  endstop : Option UInt8
  deriving DecidableEq, Repr, Inhabited

structure Handoff where
  slots : List (Option Sample)
  deriving DecidableEq, Repr, Inhabited

namespace Handoff

/-- `capacity` slots, all clear. -/
def clear (capacity : Nat) : Handoff := ⟨List.replicate capacity none⟩

def capacity (handoff : Handoff) : Nat := handoff.slots.length

/-- Puts a sample into a slot, in place of one that is there. -/
def wake (handoff : Handoff) (slot : Nat) (sample : Sample) : Handoff :=
  ⟨handoff.slots.set slot (some sample)⟩

/-- The sample in a slot. -/
def pending? (handoff : Handoff) (slot : Nat) : Option Sample := (handoff.slots[slot]?).join

/-- Takes the sample out of a slot and leaves it clear. -/
def take (handoff : Handoff) (slot : Nat) : Option Sample × Handoff :=
  (handoff.pending? slot, ⟨handoff.slots.set slot none⟩)

/-- The samples of all slots, in the order of the slots. -/
def samples (handoff : Handoff) : List Sample := handoff.slots.filterMap id

/-- Takes the samples out of all slots. -/
def drain (handoff : Handoff) : List Sample × Handoff :=
  (handoff.samples, clear handoff.capacity)

@[simp] theorem capacity_clear (capacity : Nat) : (clear capacity).capacity = capacity := by
  simp [clear, Handoff.capacity]

@[simp] theorem capacity_wake (handoff : Handoff) (slot : Nat) (sample : Sample) :
    (handoff.wake slot sample).capacity = handoff.capacity := by
  simp [wake, capacity]

theorem slots_wake (handoff : Handoff) (slot other : Nat) (sample : Sample)
    (h : slot ≠ other) :
    (handoff.wake slot sample).slots[other]? = handoff.slots[other]? := by
  simp [wake, List.getElem?_set_ne h]

end Handoff

end WeighScale
