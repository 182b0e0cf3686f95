import WeighScale.Clock

set_option autoImplicit false

/-! # Timers

The callbacks that are still to come, each with the device it is for and the clock at which it
is due. Nothing here keeps a device from having two: that it never does is a fact about the
devices. The next callback is the one with the least clock, taken as a plain number, and of
those the one with the least oid.

* `mem_pending_cancel`: the callbacks left when those of a device are dropped.
* `next?_mem`, `next?_of_nil`, `next?_of_singleton`: the next callback is one of those to come.
-/

namespace WeighScale

structure Timer where
  oid : UInt8
  clock : Clock
  deriving DecidableEq, Repr, Inhabited

/-- The order in which callbacks are served: by clock, then by oid. -/
def Timer.before (a b : Timer) : Bool :=
  decide (a.clock < b.clock) || (a.clock == b.clock && decide (a.oid ≤ b.oid))

/-- The one of two callbacks that is served first. -/
def Timer.first (a b : Timer) : Timer := if a.before b then a else b

/-- The callbacks to come, in the order in which they were asked for. -/
structure Timers where
  pending : List Timer
  deriving DecidableEq, Repr, Inhabited

namespace Timers

def empty : Timers := ⟨[]⟩

/-- Drops every callback of a device. -/
def cancel (timers : Timers) (oid : UInt8) : Timers :=
  ⟨timers.pending.filter (·.oid != oid)⟩

def schedule (timers : Timers) (oid : UInt8) (clock : Clock) : Timers :=
  ⟨timers.pending ++ [⟨oid, clock⟩]⟩

def next? (timers : Timers) : Option Timer :=
  match timers.pending with
  | [] => none
  | timer :: others => some (others.foldl Timer.first timer)

/-- Takes one callback out, if it is there. -/
def remove (timers : Timers) (timer : Timer) : Timers := ⟨timers.pending.erase timer⟩

/-- The callbacks in order of oid, then of clock. -/
def sorted (timers : Timers) : List Timer :=
  timers.pending.mergeSort fun a b =>
    decide (a.oid < b.oid) || (a.oid == b.oid && decide (a.clock ≤ b.clock))

theorem mem_pending_cancel {timers : Timers} {oid : UInt8} {timer : Timer} :
    timer ∈ (timers.cancel oid).pending ↔ timer ∈ timers.pending ∧ timer.oid ≠ oid := by
  simp [cancel]

theorem foldl_first_mem (others : List Timer) (timer : Timer) :
    others.foldl Timer.first timer ∈ timer :: others := by
  induction others generalizing timer with
  | nil => simp
  | cons other others ih =>
      have h := ih (timer.first other)
      rw [List.foldl_cons]
      rcases List.mem_cons.1 h with h | h
      · rw [h]
        unfold Timer.first
        split <;> simp
      · simp [h]

theorem next?_of_nil {timers : Timers} (h : timers.pending = []) : timers.next? = none := by
  rw [next?, h]

theorem next?_of_singleton {timers : Timers} {timer : Timer} (h : timers.pending = [timer]) :
    timers.next? = some timer := by
  rw [next?, h]
  rfl

theorem next?_mem {timers : Timers} {timer : Timer} (h : timers.next? = some timer) :
    timer ∈ timers.pending := by
  unfold next? at h
  split at h
  · simp at h
  · next first others heq =>
      rw [heq]
      exact Option.some.inj h ▸ foldl_first_mem others first

end Timers

end WeighScale
