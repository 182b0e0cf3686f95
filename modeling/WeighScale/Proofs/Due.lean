import WeighScale.Timers
import Mathlib.Tactic

set_option autoImplicit false

/-! # The callbacks of one device

`Timers` keeps the callbacks of all devices in one list. Statements about a device are about
its own callbacks, the clocks in `timers.due oid`. Every operation on the timers changes the
callbacks of one device and leaves those of all others as they are; each of the lemmas below
says one of the two.
-/

namespace WeighScale.Timers

/-- The clocks at which a device has callbacks to come, in the order asked for. -/
def due (timers : Timers) (oid : UInt8) : List Clock :=
  (timers.pending.filter (·.oid == oid)).map Timer.clock

theorem mem_due {timers : Timers} {oid : UInt8} {clock : Clock} :
    clock ∈ timers.due oid ↔ ⟨oid, clock⟩ ∈ timers.pending := by
  simp only [due, List.mem_map, List.mem_filter, beq_iff_eq]
  constructor
  · rintro ⟨⟨other, _⟩, ⟨hmem, rfl⟩, rfl⟩
    exact hmem
  · intro hmem
    exact ⟨_, ⟨hmem, rfl⟩, rfl⟩

@[simp] theorem due_cancel_self (timers : Timers) (oid : UInt8) :
    (timers.cancel oid).due oid = [] := by
  rw [due, List.map_eq_nil_iff, List.filter_eq_nil_iff]
  intro timer htimer
  rw [beq_iff_eq]
  exact (mem_pending_cancel.mp htimer).2

theorem due_cancel_ne (timers : Timers) {oid other : UInt8} (h : other ≠ oid) :
    (timers.cancel oid).due other = timers.due other := by
  simp only [due, cancel, List.filter_filter]
  congr 2
  funext timer
  by_cases hother : timer.oid = other
  · simp [hother, h]
  · simp [hother]

@[simp] theorem due_schedule_self (timers : Timers) (oid : UInt8) (clock : Clock) :
    (timers.schedule oid clock).due oid = timers.due oid ++ [clock] := by
  simp [due, schedule]

theorem due_schedule_ne (timers : Timers) {oid other : UInt8} (clock : Clock)
    (h : other ≠ oid) : (timers.schedule oid clock).due other = timers.due other := by
  simp [due, schedule, Ne.symm h]

theorem due_remove_ne (timers : Timers) {timer : Timer} {other : UInt8}
    (h : other ≠ timer.oid) : (timers.remove timer).due other = timers.due other := by
  have hnot : timer ∉ timers.pending.filter (·.oid == other) := by
    simp [Ne.symm h]
  rw [due, due, remove, ← List.erase_filter, List.erase_of_not_mem hnot]

/-- Taking out a callback of a device takes its clock out. -/
theorem due_remove (timers : Timers) (timer : Timer) :
    (timers.remove timer).due timer.oid = (timers.due timer.oid).erase timer.clock := by
  have hown : ∀ other ∈ timers.pending.filter (·.oid == timer.oid), other.oid = timer.oid :=
    fun other hmem => beq_iff_eq.mp (List.mem_filter.mp hmem).2
  rw [due, due, remove, ← List.erase_filter]
  generalize timers.pending.filter (·.oid == timer.oid) = own at hown ⊢
  induction own with
  | nil => rfl
  | cons first others ih =>
      obtain ⟨hfirst, hothers⟩ := List.forall_mem_cons.mp hown
      obtain ⟨oid, clock⟩ := first
      obtain rfl : oid = timer.oid := hfirst
      by_cases hclock : clock = timer.clock
      · subst hclock
        rw [List.erase_cons_head, List.map_cons, List.erase_cons_head]
      · have hne : Timer.mk timer.oid clock ≠ timer := fun h => hclock (congrArg Timer.clock h)
        rw [List.erase_cons_tail (by simpa using hne), List.map_cons, List.map_cons,
          List.erase_cons_tail (by simpa using hclock), ih hothers]

/-- Taking out the only callback of a device leaves none. -/
theorem due_remove_self {timers : Timers} {timer : Timer}
    (h : timer ∈ timers.pending) (hone : (timers.due timer.oid).length ≤ 1) :
    (timers.remove timer).due timer.oid = [] := by
  apply List.eq_nil_of_length_eq_zero
  rw [due_remove, List.length_erase_of_mem (mem_due.mpr h)]
  omega

theorem count_due (timers : Timers) (timer : Timer) :
    (timers.due timer.oid).count timer.clock = timers.pending.count timer := by
  rw [due, List.count_eq_countP, List.countP_map, List.countP_filter, List.count_eq_countP]
  refine List.countP_congr fun other _ => ?_
  obtain ⟨oid, clock⟩ := other
  obtain ⟨ownOid, ownClock⟩ := timer
  simp [and_comm]

/-- The callbacks of all devices together are the callbacks to come, in some order. -/
theorem perm_of_due {one other : Timers} (h : ∀ oid, one.due oid = other.due oid) :
    one.pending.Perm other.pending := by
  refine List.perm_iff_count.mpr fun timer => ?_
  rw [← count_due, ← count_due, h]

end WeighScale.Timers
