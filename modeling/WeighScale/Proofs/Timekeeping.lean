import WeighScale.Proofs.Touch

set_option autoImplicit false

/-! # Devices and their callbacks

A device does not see the timers. It knows that a callback is to come (`running`) and for when
(`waketime`), and the timers have a list of callbacks; nothing but the way the operations are
written keeps the two in agreement. Whatever was done to a scale, and whatever failed on the
way,

* no device has two callbacks to come, and
* a device that is running has one, at the clock it knows (`one_callback_each`).

The converse fails: a callback can be left over to a device that knows nothing of it
(`Proofs/Strays.lean`).
-/

namespace WeighScale.Scale

variable {β : Type} [Board β]

/-- What a device knows about its callbacks is right. -/
structure Timed (found : Option Device) (clocks : List Clock) : Prop where
  /-- There is at most one. -/
  once : clocks.length ≤ 1
  /-- Callbacks are those of a device. -/
  known : clocks ≠ [] → ∃ device, found = some device
  /-- A device that is running has its callback to come. -/
  awaited : ∀ device, found = some device → device.running = true → clocks = [device.waketime]

omit [Board β] in
theorem timed_start (board : β) (delays : Delays) (capacity : Nat) (oid : UInt8) :
    Timed ((start board delays capacity).device? oid) ((start board delays capacity).due oid) where
  once := Nat.zero_le 1
  known h := absurd rfl h
  awaited _ hfound := by cases hfound

/-- **No operation upsets what a device knows about its callbacks.** -/
theorem Timed.touched {found found' : Option Device} {clocks clocks' : List Clock}
    {touch : Touch} (h : Timed found clocks) (ht : Touched found clocks touch found' clocks') :
    Timed found' clocks' := by
  cases ht with
  | nothing => exact h
  | configured device huntouched =>
      -- a callback may be left over, but the new device does not claim it
      refine ⟨h.once, fun _ => ⟨device, rfl⟩, ?_⟩
      rintro _ ⟨⟩ hrunning
      rw [huntouched.running] at hrunning
      exact absurd hrunning Bool.false_ne_true
  | disabled device endstop hfound =>
      -- neither `running` nor the waketime changes
      refine ⟨h.once, fun _ => ⟨_, rfl⟩, ?_⟩
      rintro _ ⟨⟩ hrunning
      exact h.awaited device hfound hrunning
  | armed device endstop now =>
      refine ⟨Nat.le_refl 1, fun _ => ⟨_, rfl⟩, ?_⟩
      rintro _ ⟨⟩ _
      rfl
  | refused device =>
      refine ⟨Nat.zero_le 1, fun _ => ⟨_, rfl⟩, ?_⟩
      rintro _ ⟨⟩ hrunning
      exact absurd hrunning Bool.false_ne_true
  | again device old clock _ _ hwaketime =>
      refine ⟨Nat.le_refl 1, fun _ => ⟨_, rfl⟩, ?_⟩
      rintro _ ⟨⟩ _
      rw [hwaketime]
  | done device old _ _ hrunning =>
      refine ⟨Nat.zero_le 1, fun _ => ⟨_, rfl⟩, ?_⟩
      rintro _ ⟨⟩ hrun
      rw [hrunning] at hrun
      exact absurd hrun Bool.false_ne_true
  | unknown hfound =>
      exact ⟨Nat.zero_le 1, fun hne => absurd rfl hne, fun _ hsome => by cases hsome⟩

theorem timed_after (board : β) (delays : Delays) (capacity : Nat)
    (operations : List Operation) (oid : UInt8) :
    Timed (((start board delays capacity).after operations).device? oid)
      (((start board delays capacity).after operations).due oid) := by
  -- by induction on the run from its end: what the last operation is to the device depends on
  -- the state it meets
  induction operations using List.reverseRecOn with
  | nil => exact timed_start board delays capacity oid
  | append_singleton operations operation ih =>
      rw [after_concat]
      exact ih.touched (touched_apply operation ih.once)

/-- **No callback is lost and none is doubled.** On any board, after any run of requests,
messages, deliveries and callbacks, whatever pins fail and whenever, a device has at most one
callback to come, and one that is running has exactly one, at the clock it knows. -/
theorem one_callback_each (board : β) (delays : Delays) (capacity : Nat)
    (operations : List Operation) :
    (∀ oid, (((start board delays capacity).after operations).due oid).length ≤ 1)
      ∧ ∀ device ∈ ((start board delays capacity).after operations).devices,
          device.running = true →
            ((start board delays capacity).after operations).due device.oid
              = [device.waketime] := by
  refine ⟨fun oid => (timed_after board delays capacity operations oid).once, ?_⟩
  intro device hmem hrunning
  have hfound := (distinct_after board delays capacity operations).device?_of_mem hmem
  exact (timed_after board delays capacity operations device.oid).awaited device hfound hrunning

end WeighScale.Scale
