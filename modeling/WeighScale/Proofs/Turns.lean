import WeighScale.Device
import Mathlib.Tactic

set_option autoImplicit false

/-! # The ways through a device operation

A callback and an enable request take one of a few ways, depending on what the board answers
and on the frame. They are listed here once (`Called`, `Enabled`), each with its conditions
and with the device and the rig it leaves. Every later statement about these operations is a
case analysis over the list and opens neither of them again.

* `called_callback`, `enabled_enable`: the operations take no other ways.
* `callback_keeps`, `query_keeps`, `attach_keeps`: an operation changes nothing but what its calls
  change.
* `result_callback`: what a callback asks for, and what the device remembers of it.
-/

namespace WeighScale.Device

variable {β : Type} [Board β]

/-! ## Callbacks -/

/-- The device once it has completed a sample: the frame is cleared and `value` is the latest
one. -/
def completed (device : Device) (value : Int32) : Device :=
  { device with frame := .start, latest := value }

/-- The device after the last half-cycle of a frame, with the data line at `high`. -/
def finished (device : Device) (high : Level) (now : Clock) : Device :=
  (device.completed ((device.frame.advance high).value device.polarity)).settle now

/-- The rig once the device has read its data line. -/
def seen (device : Device) (rig : Rig β) : Rig β := (rig.read device.dout).2

/-- The ways through a callback. -/
inductive Called (device : Device) (now : Clock) (rig : Rig β) : Outcome Next β → Prop
  /-- The data line could not be read. -/
  | unread (fault : PinFault) (hread : (rig.read device.dout).1 = .error fault) :
      Called device now rig ⟨.error fault, device, device.seen rig⟩
  /-- No conversion was ready. -/
  | waited (hread : (rig.read device.dout).1 = .ok true)
      (hframe : device.frame.halfCycles = 0) :
      Called device now rig
        ⟨.ok (.again (now + device.delays.retry)), device.wakeAfter now device.delays.retry,
          device.seen rig⟩
  /-- The frame went on by a half-cycle. -/
  | clocked (high : Level) (hread : (rig.read device.dout).1 = .ok high)
      (hready : device.frame.halfCycles = 0 → high = false)
      (hover : (device.frame.advance high).isOver device.gain = false)
      (hdrive : ((device.seen rig).drive device.sck device.frame.clockLevel).1 = .ok ()) :
      Called device now rig
        ⟨.ok (.again (now + device.delays.edge)),
          { device with frame := device.frame.advance high }.wakeAfter now device.delays.edge,
          ((device.seen rig).drive device.sck device.frame.clockLevel).2⟩
  /-- The frame went on, but the clock line could not be driven. -/
  | stuck (high : Level) (fault : PinFault) (hread : (rig.read device.dout).1 = .ok high)
      (hready : device.frame.halfCycles = 0 → high = false)
      (hover : (device.frame.advance high).isOver device.gain = false)
      (hdrive : ((device.seen rig).drive device.sck device.frame.clockLevel).1
        = .error fault) :
      Called device now rig
        ⟨.error fault, { device with frame := device.frame.advance high },
          ((device.seen rig).drive device.sck device.frame.clockLevel).2⟩
  /-- The frame came to its end and the sample was handed over. -/
  | delivered (high : Level) (hread : (rig.read device.dout).1 = .ok high)
      (hready : device.frame.halfCycles = 0 → high = false)
      (hover : (device.frame.advance high).isOver device.gain = true)
      (hdrive : ((device.seen rig).drive device.sck false).1 = .ok ()) :
      Called device now rig
        ⟨.ok (device.finished high now).afterFrame, device.finished high now,
          ((device.seen rig).drive device.sck false).2.wake (device.finished high now).slot
            (device.finished high now).sample⟩
  /-- The frame came to its end, but the clock line could not be lowered. -/
  | withheld (high : Level) (fault : PinFault) (hread : (rig.read device.dout).1 = .ok high)
      (hready : device.frame.halfCycles = 0 → high = false)
      (hover : (device.frame.advance high).isOver device.gain = true)
      (hdrive : ((device.seen rig).drive device.sck false).1 = .error fault) :
      Called device now rig
        ⟨.error fault, device.completed ((device.frame.advance high).value device.polarity),
          ((device.seen rig).drive device.sck false).2⟩

theorem driveThen_ok {α : Type} (device : Device) {high : Level} {rig : Rig β}
    (next : Rig β → Outcome α β) (h : (rig.drive device.sck high).1 = .ok ()) :
    device.driveThen high rig next = next (rig.drive device.sck high).2 := by
  rw [driveThen, ← Prod.mk.eta (p := rig.drive device.sck high), h]

theorem driveThen_error {α : Type} (device : Device) {high : Level} {rig : Rig β}
    {fault : PinFault} (next : Rig β → Outcome α β)
    (h : (rig.drive device.sck high).1 = .error fault) :
    device.driveThen high rig next = ⟨.error fault, device, (rig.drive device.sck high).2⟩ := by
  rw [driveThen, ← Prod.mk.eta (p := rig.drive device.sck high), h]

theorem turn_of_ready (device : Device) {high : Level}
    (hready : device.frame.halfCycles = 0 → high = false) :
    device.turn high
      = if (device.frame.advance high).isOver device.gain then
          .complete ((device.frame.advance high).value device.polarity)
        else .clock device.frame.clockLevel (device.frame.advance high) := by
  refine if_neg fun h => ?_
  rw [hready h.1] at h
  exact Bool.false_ne_true h.2

theorem act_complete (device : Device) (now : Clock) (rig : Rig β) (value : Int32) :
    device.act now rig (.complete value)
      = (device.completed value).driveThen false rig fun rig =>
          ⟨.ok ((device.completed value).settle now).afterFrame,
            (device.completed value).settle now,
            rig.wake ((device.completed value).settle now).slot
              ((device.completed value).settle now).sample⟩ := rfl

/-- **A callback takes one of the ways listed.** -/
theorem called_callback (device : Device) (now : Clock) (rig : Rig β) :
    Called device now rig (device.callback now rig) := by
  rw [callback, ← Prod.mk.eta (p := rig.read device.dout)]
  cases hread : (rig.read device.dout).1 with
  | error fault => exact .unread fault hread
  | ok high =>
      show Called device now rig (device.act now (device.seen rig) (device.turn high))
      by_cases hwait : device.frame.halfCycles = 0 ∧ high = true
      · obtain ⟨hframe, rfl⟩ := hwait
        rw [turn, if_pos ⟨hframe, rfl⟩]
        exact .waited hread hframe
      · -- from here on the level takes part only in what is captured
        have hready : device.frame.halfCycles = 0 → high = false := fun hframe =>
          Bool.eq_false_iff.mpr fun hhigh => hwait ⟨hframe, hhigh⟩
        rw [turn_of_ready device hready]
        cases hover : (device.frame.advance high).isOver device.gain with
        | false =>
            rw [if_neg Bool.false_ne_true, act]
            cases hdrive : ((device.seen rig).drive device.sck device.frame.clockLevel).1 with
            | error fault =>
                rw [driveThen_error { device with frame := device.frame.advance high } _ hdrive]
                exact .stuck high fault hread hready hover hdrive
            | ok _ =>
                rw [driveThen_ok { device with frame := device.frame.advance high } _ hdrive]
                exact .clocked high hread hready hover hdrive
        | true =>
            rw [if_pos rfl, act_complete]
            cases hdrive : ((device.seen rig).drive device.sck false).1 with
            | error fault =>
                rw [driveThen_error (device.completed _) _ hdrive]
                exact .withheld high fault hread hready hover hdrive
            | ok _ =>
                rw [driveThen_ok (device.completed _) _ hdrive]
                exact .delivered high hread hready hover hdrive

/-- Whatever the calls of a callback leave alone is left alone by the callback. -/
theorem callback_keeps {γ : Type} (part : Rig β → γ) (device : Device)
    (hread : ∀ rig, part (rig.read device.dout).2 = part rig)
    (hdrive : ∀ rig high, part (rig.drive device.sck high).2 = part rig)
    (hwake : ∀ rig sample, sample.oid = device.oid →
      part (rig.wake device.slot sample) = part rig)
    (now : Clock) (rig : Rig β) : part (device.callback now rig).rig = part rig := by
  have hway := called_callback device now rig
  generalize device.callback now rig = outcome at hway ⊢
  cases hway with
  | unread | waited => exact hread rig
  | clocked | stuck | withheld => exact (hdrive _ _).trans (hread rig)
  | delivered high =>
      have hsame : (device.finished high now).slot = device.slot
          ∧ (device.finished high now).sample.oid = device.oid := by
        unfold finished settle
        split <;> exact ⟨rfl, rfl⟩
      dsimp only
      rw [hsame.1]
      exact (hwake _ _ hsame.2).trans ((hdrive _ _).trans (hread rig))

/-! ## Enabling -/

/-- The device once it was enabled. -/
def started (device : Device) (endstop : Option UInt8) (now : Clock) : Device :=
  { device with
    frame := .start, endstop := endstop, active := true, running := true,
    waketime := now + device.delays.retry }

/-- The ways through an enable request. -/
inductive Enabled (device : Device) (endstop : Option UInt8) (now : Clock) (rig : Rig β) :
    Outcome Unit β → Prop
  /-- Sampling has begun anew. -/
  | armed (hdrive : ((rig.cancel device.oid).drive device.sck false).1 = .ok ()) :
      Enabled device endstop now rig
        ⟨.ok (), device.started endstop now,
          ((rig.cancel device.oid).drive device.sck false).2.schedule device.oid
            (now + device.delays.retry)⟩
  /-- The clock line could not be lowered, and the device is stopped. -/
  | refused (fault : PinFault)
      (hdrive : ((rig.cancel device.oid).drive device.sck false).1 = .error fault) :
      Enabled device endstop now rig
        ⟨.error fault, { device with frame := .start }.stop,
          ((rig.cancel device.oid).drive device.sck false).2⟩

/-- **An enable request takes one of the ways listed.** -/
theorem enabled_enable (device : Device) (endstop : Option UInt8) (now : Clock)
    (rig : Rig β) : Enabled device endstop now rig (device.enable endstop now rig) := by
  unfold enable
  dsimp only
  rw [← Prod.mk.eta (p := (rig.cancel device.oid).drive device.sck false)]
  cases hdrive : ((rig.cancel device.oid).drive device.sck false).1 with
  | error fault => exact .refused fault hdrive
  | ok _ => exact .armed hdrive

/-- Whatever the calls of a query leave alone is left alone by the query. -/
theorem query_keeps {γ : Type} (part : Rig β → γ) (device : Device)
    (hcancel : ∀ rig, part (rig.cancel device.oid) = part rig)
    (hdrive : ∀ rig high, part (rig.drive device.sck high).2 = part rig)
    (hschedule : ∀ rig clock, part (rig.schedule device.oid clock) = part rig)
    (enable : Bool) (endstop : Option UInt8) (now : Clock) (rig : Rig β) :
    part (device.query enable endstop now rig).rig = part rig := by
  cases enable with
  | false => rfl
  | true =>
      have hway := enabled_enable device endstop now rig
      show part (device.enable endstop now rig).rig = part rig
      generalize device.enable endstop now rig = outcome at hway ⊢
      cases hway with
      | armed => exact (hschedule _ _).trans ((hdrive _ _).trans (hcancel rig))
      | refused => exact (hdrive _ _).trans (hcancel rig)

/-! ## Attaching -/

/-- Whatever the three calls of attaching a device leave alone is left alone by attaching it,
however many of them are made. -/
theorem attach_keeps {γ : Type} (part : Rig β → γ) (device : Device)
    (hin : ∀ rig pull, part (rig.setupInput device.dout pull).2 = part rig)
    (hout : ∀ rig high, part (rig.setupOutput device.sck high).2 = part rig)
    (hdrive : ∀ rig high, part (rig.drive device.sck high).2 = part rig)
    (rig : Rig β) : part (device.attach rig).2 = part rig := by
  have hin := hin rig .down
  unfold attach
  generalize rig.setupInput device.dout .down = answer at hin ⊢
  obtain ⟨fault | _, rig₁⟩ := answer
  · exact hin
  · have hout := hout rig₁ true
    dsimp only
    generalize rig₁.setupOutput device.sck true = answer at hout ⊢
    obtain ⟨fault | _, rig₂⟩ := answer
    · exact hout.trans hin
    · exact (hdrive rig₂ true).trans (hout.trans hin)

/-! ## What every way has in common -/

theorem finished_of_active {device : Device} (high : Level) (now : Clock)
    (h : device.active = true) :
    device.finished high now
      = (device.completed ((device.frame.advance high).value device.polarity)).wakeAfter now
          device.delays.sample := if_pos h

theorem finished_of_not_active {device : Device} (high : Level) (now : Clock)
    (h : device.active = false) :
    device.finished high now
      = { device.completed ((device.frame.advance high).value device.polarity) with
          running := false } := if_neg (by simp [completed, h])

/-- A callback leaves the timers alone. -/
theorem timers_callback (device : Device) (now : Clock) (rig : Rig β) :
    (device.callback now rig).rig.timers = rig.timers :=
  callback_keeps Rig.timers device (fun _ => rfl) (fun _ _ => rfl) (fun _ _ _ => rfl) now rig

theorem oid_finished (device : Device) (high : Level) (now : Clock) :
    (device.finished high now).oid = device.oid := by
  unfold finished settle
  split <;> rfl

theorem slot_finished (device : Device) (high : Level) (now : Clock) :
    (device.finished high now).slot = device.slot := by
  unfold finished settle
  split <;> rfl

theorem frame_finished (device : Device) (high : Level) (now : Clock) :
    (device.finished high now).frame = .start := by
  unfold finished settle
  split <;> rfl

theorem active_finished (device : Device) (high : Level) (now : Clock) :
    (device.finished high now).active = device.active := by
  unfold finished settle
  split <;> rfl

theorem sample_finished (device : Device) (high : Level) (now : Clock) :
    (device.finished high now).sample
      = { oid := device.oid
          clock := if device.active then now + device.delays.sample else device.waketime
          value := (device.frame.advance high).value device.polarity
          endstop := device.endstop } := by
  cases hactive : device.active with
  | true =>
      rw [finished_of_active high now hactive]
      rfl
  | false =>
      rw [finished_of_not_active high now hactive]
      rfl

theorem oid_callback (device : Device) (now : Clock) (rig : Rig β) :
    (device.callback now rig).device.oid = device.oid := by
  have h := called_callback device now rig
  generalize device.callback now rig = outcome at h ⊢
  cases h with
  | delivered => exact oid_finished ..
  | _ => rfl

theorem oid_query (device : Device) (enable : Bool) (endstop : Option UInt8) (now : Clock)
    (rig : Rig β) : (device.query enable endstop now rig).device.oid = device.oid := by
  unfold query
  split
  · have h := device.enabled_enable endstop now rig
    generalize device.enable endstop now rig = outcome at h ⊢
    cases h <;> rfl
  · rfl

theorem afterFrame_eq (device : Device) (high : Level) (now : Clock) :
    (device.finished high now).afterFrame
      = if device.active then .again (now + device.delays.sample) else .done := by
  cases hactive : device.active with
  | true =>
      rw [finished_of_active high now hactive]
      exact if_pos hactive
  | false =>
      rw [finished_of_not_active high now hactive]
      exact if_neg (by simp [completed, hactive])

/-- A device that goes on after a frame asks for its waketime, and one that does not has
stopped. -/
theorem afterFrame_finished (device : Device) (high : Level) (now : Clock) :
    ((device.finished high now).afterFrame = .again (device.finished high now).waketime
        ∧ (device.finished high now).running = device.running)
      ∨ (device.finished high now).afterFrame = .done
        ∧ (device.finished high now).running = false := by
  cases hactive : device.active with
  | true =>
      rw [finished_of_active high now hactive]
      exact Or.inl ⟨if_pos hactive, rfl⟩
  | false =>
      rw [finished_of_not_active high now hactive]
      exact Or.inr ⟨if_neg (by simp [completed, hactive]), rfl⟩

/-- **What a device asks for is what it remembers.** A callback that asks for another one has
set the waketime to its clock, and one that asks for no other has stopped the device. -/
theorem result_callback (device : Device) (now : Clock) (rig : Rig β) :
    match (device.callback now rig).result with
    | .ok (.again clock) =>
        (device.callback now rig).device.waketime = clock
          ∧ (device.callback now rig).device.running = device.running
    | .ok .done => (device.callback now rig).device.running = false
    | .error _ => True := by
  have hway := called_callback device now rig
  generalize device.callback now rig = outcome at hway ⊢
  cases hway with
  | delivered high =>
      rcases afterFrame_finished device high now with ⟨h, hrunning⟩ | ⟨h, hstop⟩
      · rw [h]; exact ⟨rfl, hrunning⟩
      · rw [h]; exact hstop
  | unread | stuck | withheld => trivial
  | waited | clocked => exact ⟨rfl, rfl⟩

end WeighScale.Device
