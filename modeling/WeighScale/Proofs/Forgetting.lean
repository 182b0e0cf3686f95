import WeighScale.Bench
import WeighScale.Proofs.Twins
import WeighScale.Scale

set_option autoImplicit false

/-! # Enabling forgets the past

A device that is enabled goes on as one that was just configured, whatever has happened to it
before. All that is left of its past is the latest sample, and that one takes no part in
anything: two devices that differ in it do the same on the same board, event for event, and are
the same again once a frame has come to its end (`remembering_after`). What else there is in a
device is either a setting, which no event changes (`renewed_after`), or is set anew when the
device is enabled (`started_of_step`). Of the rig, a course depends on the board alone
(`course_of_board`): a device puts things among the timers and into the slots, and reads neither.
-/

namespace WeighScale

/-! ## Rigs that a device cannot tell apart -/

/-- Two rigs have the same board and the same trace. Their timers and slots may differ: a device
puts things there but does not look at them. -/
structure Rig.Alike {β : Type} (one other : Rig β) : Prop where
  board : one.board = other.board
  trace : one.trace = other.trace

namespace Rig.Alike

variable {β : Type} {one other : Rig β}

theorem note (h : one.Alike other) (effect : Effect) :
    (one.note effect).Alike (other.note effect) where
  board := h.board
  trace := congrArg (effect :: ·) h.trace

theorem cancel (h : one.Alike other) (oid : UInt8) :
    (one.cancel oid).Alike (other.cancel oid) where
  board := h.board
  trace := congrArg (Effect.cancel oid :: ·) h.trace

theorem schedule (h : one.Alike other) (oid : UInt8) (clock : Clock) :
    (one.schedule oid clock).Alike (other.schedule oid clock) where
  board := h.board
  trace := congrArg (Effect.schedule oid clock :: ·) h.trace

theorem wake (h : one.Alike other) (slot : Nat) (sample : Sample) :
    (one.wake slot sample).Alike (other.wake slot sample) where
  board := h.board
  trace := congrArg (Effect.wake slot sample :: ·) h.trace

theorem effects (h : one.Alike other) : one.effects = other.effects :=
  congrArg List.reverse h.trace

variable [Board β]

/-- The calls of a device are answered alike, and leave the rigs alike. -/
theorem keeps (device : Device) :
    device.Keeps device.slot fun one other : Rig β => other.Alike one where
  setupInput {one other} h pull := by
    rw [Rig.setupInput, Rig.setupInput, h.board]
    exact ⟨rfl, rfl, congrArg (_ :: ·) h.trace⟩
  setupOutput {one other} h high := by
    rw [Rig.setupOutput, Rig.setupOutput, h.board]
    exact ⟨rfl, rfl, congrArg (_ :: ·) h.trace⟩
  read {one other} h := by
    rw [Rig.read, Rig.read, h.board]
    exact ⟨rfl, rfl, congrArg (_ :: ·) h.trace⟩
  drive {one other} h high := by
    rw [Rig.drive, Rig.drive, h.board]
    exact ⟨rfl, rfl, congrArg (_ :: ·) h.trace⟩
  cancel h := h.cancel device.oid
  schedule h clock := h.schedule device.oid clock
  wake h sample := h.wake device.slot sample

end Rig.Alike

namespace Device

variable {β : Type} {one other : Rig β}

/-! ## One event -/

/-- The device with another latest sample. -/
def recalling (device : Device) (value : Int32) : Device := { device with latest := value }

/-- Two operations have come to the same, except that the first device is `change` of the
second. -/
structure Outcome.Agree {α : Type} (change : Device → Device) (one other : Outcome α β) :
    Prop where
  result : one.result = other.result
  device : one.device = change other.device
  rig : one.rig.Alike other.rig

/-- The device that has the latest sample `value` where `device` has its own, unless a frame
has ended since. -/
def remembering (ended : Bool) (value : Int32) (device : Device) : Device :=
  if ended then device else device.recalling value

theorem stop_remembering (ended : Bool) (value : Int32) (device : Device) :
    (remembering ended value device).stop = remembering ended value device.stop := by
  cases ended <;> rfl

theorem twinAfter_eq_remembering (ended : Bool) (value : Int32) (device : Device) :
    twinAfter ended device.slot value device = remembering ended value device := by
  cases ended <;> rfl

variable [Board β]

/-- **One callback** makes the same of devices that differ in their latest sample. -/
theorem agree_callback (device : Device) (value : Int32) (now : Clock) (guarded : Bool)
    (hrig : one.Alike other) :
    Outcome.Agree (remembering (device.completes other (.callback now guarded)) value)
      ((device.recalling value).callback now one) (device.callback now other) := by
  obtain ⟨hresult, hdevice, hafter⟩ :=
    (Rig.Alike.keeps device).callback hrig value now guarded
  obtain ⟨-, -, -, -, -, -, hslot⟩ := renewed_eq_iff.mp (device.renewed_callback now other)
  rw [← hslot, twinAfter_eq_remembering, hslot] at hdevice
  exact ⟨hresult, hdevice, hafter⟩

theorem agree_query (device : Device) (value : Int32) (enable : Bool) (endstop : Option UInt8)
    (now : Clock) (hrig : one.Alike other) :
    Outcome.Agree (remembering false value)
      ((device.recalling value).query enable endstop now one)
      (device.query enable endstop now other) := by
  obtain ⟨hresult, hdevice, hafter⟩ :=
    (Rig.Alike.keeps device).query hrig value enable endstop now
  obtain ⟨-, -, -, -, -, -, hslot⟩ :=
    renewed_eq_iff.mp (device.renewed_query enable endstop now other)
  rw [← hslot, twinAfter_eq_remembering, hslot] at hdevice
  exact ⟨hresult, hdevice, hafter⟩

/-- **One event** makes the same of devices that differ in their latest sample. -/
theorem agree_step (device : Device) (value : Int32) (event : Event β)
    (hboard : one.board = other.board) :
    Outcome.Agree (remembering (device.completes other event) value)
      ((device.recalling value).step one event) (device.step other event) := by
  have hforget : one.forget.Alike other.forget := ⟨hboard, rfl⟩
  cases event with
  | query enable endstop now =>
      obtain ⟨hresult, hdevice, hrig⟩ := device.agree_query value enable endstop now hforget
      exact ⟨congrArg (Except.map fun _ => none) hresult, hdevice, hrig⟩
  | callback now guarded =>
      obtain ⟨hresult, hdevice, hrig⟩ := device.agree_callback value now guarded hforget
      rw [step, step, hresult]
      cases (device.callback now other.forget).result with
      | ok next => exact ⟨rfl, hdevice, hrig⟩
      | error fault =>
          cases guarded with
          | false => exact ⟨rfl, hdevice, hrig⟩
          | true => exact ⟨rfl, (congrArg stop hdevice).trans (stop_remembering ..), hrig.note _⟩
  | arrange change => exact ⟨rfl, rfl, congrArg change hboard, rfl⟩

/-- One event comes to the same on rigs with the same board. -/
theorem step_of_board (device : Device) (event : Event β) (hboard : one.board = other.board) :
    Outcome.Agree id (device.step one event) (device.step other event) := by
  obtain ⟨hresult, hdevice, hrig⟩ := device.agree_step device.latest event hboard
  refine ⟨hresult, hdevice.trans ?_, hrig⟩
  cases hended : device.completes other event with
  | true => rfl
  | false =>
      rw [← latest_step hended]
      rfl

/-! ## A course -/

/-- **The board is all that a course depends on** of the rig it begins on. -/
theorem course_of_board (device : Device) (events : List (Event β))
    (hboard : one.board = other.board) :
    device.transcript one events = device.transcript other events
      ∧ (device.after one events).1 = (device.after other events).1
      ∧ (device.after one events).2.board = (device.after other events).2.board := by
  induction events generalizing device one other with
  | nil => exact ⟨rfl, rfl, hboard⟩
  | cons event events ih =>
      obtain ⟨hresult, hdevice, hrig⟩ := device.step_of_board event hboard
      rw [transcript, transcript, after, after, hresult, hdevice, hrig.effects]
      obtain ⟨htranscript, hafter⟩ := ih (device.step other event).device hrig.board
      exact ⟨congrArg (_ :: ·) htranscript, hafter⟩

/-- **The latest sample takes no part in a course**, and once a frame has ended it is the
same. -/
theorem remembering_after (device : Device) (value : Int32) (events : List (Event β))
    (hboard : one.board = other.board) :
    (device.recalling value).transcript one events = device.transcript other events
      ∧ ((device.recalling value).after one events).1
          = remembering (device.completesIn other events) value
              (device.after other events).1 := by
  induction events generalizing device value one other with
  | nil => exact ⟨rfl, rfl⟩
  | cons event events ih =>
      obtain ⟨hresult, hdevice, hrig⟩ := device.agree_step value event hboard
      rw [transcript, transcript, after, after, hdevice, hresult, hrig.effects, completesIn]
      cases device.completes other event with
      | false =>
          obtain ⟨htranscript, hafter⟩ := ih (device.step other event).device value hrig.board
          exact ⟨congrArg (_ :: ·) htranscript, hafter⟩
      | true =>
          -- the devices are the same now, and so is all that follows
          obtain ⟨htranscript, hafter, -⟩ :=
            (device.step other event).device.course_of_board events hrig.board
          exact ⟨congrArg (_ :: ·) htranscript, hafter⟩

/-! ## Enabling -/

/-- What a device does when it is enabled. -/
theorem effects_enabled {device : Device} {rig : Rig β} {endstop : Option UInt8} {now : Clock}
    (h : (device.step rig (.query true endstop now)).result = .ok none) :
    (device.step rig (.query true endstop now)).rig.effects
      = [.cancel device.oid, .drive device.sck false none,
          .schedule device.oid (now + device.delays.retry)] := by
  have hway := device.enabled_enable endstop now rig.forget
  change ((device.enable endstop now rig.forget).result.map fun _ => none) = .ok none at h
  show (device.enable endstop now rig.forget).rig.effects = _
  generalize device.enable endstop now rig.forget = outcome at h hway ⊢
  cases hway with
  | armed hdrive =>
      rw [Rig.effects, Rig.schedule, Rig.trace_note, Rig.drive_of_ok hdrive]
      rfl
  | refused => cases h

/-- Devices that are set up for the same are the same once they are enabled, but for the latest
sample. -/
theorem started_eq_recalling {used new : Device} (h : used.renewed = new.renewed)
    (endstop : Option UInt8) (now : Clock) :
    used.started endstop now = (new.started endstop now).recalling used.latest := by
  obtain ⟨hoid, hdout, hsck, hgain, hpolarity, hdelays, hslot⟩ := renewed_eq_iff.mp h
  rw [started, started, hoid, hdout, hsck, hgain, hpolarity, hdelays, hslot]
  rfl

/-- What becomes of a device that has been through anything at all, once it is enabled: on the
same board it does what a device does that was just configured, whatever comes, and it is the
same device except for a latest sample from before. -/
theorem enabled_as_new (scale : Scale β) (request : Wire.Configure) (gain : Gain)
    (polarity : Polarity) (slot : Nat) (begun : Rig β) (history : List (Event β))
    {used : Device} {past fresh : Rig β} (endstop : Option UInt8) (now : Clock)
    (hpast : (scale.fresh request gain polarity slot).after begun history = (used, past))
    (hagain : (used.step past (.query true endstop now)).result = .ok none)
    (hfirst : ((scale.fresh request gain polarity slot).step fresh
      (.query true endstop now)).result = .ok none)
    (hboard : (used.step past (.query true endstop now)).rig.board
      = ((scale.fresh request gain polarity slot).step fresh
          (.query true endstop now)).rig.board) :
    let again := used.step past (.query true endstop now)
    let first := (scale.fresh request gain polarity slot).step fresh (.query true endstop now)
    again.rig.effects = first.rig.effects
      ∧ ∀ events,
          again.device.transcript again.rig events = first.device.transcript first.rig events
            ∧ (again.device.after again.rig events).1
              = if first.device.completesIn first.rig events then
                  (first.device.after first.rig events).1
                else { (first.device.after first.rig events).1 with latest := used.latest } := by
  intro again first
  have hsettings : used.renewed = (scale.fresh request gain polarity slot).renewed := by
    have h := renewed_after (scale.fresh request gain polarity slot) begun history
    rw [hpast] at h
    exact h
  obtain ⟨hoid, -, hsck, -, -, hdelays, -⟩ := renewed_eq_iff.mp hsettings
  have hdevice : again.device = first.device.recalling used.latest := by
    have hnew : first.device = _ := started_of_step hfirst
    have hused : again.device = _ := started_of_step hagain
    rw [hnew, hused]
    exact started_eq_recalling hsettings endstop now
  refine ⟨?_, fun events => ?_⟩
  · have hnew : first.rig.effects = _ := effects_enabled hfirst
    have hused : again.rig.effects = _ := effects_enabled hagain
    rw [hused, hnew, hoid, hsck, hdelays]
  · rw [hdevice]
    exact first.device.remembering_after used.latest events hboard

/-- A device on lines 2 and 3. -/
def plain : Device :=
  (Scale.start Bench.empty ⟨900, 4, 20⟩ 1).fresh ⟨7, 2, 3, 1, 1⟩ .a128 .normal 0

/-- The device has sent a sample. In the middle of the next frame it fails to lower its clock
line and is stopped. Then all is well again. -/
def troubled : List (Event Bench) :=
  [Event.query true (some 1) 5, Event.callback 30 true,
      Event.arrange fun bench => bench.setLine 2 true]
    ++ List.replicate 49 (Event.callback 40 true)
    ++ [Event.arrange fun bench => bench.setLine 2 false]
    ++ List.replicate 7 (Event.callback 50 true)
    ++ [Event.arrange fun bench => bench.setFault .setLow 3 true, Event.callback 60 true,
      Event.arrange fun _ => Bench.empty]

/-- Nothing is left of the trouble once the device is enabled. -/
theorem enabled_as_new_troubled :
    let past := plain.after (.start Bench.empty 1) troubled
    let again := past.1.step past.2 (.query true none 70)
    let first := plain.step (.start Bench.empty 1) (.query true none 70)
    past.1.frame.halfCycles = 8 ∧ past.1.running = false ∧ past.1.latest = -1
      ∧ again.result = .ok none ∧ first.result = .ok none ∧ again.rig.board = first.rig.board
      ∧ ∀ events,
          again.device.transcript again.rig events
            = first.device.transcript first.rig events := by
  intro past again first
  have hpast : plain.after (.start Bench.empty 1) troubled = (past.1, past.2) := Prod.mk.eta.symm
  have hagain : again.result = .ok none := by decide +kernel
  have hfirst : first.result = .ok none := by decide +kernel
  have hboard : again.rig.board = first.rig.board := by decide +kernel
  refine ⟨by decide +kernel, by decide +kernel, by decide +kernel, hagain, hfirst, hboard,
    fun events => ?_⟩
  exact ((enabled_as_new (Scale.start Bench.empty ⟨900, 4, 20⟩ 1) ⟨7, 2, 3, 1, 1⟩ .a128 .normal 0
    (.start Bench.empty 1) troubled none 70 hpast hagain hfirst hboard).2 events).1

end Device

end WeighScale
