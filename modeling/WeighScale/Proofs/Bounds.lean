import WeighScale.Proofs.Feeding
import WeighScale.Proofs.Latest

set_option autoImplicit false

/-! # The bounds of a frame in flight

A frame by itself can be fed with levels without end. A device ends its frame in time: whatever is
done to it, its frame is one that was fed with fewer levels than its gain asks for (`MidFrame`).
Neither a line that fails nor a caller who makes callbacks past the scale changes that, since each
way through a callback either takes the frame one half-cycle further, where it is not over, or
begins the next one.

All bounds come from this (`MidFrame.withinBounds`): the count is below the length of the frame, the
bits still to come are clear, and the half-cycle that comes next can be done in registers.
-/

namespace WeighScale

namespace Device

/-- The frame was fed with fewer levels than it takes. -/
def MidFrame (device : Device) : Prop :=
  ∃ levels : List Level, levels.length < device.gain.frameLength
    ∧ device.frame = (Frame.start.feed levels).2

/-- The frame is within its bounds, and so is every operation of its registers in the half-cycle
that comes next. -/
structure WithinBounds (device : Device) : Prop where
  count : device.frame.halfCycles < device.gain.frameLength
  /-- Only the bits that were captured so far can be set. -/
  clear : ∀ i < 32 - min (device.frame.halfCycles / 2) 24, device.frame.bits.getLsbD i = false
  blank : device.frame.halfCycles ≤ 1 → device.frame.bits = 0
  margin : ∀ i < 8, device.frame.bits.getLsbD i = false
  counted : device.frame.registers.count.toNat = device.frame.halfCycles
  /-- A data bit is moved up by 8 to 31 places. -/
  places : device.frame.halfCycles < dataHalfCycles →
    ∃ places, device.frame.registers.places? = some places ∧ 8 ≤ places ∧ places ≤ 31
  /-- The half-cycle can be counted. -/
  advance : ∀ high, device.frame.registers.advance? high
    = some (device.frame.clockLevel, (device.frame.advance high).registers)
  /-- The sample can be given its sign. -/
  finish : ∀ high, (device.frame.advance high).registers.finish? device.polarity
    = some (((device.frame.advance high).finish device.polarity).1, Registers.start)

namespace MidFrame

variable {device : Device}

theorem of_start (h : device.frame = .start) : MidFrame device :=
  ⟨[], Nat.zero_lt_of_lt device.gain.dataHalfCycles_lt_frameLength, h⟩

/-- The frame takes one more level, if that does not end it. -/
theorem advance (h : MidFrame device) {high : Level}
    (hover : (device.frame.advance high).isOver device.gain = false) {after : Device}
    (hframe : after.frame = device.frame.advance high) (hgain : after.gain = device.gain) :
    MidFrame after := by
  obtain ⟨levels, -, hfed⟩ := h
  have hlength : levels.length + 1 < device.gain.frameLength := by
    rw [Frame.isOver, Frame.halfCycles_advance, hfed, Frame.halfCycles_feed] at hover
    exact Nat.not_le.mp (of_decide_eq_false hover)
  refine ⟨levels ++ [high], ?_, ?_⟩
  · rw [hgain, List.length_append]
    exact hlength
  · rw [hframe, hfed, Frame.feed_concat]

/-- **The bounds of a frame** follow from the levels that it was fed with. -/
theorem withinBounds (h : MidFrame device) : WithinBounds device := by
  obtain ⟨levels, hlength, hfed⟩ := h
  have hplace : device.frame.halfCycles = levels.length := by rw [hfed, Frame.halfCycles_feed]
  have hsize : device.frame.halfCycles + 1 < UInt32.size := by
    have hmost := device.gain.frameLength_le
    rw [hplace]
    exact Nat.lt_of_le_of_lt (hlength.trans_le hmost) (by decide)
  have hclear : ∀ i < 32 - min (device.frame.halfCycles / 2) 24,
      device.frame.bits.getLsbD i = false := by
    rw [hplace, hfed]
    exact fun i => Frame.getLsbD_feed_of_lt levels
  refine
    { count := hplace ▸ hlength
      clear := hclear
      blank := fun hbegun => ?_
      margin := fun i hi => hclear i (by omega)
      counted := Frame.toNat_count (Nat.lt_of_succ_lt hsize)
      places := Frame.places?_registers_mem
      advance := Frame.advance?_registers hsize
      finish := fun high => (device.frame.advance high).finish?_registers device.polarity }
  · apply BitVec.eq_of_getLsbD_eq
    intro i hi
    rw [hclear i (by omega)]
    exact BitVec.getLsbD_zero.symm

variable {β : Type} [Board β]

theorem callback (h : MidFrame device) (now : Clock) (rig : Rig β) :
    MidFrame (device.callback now rig).device := by
  have hway := device.called_callback now rig
  generalize device.callback now rig = outcome at hway ⊢
  cases hway with
  | unread | waited => exact h
  | clocked high _ _ hover | stuck high _ _ _ hover => exact h.advance hover rfl rfl
  | delivered high => exact of_start (device.frame_finished high now)
  | withheld => exact of_start rfl

theorem timed (h : MidFrame device) (now : Clock) (rig : Rig β) :
    MidFrame (device.timed now rig).2 := by
  have hcallback := h.callback now rig
  unfold Device.timed
  split <;> exact hcallback

theorem query (h : MidFrame device) (enable : Bool) (endstop : Option UInt8) (now : Clock)
    (rig : Rig β) : MidFrame (device.query enable endstop now rig).device := by
  cases enable with
  | false => exact h
  | true =>
      have hway := device.enabled_enable endstop now rig
      show MidFrame (device.enable endstop now rig).device
      generalize device.enable endstop now rig = outcome at hway ⊢
      cases hway with
      | armed | refused => exact of_start rfl

end MidFrame

end Device

namespace Scale

variable {β : Type} [Board β]

/-! ## Everything that happens to the devices of a scale -/

/-- Something that happens to a scale, or a call of one of its devices past it. -/
inductive Happening (β : Type)
  | occurrence (occurrence : Occurrence β)
  /-- A callback is made of a device by itself, and its fault is left to the caller. -/
  | clock (oid : UInt8) (now : Clock)
  /-- A device is queried by itself. -/
  | query (oid : UInt8) (enable : Bool) (endstop : Option UInt8) (now : Clock)

/-- The scale after a query of a device by itself. -/
def queryDevice (scale : Scale β) (oid : UInt8) (enable : Bool) (endstop : Option UInt8)
    (now : Clock) : Scale β :=
  match scale.device? oid with
  | none => scale
  | some device =>
      let outcome := device.query enable endstop now scale.rig
      (scale.replace outcome.device).onRig outcome.rig

/-- The scale after it. -/
def undergo (scale : Scale β) : Happening β → Scale β
  | .occurrence occurrence => scale.meet occurrence
  | .clock oid now => (scale.clockDevice oid now).2
  | .query oid enable endstop now => scale.queryDevice oid enable endstop now

/-- Every frame was fed with fewer levels than it takes. -/
def MidFrames (scale : Scale β) : Prop := ∀ device ∈ scale.devices, device.MidFrame

namespace MidFrames

variable {scale : Scale β}

omit [Board β] in
theorem of_device? (h : scale.MidFrames) {oid : UInt8} {device : Device}
    (hfound : scale.device? oid = some device) : device.MidFrame :=
  h device (mem_of_device? hfound)

omit [Board β] in
theorem onRig (h : scale.MidFrames) (rig : Rig β) : (scale.onRig rig).MidFrames := h

omit [Board β] in
theorem replace (h : scale.MidFrames) {device : Device} (hdevice : device.MidFrame) :
    (scale.replace device).MidFrames := by
  intro other hmem
  obtain ⟨old, hold, rfl⟩ := List.mem_map.mp hmem
  split
  · exact hdevice
  · exact h old hold

omit [Board β] in
theorem put (h : scale.MidFrames) {device : Device} (hdevice : device.MidFrame) :
    (scale.put device).MidFrames := by
  unfold Scale.put
  split
  · exact h.replace hdevice
  · intro other hmem
    rcases List.mem_append.mp hmem with hold | hnew
    · exact h other hold
    · rw [List.mem_singleton.mp hnew]
      exact hdevice

theorem configure (h : scale.MidFrames) (request : Wire.Configure) :
    (scale.configure request).2.MidFrames := by
  have hway := scale.configured_configure request
  generalize scale.configure request = outcome at hway ⊢
  cases hway with
  | refused | failed => exact h
  | added device line hwanted => exact (h.onRig _).put (.of_start (oid_wanted hwanted).2.frame)

theorem query (h : scale.MidFrames) (request : Wire.Query) (now : Clock) :
    (scale.query request now).2.MidFrames := by
  cases hfound : scale.device? request.oid with
  | none =>
      rw [query_of_none now hfound]
      exact h
  | some device =>
      obtain ⟨rig, -, heq⟩ := query_eq_of_some now hfound
      rw [heq]
      exact (h.replace ((h.of_device? hfound).query ..)).onRig rig

theorem callback (h : scale.MidFrames) (oid : UInt8) (now : Clock) :
    (scale.callback oid now).2.MidFrames := by
  cases hfound : scale.device? oid with
  | none =>
      rw [callback_of_none now hfound]
      exact h
  | some device =>
      obtain ⟨rig, -, heq⟩ := callback_eq_of_some now hfound
      rw [heq]
      exact (h.replace ((h.of_device? hfound).timed ..)).onRig rig

theorem serve (h : scale.MidFrames) (timer : Timer) (now : Clock) :
    (scale.serve timer now).MidFrames := by
  have hcalled := (h.onRig (scale.taking timer).rig).callback timer.oid now
  rw [serve_eq]
  cases ((scale.taking timer).callback timer.oid now).1 <;> exact hcalled

theorem clockDevice (h : scale.MidFrames) (oid : UInt8) (now : Clock) :
    (scale.clockDevice oid now).2.MidFrames := by
  cases hfound : scale.device? oid with
  | none =>
      rw [Scale.clockDevice, hfound]
      exact h
  | some device =>
      rw [clockDevice_of_some now hfound]
      exact (h.replace ((h.of_device? hfound).callback ..)).onRig _

theorem queryDevice (h : scale.MidFrames) (oid : UInt8) (enable : Bool) (endstop : Option UInt8)
    (now : Clock) : (scale.queryDevice oid enable endstop now).MidFrames := by
  unfold Scale.queryDevice
  split
  · exact h
  · next device hfound => exact (h.replace ((h.of_device? hfound).query ..)).onRig _

theorem step (h : scale.MidFrames) (event : Event) : (scale.step event).MidFrames := by
  have hway := scale.stepped_step event
  generalize scale.step event = after at hway ⊢
  cases hway with
  | same | marked => exact h
  | configured request => exact h.configure request
  | queried request now => exact h.query request now
  | called oid now => exact h.callback oid now
  | served timer now => exact h.serve timer now

theorem meet (h : scale.MidFrames) (occurrence : Occurrence β) :
    (scale.meet occurrence).MidFrames := by
  cases occurrence with
  | event event => exact h.step event
  | arrange change => exact h

/-- **One happening**, of any kind. -/
theorem undergo (h : scale.MidFrames) (happening : Happening β) :
    (scale.undergo happening).MidFrames := by
  cases happening with
  | occurrence occurrence => exact h.meet occurrence
  | clock oid now => exact h.clockDevice oid now
  | query oid enable endstop now => exact h.queryDevice oid enable endstop now

/-- **A whole run.** -/
theorem foldl_undergo (h : scale.MidFrames) (happenings : List (Happening β)) :
    (happenings.foldl Scale.undergo scale).MidFrames := by
  induction happenings generalizing scale with
  | nil => exact h
  | cons happening happenings ih => exact ih (h.undergo happening)

end MidFrames

/-- **Every frame in flight is within its bounds**, whatever has happened to the scale and its
devices, in any order, and whichever calls of the board have failed. -/
theorem frames_within_bounds (board : β) (delays : Delays) (capacity : Nat)
    (happenings : List (Happening β)) :
    ∀ device ∈ (happenings.foldl undergo (start board delays capacity)).devices,
      device.WithinBounds := by
  have hstart : (start board delays capacity).MidFrames := fun _ hmem =>
    absurd hmem List.not_mem_nil
  exact fun device hmem => (hstart.foldl_undergo happenings device hmem).withinBounds

/-- A device begins a frame, and then all its levels are high. Its clock line can be lowered only,
so that every other callback fails, but its callbacks are made all the same. -/
def jammed : List (Happening Bench) :=
  [.occurrence (.event (.operate (.request (.configure ⟨5, 1, 2, 3, -1⟩) 0))),
      .query 5 true none 0, .clock 5 200,
      .occurrence (.arrange fun bench => (bench.setLine 1 true).setFault .setHigh 2 true)]
    ++ List.replicate 52 (.clock 5 240)

/-- The device is before the last half-cycle of the longest frame there is, with all bits set. -/
theorem frames_within_bounds_jammed :
    let scale := jammed.foldl undergo (start Bench.empty .standard 1)
    ∃ device ∈ scale.devices, device.WithinBounds
      ∧ device.frame = ⟨53, 0xffffff00⟩
      ∧ (device.frame.advance true).registers.finish? device.polarity = some (1, Registers.start)
      ∧ (scale.callback 5 240).1 = .again 12740
      ∧ ((scale.callback 5 240).2.device? 5).map Device.latest = some 1 := by
  intro scale
  have hstate : (scale.device? 5).map (fun device => (device.frame, device.polarity))
      = some (⟨53, 0xffffff00⟩, .inverted) := by decide +kernel
  obtain ⟨device, hfound, heq⟩ := Option.map_eq_some_iff.mp hstate
  obtain ⟨hframe, hpolarity⟩ := Prod.mk.inj heq
  have hmem : device ∈ scale.devices := mem_of_device? hfound
  have hbounds : device.WithinBounds :=
    frames_within_bounds Bench.empty .standard 1 jammed device hmem
  refine ⟨device, hmem, hbounds, hframe, ?_, by decide +kernel, by decide +kernel⟩
  rw [hbounds.finish true, hframe, hpolarity]
  decide +kernel

end Scale

end WeighScale
