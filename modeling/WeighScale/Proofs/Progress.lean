import WeighScale.Proofs.Acquisition

set_option autoImplicit false

/-! # How far a sample is off

A device on its chip is always so many callbacks from its next sample (`Circuit.left`). Before a
frame these are the readings that still find the chip at work, and the half-cycles of the frame;
within a frame they are the half-cycles to come. Every callback brings the sample nearer by one,
and the last one hands it over (`Moved.nearer`).

The count depends on three things that a frame hands on to the next one (`Aligned`). The frame
begins between two conversions of the chip; the clock line is low then, so that the first half-cycle
is an edge; and the data line is high exactly as long as the chip is at work. A conversion has to
take a reading at least: it begins with the last edge of a frame, and the half-cycle that lowers the
clock line again reads the data line once more (`Aligned.last`). A conversion that took none would
leave the line high for good.

A scale with one device (`Single`) has no other callbacks than those of the device, so its callbacks
are counted in the same way (`Single.serve`).
-/

namespace WeighScale

/-! ## The callbacks until a sample -/

namespace Circuit

variable (circuit : Circuit)

/-- The callbacks until the sample of the frame is handed over. -/
def left (frame : Frame) (chip : Chip) : Nat :=
  if frame.halfCycles = 0 then chip.busyLeft + circuit.gain.frameLength
  else circuit.gain.frameLength - frame.halfCycles

theorem frameLength_eq : circuit.gain.frameLength = 2 * circuit.plan.period :=
  circuit.gain.frameLength_eq_two_mul

theorem frameLength_pos : 0 < circuit.gain.frameLength :=
  Nat.zero_lt_of_lt circuit.gain.dataHalfCycles_lt_frameLength

variable {circuit} {frame : Frame} {chip : Chip}

theorem left_resting (h : frame.halfCycles = 0) :
    circuit.left frame chip = chip.busyLeft + circuit.gain.frameLength := if_pos h

theorem left_within (h : frame.halfCycles ≠ 0) :
    circuit.left frame chip = circuit.gain.frameLength - frame.halfCycles := if_neg h

end Circuit

/-- The device is in a frame that began between two conversions of its chip. Before the frame, the
clock line is low and the data line is high exactly as long as the chip is at work. -/
structure Aligned (circuit : Circuit) (device : Device) (chip : Chip) : Prop where
  coupled : ∃ n, Coupled circuit (n * circuit.plan.period) device chip
  poised : device.Poised chip
  line : device.frame.halfCycles = 0 → chip.dout = decide (0 < chip.busyLeft)
  busyLeft_le : device.frame.halfCycles = 0 → chip.busyLeft ≤ circuit.busy - 1

namespace Aligned

variable {circuit : Circuit} {device : Device} {chip : Chip}

theorem halfCycles_lt (h : Aligned circuit device chip) :
    device.frame.halfCycles < circuit.gain.frameLength := by
  obtain ⟨n, hcoupled⟩ := h.coupled
  rw [circuit.frameLength_eq]
  exact hcoupled.inStep.halfCycles_lt

/-- A sample is never there without a callback. -/
theorem left_pos (h : Aligned circuit device chip) : 0 < circuit.left device.frame chip := by
  have hlt := h.halfCycles_lt
  unfold Circuit.left
  split <;> omega

/-- No sample is further off than one is when the last one has just been handed over. -/
theorem left_le (h : Aligned circuit device chip) :
    circuit.left device.frame chip ≤ (circuit.busy - 1) + circuit.gain.frameLength := by
  by_cases hframe : device.frame.halfCycles = 0
  · have hbusy := h.busyLeft_le hframe
    rw [Circuit.left_resting hframe]
    omega
  · rw [Circuit.left_within hframe]
    omega

/-- Whether the sampling goes on makes no difference to the frame. -/
theorem disable (h : Aligned circuit device chip) (endstop : Option UInt8) :
    Aligned circuit (device.disable endstop) chip := by
  obtain ⟨n, hcoupled⟩ := h.coupled
  exact ⟨⟨n, hcoupled.wiring, hcoupled.inStep⟩, h.poised, h.line, h.busyLeft_le⟩

/-- Before a frame, the line is high as long as the chip is at work. -/
theorem high_iff (h : Aligned circuit device chip) (hframe : device.frame.halfCycles = 0) :
    chip.read.1 = true ↔ 0 < chip.busyLeft := by
  rw [Chip.level_read, h.line hframe, Bool.or_self, decide_eq_true_eq]

/-- **A ready check** that finds the chip at work takes one of its readings. -/
theorem waits (h : Aligned circuit device chip) (hframe : device.frame.halfCycles = 0)
    (hhigh : chip.read.1 = true) (now delay : Clock) :
    Aligned circuit (device.wakeAfter now delay) chip.read.2
      ∧ circuit.left device.frame chip.read.2 + 1 = circuit.left device.frame chip := by
  obtain ⟨n, hcoupled⟩ := h.coupled
  have hwork : 0 < chip.busyLeft := (h.high_iff hframe).mp hhigh
  have hle := h.busyLeft_le hframe
  have hread : chip.read.2 = _ := congrArg Prod.snd (Chip.read_of_busy hwork)
  obtain ⟨hstep, hsck⟩ := hcoupled.inStep.read hframe
  constructor
  · refine ⟨⟨n, hcoupled.wiring, hstep⟩, fun _ => hsck.trans (h.poised hframe), ?_, ?_⟩
    · intro _
      rw [hread]
    · intro _
      rw [hread]
      exact Nat.le_trans (Nat.sub_le _ _) hle
  · calc circuit.left device.frame chip.read.2 + 1
        = chip.busyLeft - 1 + circuit.gain.frameLength + 1 := by
          rw [Circuit.left_resting hframe, hread]
      _ = chip.busyLeft + circuit.gain.frameLength := by omega
      _ = circuit.left device.frame chip := (Circuit.left_resting hframe).symm

/-- **A half-cycle** that does not end the frame is one less to come. -/
theorem clocks (h : Aligned circuit device chip)
    (hready : device.frame.halfCycles = 0 → chip.read.1 = false)
    (hover : (device.frame.advance chip.read.1).isOver device.gain = false) (now delay : Clock) :
    Aligned circuit ({ device with frame := device.frame.advance chip.read.1 }.wakeAfter now delay)
        (chip.read.2.clock device.frame.clockLevel)
      ∧ circuit.left (device.frame.advance chip.read.1)
          (chip.read.2.clock device.frame.clockLevel) + 1
        = circuit.left device.frame chip := by
  obtain ⟨n, hcoupled⟩ := h.coupled
  have hlt := h.halfCycles_lt
  have hbegun : (device.frame.advance chip.read.1).halfCycles ≠ 0 := Nat.succ_ne_zero _
  have hstep := hcoupled.inStep.clocked (ChipPlan.edges_position_lt _) hcoupled.pulses
    (fun hframe => ⟨h.poised hframe, hready hframe⟩) hover
  constructor
  · -- a frame that has begun is not at rest
    exact ⟨⟨n, hcoupled.wiring, hstep⟩, fun hrest => absurd hrest hbegun,
      fun hrest => absurd hrest hbegun, fun hrest => absurd hrest hbegun⟩
  · rw [Circuit.left_within hbegun, Frame.halfCycles_advance]
    by_cases hframe : device.frame.halfCycles = 0
    · have hidle := Chip.busyLeft_of_read_low (hready hframe)
      rw [Circuit.left_resting hframe, hidle, hframe]
      omega
    · rw [Circuit.left_within hframe]
      omega

/-- The half-cycle that ends the frame is the last one, and takes a reading of the conversion that
has begun with the last edge. -/
theorem last (h : Aligned circuit device chip) (hbusy : 0 < circuit.busy)
    (hover : (device.frame.advance chip.read.1).isOver device.gain = true) :
    circuit.left device.frame chip = 1
      ∧ chip.read.2.busyLeft = circuit.busy - 1
      ∧ chip.read.2.dout = decide (0 < circuit.busy - 1) := by
  obtain ⟨n, hcoupled⟩ := h.coupled
  have hgain : device.gain = circuit.gain := congrArg (·.2.2.2.1) hcoupled.wiring
  have hlt := h.halfCycles_lt
  have hlong := circuit.gain.dataHalfCycles_lt_frameLength
  rw [Frame.isOver, Frame.halfCycles_advance, decide_eq_true_eq, hgain] at hover
  rw [dataHalfCycles] at hlong
  have hlast : device.frame.halfCycles + 1 = circuit.gain.frameLength := by omega
  have hwithin : device.frame.halfCycles ≠ 0 := by omega
  have hfirst : (circuit.plan.position (n * circuit.plan.period)).edges = 0 := by
    rw [ChipPlan.position_mul]
  have hwork : chip.busyLeft = circuit.busy :=
    hcoupled.inStep.busyLeft_last hfirst (hlast.trans circuit.frameLength_eq)
  have hread := congrArg Prod.snd (Chip.read_of_busy (hwork ▸ hbusy))
  rw [hread, hwork]
  refine ⟨?_, rfl, rfl⟩
  rw [Circuit.left_within hwithin]
  omega

/-- **The end of a frame** leaves the next frame between two conversions, too. -/
theorem ends (h : Aligned circuit device chip) (hbusy : 0 < circuit.busy)
    (hover : (device.frame.advance chip.read.1).isOver device.gain = true) (now : Clock) :
    Aligned circuit (device.finished chip.read.1 now) (chip.read.2.clock false)
      ∧ circuit.left (device.finished chip.read.1 now).frame (chip.read.2.clock false)
        = (circuit.busy - 1) + circuit.gain.frameLength := by
  obtain ⟨n, hcoupled⟩ := h.coupled
  obtain ⟨-, hwork, hline⟩ := h.last hbusy hover
  obtain ⟨-, hstep, hsck⟩ := hcoupled.inStep.completed hcoupled.pulses hover device.polarity
  rw [← ChipPlan.past_period, ChipPlan.past_position _ (Nat.le_refl _), ← Nat.succ_mul] at hstep
  have hframe : (device.finished chip.read.1 now).frame = .start := Device.frame_finished ..
  have hrest : (device.finished chip.read.1 now).frame.halfCycles = 0 := by
    rw [hframe]
    rfl
  rw [← hframe] at hstep
  constructor
  · refine ⟨⟨n + 1, (Device.wiring_finished ..).trans hcoupled.wiring, hstep⟩, fun _ => hsck, ?_, ?_⟩
    · intro _
      rw [Chip.clock_low]
      dsimp only
      rw [hwork, hline]
    · intro _
      exact Nat.le_of_eq hwork
  · rw [Circuit.left_resting hrest, Chip.clock_low]
    dsimp only
    rw [hwork]

end Aligned

/-! ## Callbacks of a device -/

namespace Device

variable {circuit : Circuit} {device : Device} {now : Clock} {rig : Rig Bench} {chip after : Chip}
  {outcome : Outcome Next Bench}

/-- What a callback has done for the sample: it is one callback nearer, or it was handed over. -/
inductive Nearer (circuit : Circuit) (device : Device) (rig : Rig Bench) (chip : Chip)
    (outcome : Outcome Next Bench) (after : Chip) : Prop
  | closer (clock : Clock) (hresult : outcome.result = .ok (.again clock))
      (hhandoff : outcome.rig.handoff = rig.handoff)
      (hleft : circuit.left outcome.device.frame after + 1 = circuit.left device.frame chip)
  | there (clock : Clock) (sample : Sample)
      (hresult : outcome.result = .ok (if device.active then .again clock else .done))
      (hhandoff : outcome.rig.handoff = rig.handoff.wake device.slot sample)
      (hleft : circuit.left device.frame chip = 1)
      (hnext : circuit.left outcome.device.frame after
        = (circuit.busy - 1) + circuit.gain.frameLength)

theorem Moved.slot (h : Moved device now rig chip outcome after) :
    outcome.device.slot = device.slot := by
  cases h with
  | waited | clocked => rfl
  | delivered => exact slot_finished ..

theorem Moved.active (h : Moved device now rig chip outcome after) :
    outcome.device.active = device.active := by
  cases h with
  | waited | clocked => rfl
  | delivered => exact active_finished ..

/-- **Every callback brings the sample nearer**, and leaves the device where the next one does,
too. -/
theorem Moved.nearer (h : Moved device now rig chip outcome after)
    (haligned : Aligned circuit device chip) (hbusy : 0 < circuit.busy) :
    Aligned circuit outcome.device after ∧ Nearer circuit device rig chip outcome after := by
  cases h with
  | waited hhigh hframe =>
      obtain ⟨hnext, hleft⟩ := haligned.waits hframe hhigh now device.delays.retry
      exact ⟨hnext, .closer _ rfl rfl hleft⟩
  | clocked hready hover =>
      obtain ⟨hnext, hleft⟩ := haligned.clocks hready hover now device.delays.edge
      exact ⟨hnext, .closer _ rfl rfl hleft⟩
  | delivered hready hover =>
      obtain ⟨hleft, -⟩ := haligned.last hbusy hover
      obtain ⟨hnext, hfull⟩ := haligned.ends hbusy hover now
      have hasks := device.afterFrame_eq chip.read.1 now
      have hslot := device.slot_finished chip.read.1 now
      exact ⟨hnext, .there (now + device.delays.sample) _ (congrArg _ hasks)
        (congrArg (rig.handoff.wake · _) hslot) hleft hfull⟩

end Device

/-! ## A scale with one device -/

namespace Circuit

variable (circuit : Circuit)

/-- The rack of this circuit and no other. -/
def solo : Rack where
  circuits := [circuit]
  oids_nodup := List.nodup_singleton _
  douts_nodup := List.nodup_singleton _
  scks_nodup := List.nodup_singleton _

theorem mem_solo : circuit ∈ circuit.solo.circuits := List.mem_singleton_self circuit

theorem bench_solo_update (chip after : Chip) (inputs outputs : Nat) :
    circuit.solo.bench (Function.update (fun _ => chip) circuit after) inputs outputs
      = circuit.solo.bench (fun _ => after) inputs outputs := by
  have hmounts : mounts [circuit] (Function.update (fun _ => chip) circuit after)
      = mounts [circuit] fun _ => after := by
    rw [mounts_cons, Function.update_self]
    rfl
  rw [Rack.bench, Rack.bench, solo, hmounts]

end Circuit

namespace Scale

variable {circuit : Circuit} {device : Device} {chip : Chip} {clocks : List Clock}
  {scale : Scale Bench}

/-- The device of the circuit is on the bench with its chip and nothing else. It has a slot, all
slots are clear, and the only callbacks are the ones of the device, due at these clocks. -/
structure Single (circuit : Circuit) (device : Device) (chip : Chip) (clocks : List Clock)
    (scale : Scale Bench) : Prop where
  found : scale.device? circuit.oid = some device
  slot : device.slot < scale.capacity
  board : ∃ inputs outputs, scale.rig.board = circuit.solo.bench (fun _ => chip) inputs outputs
  handoff : scale.rig.handoff = .clear scale.capacity
  pending : scale.rig.timers.pending = clocks.map (Timer.mk circuit.oid)

theorem Single.forget (h : Single circuit device chip clocks scale) :
    Single circuit device chip clocks (scale.onRig scale.rig.forget) :=
  ⟨h.found, h.slot, h.board, h.handoff, h.pending⟩

/-- A scale without devices that has room for one takes any. -/
theorem wanted_of_room (hnone : scale.devices = []) (hroom : 0 < scale.capacity) :
    scale.device? circuit.oid = none ∧ ∃ device, scale.wanted circuit.request = .ok device := by
  have hfound : scale.device? circuit.oid = none := by
    rw [device?, hnone]
    rfl
  have hslot : scale.slotFor circuit.request.oid = .ok 0 := by
    show scale.slotFor circuit.oid = .ok 0
    rw [slotFor, hfound, hnone]
    exact if_pos hroom
  refine ⟨hfound, scale.fresh circuit.request circuit.gain circuit.polarity 0, ?_⟩
  rw [wanted, settings_request]
  dsimp only
  rw [hslot]

/-- **The device is configured**, if there is room for it. -/
theorem single_configure (hnone : scale.devices = []) (hroom : 0 < scale.capacity)
    (hboard : scale.rig.board = circuit.solo.bench (fun _ => .start circuit.plan) 0 0)
    (hhandoff : scale.rig.handoff = .clear scale.capacity)
    (hpending : scale.rig.timers.pending = []) :
    (scale.configure circuit.request).1 = .ok ()
      ∧ ∃ device, Single circuit device (.start circuit.plan) []
          (scale.configure circuit.request).2
        ∧ Coupled circuit 0 device (.start circuit.plan) ∧ device.frame = .start := by
  obtain ⟨hfound, device, hwanted⟩ := wanted_of_room hnone hroom
  obtain ⟨hwiring, hslot⟩ := wanted_request hfound hwanted
  have hframe := (oid_wanted hwanted).2.frame
  obtain ⟨hcoupled, hattached, hmoved, hkept, -⟩ :=
    Device.coupled_attach circuit.mem_solo hboard hwiring hframe rfl
  have hway := scale.configured_configure circuit.request
  generalize scale.configure circuit.request = outcome at hway ⊢
  cases hway with
  | refused e herror => cases hwanted.symm.trans herror
  | failed other fault hok hattach =>
      obtain rfl := Except.ok.inj (hwanted.symm.trans hok)
      cases hattached.symm.trans hattach
  | added other line hok =>
      obtain rfl := Except.ok.inj (hwanted.symm.trans hok)
      have hself := device?_put_self (scale.onRig ((device.attach scale.rig).2.log line)) device
      rw [hcoupled.oid] at hself
      refine ⟨rfl, device, ⟨hself, ?_, ⟨1, 1, ?_⟩, ?_, ?_⟩, hcoupled, hframe⟩
      · rw [capacity, rig_put, rig_onRig, Rig.log, Rig.handoff_note, hkept]
        exact hslot
      · rw [rig_put]
        exact hmoved
      · rw [capacity, rig_put, rig_onRig, Rig.log, Rig.handoff_note, hkept]
        exact hhandoff
      · rw [rig_put, rig_onRig, Rig.log, Rig.timers_note, timers_attach]
        exact hpending

/-- **The device is enabled**, and its first sample is as many callbacks off as a frame has
half-cycles. -/
theorem Single.enable (h : Single circuit device (.start circuit.plan) [] scale)
    (hcoupled : Coupled circuit 0 device (.start circuit.plan)) (hframe : device.frame = .start)
    (endstop : Option UInt8) (now : Clock) :
    (scale.query ⟨circuit.oid, true, endstop⟩ now).1 = .ok ()
      ∧ ∃ device clock, Single circuit device ((Chip.start circuit.plan).clock false) [clock]
          (scale.query ⟨circuit.oid, true, endstop⟩ now).2
        ∧ Aligned circuit device ((Chip.start circuit.plan).clock false) ∧ device.active = true
        ∧ circuit.left device.frame ((Chip.start circuit.plan).clock false)
          = circuit.gain.frameLength := by
  obtain ⟨inputs, outputs, hboard⟩ := h.board
  obtain ⟨henable, hlowered⟩ :=
    Device.enable_rack circuit.mem_solo hboard hcoupled.sck endstop now
  obtain ⟨hstep, hlow, -⟩ :=
    Device.coupled_enable circuit.mem_solo hboard hcoupled endstop now
  rw [henable] at hstep hlow
  rw [circuit.bench_solo_update] at hlowered
  have hfound : scale.device? (Wire.Query.mk circuit.oid true endstop).oid = some device := h.found
  have hqueried : scale.queried device ⟨circuit.oid, true, endstop⟩ now = _ := henable
  have hok := query_ok_iff now hfound
  obtain ⟨hself, -, hlogged⟩ := query_of_some now hfound
  rw [hqueried] at hself hlogged hok
  have hempty : (scale.rig.timers.cancel device.oid).pending = [] := by
    rw [Timers.cancel, h.pending]
    rfl
  have hsingle : Single circuit (device.started endstop now) ((Chip.start circuit.plan).clock false)
      [now + device.delays.retry] (scale.query ⟨circuit.oid, true, endstop⟩ now).2 := by
    refine ⟨hself, ?_, ⟨inputs, outputs, hlogged.board.trans hlowered⟩, ?_, ?_⟩
    · rw [capacity, hlogged.handoff]
      exact h.slot
    · rw [capacity, hlogged.handoff]
      exact h.handoff
    · rw [hlogged.timers, ← hcoupled.oid]
      show (scale.rig.timers.cancel device.oid).pending ++ [_] = _
      rw [hempty]
      rfl
  have haligned : Aligned circuit (device.started endstop now)
      ((Chip.start circuit.plan).clock false) := by
    refine ⟨⟨0, ?_⟩, hlow, fun _ => rfl, fun _ => Nat.zero_le _⟩
    rw [hframe] at hstep
    rw [Nat.zero_mul]
    exact hstep
  exact ⟨hok.mpr rfl, _, _, hsingle, haligned, rfl, Nat.zero_add _⟩

/-- **The device is disabled**, and nothing else happens. -/
theorem Single.disable (h : Single circuit device chip clocks scale) (endstop : Option UInt8)
    (now : Clock) :
    (scale.query ⟨circuit.oid, false, endstop⟩ now).1 = .ok ()
      ∧ Single circuit (device.disable endstop) chip clocks
        (scale.query ⟨circuit.oid, false, endstop⟩ now).2 := by
  have hfound : scale.device? (Wire.Query.mk circuit.oid false endstop).oid = some device :=
    h.found
  have hok := query_ok_iff now hfound
  obtain ⟨hself, -, hlogged⟩ := query_of_some now hfound
  obtain ⟨inputs, outputs, hboard⟩ := h.board
  refine ⟨hok.mpr rfl, hself, ?_, ⟨inputs, outputs, hlogged.board.trans hboard⟩, ?_, ?_⟩
  · rw [capacity, hlogged.handoff]
    exact h.slot
  · rw [capacity, hlogged.handoff]
    exact h.handoff
  · rw [hlogged.timers]
    exact h.pending

/-- What a callback and the delivery after it come to, with the number of readings sent. -/
inductive Progress (circuit : Circuit) (device : Device) (chip : Chip) (after : Scale Bench) :
    Nat → Prop
  /-- The sample is one callback nearer. -/
  | closer (next : Device) (moved : Chip) (clock : Clock)
      (hsingle : Single circuit next moved [clock] after) (haligned : Aligned circuit next moved)
      (hactive : next.active = device.active)
      (hleft : circuit.left next.frame moved + 1 = circuit.left device.frame chip) :
      Progress circuit device chip after 0
  /-- The sample was sent, and the one after it is under way. -/
  | sent (next : Device) (moved : Chip) (clock : Clock)
      (hsingle : Single circuit next moved [clock] after) (haligned : Aligned circuit next moved)
      (hactive : next.active = true) (hwas : device.active = true)
      (hleft : circuit.left device.frame chip = 1)
      (hnext : circuit.left next.frame moved = (circuit.busy - 1) + circuit.gain.frameLength) :
      Progress circuit device chip after 1
  /-- The sample was sent, and it is the last one. -/
  | last (hwas : device.active = false) (hleft : circuit.left device.frame chip = 1)
      (hdone : after.rig.timers.pending = []) :
      Progress circuit device chip after 1

/-- The callbacks to come after one was made. -/
theorem timers_serve_of_ok {timer : Timer} (now : Clock) {next : Next}
    (hfound : scale.device? timer.oid = some device)
    (hok : (device.callback now (scale.taking timer).rig).result = .ok next) :
    (scale.serve timer now).rig.timers
      = ((scale.taking timer).putBack timer.oid next).rig.timers := by
  have htaken : (scale.taking timer).device? timer.oid = some device := hfound
  obtain ⟨hnext, -, -, hlogged⟩ := callback_of_some now htaken
  have htimers : ((scale.taking timer).callback timer.oid now).2.rig.timers
      = (scale.taking timer).rig.timers := by
    rw [hlogged.timers, Device.timers_callback]
  rw [serve_eq, hnext, Device.timed, hok]
  cases next with
  | done => exact htimers
  | again clock => exact congrArg (·.schedule timer.oid clock) htimers

/-- What is left of the callback of the only device, if the slots are as many as before. -/
theorem Single.delivered {clock : Clock} (h : Single circuit device chip [clock] scale)
    {now : Clock} {next : Next} {after : Chip}
    (hok : (device.callback now (scale.taking ⟨circuit.oid, clock⟩).rig).result = .ok next)
    (hslot : (device.callback now (scale.taking ⟨circuit.oid, clock⟩).rig).device.slot
      = device.slot)
    (hboard : ∃ inputs outputs,
      (device.callback now (scale.taking ⟨circuit.oid, clock⟩).rig).rig.board
        = circuit.solo.bench (Function.update (fun _ => chip) circuit after) inputs outputs)
    (hslots : (device.callback now (scale.taking ⟨circuit.oid, clock⟩).rig).rig.handoff.capacity
      = scale.capacity)
    (hclocks : ((scale.taking ⟨circuit.oid, clock⟩).putBack circuit.oid next).rig.timers.pending
      = clocks.map (Timer.mk circuit.oid)) (ids : Wire.Ids) (probe : Bool) :
    Single circuit (device.callback now (scale.taking ⟨circuit.oid, clock⟩).rig).device after clocks
      ((scale.serve ⟨circuit.oid, clock⟩ now).delivered ids probe) := by
  have hfound : scale.device? (Timer.mk circuit.oid clock).oid = some device := h.found
  obtain ⟨hself, hmoved, hhandoff, -⟩ := serve_of_some now hfound ⟨next, hok⟩
  obtain ⟨inputs, outputs, hboard⟩ := hboard
  have hcapacity : (scale.serve ⟨circuit.oid, clock⟩ now).capacity = scale.capacity := by
    rw [capacity, hhandoff]
    exact hslots
  have hkept : ((scale.serve ⟨circuit.oid, clock⟩ now).delivered ids probe).capacity
      = scale.capacity := by
    rw [capacity, handoff_delivered, Handoff.capacity_clear, hcapacity]
  refine ⟨?_, ?_, ⟨inputs, outputs, ?_⟩, ?_, ?_⟩
  · rw [device?_delivered]
    exact hself
  · rw [hslot, hkept]
    exact h.slot
  · rw [board_delivered, hmoved, hboard, circuit.bench_solo_update]
  · rw [handoff_delivered, hkept, hcapacity]
  · show (Rig.deliver _ ids probe).2.timers.pending = _
    rw [Rig.timers_deliver, timers_serve_of_ok now hfound hok]
    exact hclocks

/-- **A callback of the only device**, and the delivery after it. -/
theorem Single.serve {clock : Clock} (h : Single circuit device chip [clock] scale)
    (haligned : Aligned circuit device chip) (hbusy : 0 < circuit.busy) (now : Clock)
    (ids : Wire.Ids) (probe : Bool) :
    Progress circuit device chip ((scale.serve ⟨circuit.oid, clock⟩ now).delivered ids probe)
      ((scale.serve ⟨circuit.oid, clock⟩ now).rig.deliver ids probe).1 := by
  obtain ⟨inputs, outputs, hboard⟩ := h.board
  obtain ⟨n, hcoupled⟩ := haligned.coupled
  have hfound : scale.device? (Timer.mk circuit.oid clock).oid = some device := h.found
  have hempty : (scale.taking ⟨circuit.oid, clock⟩).rig.timers.pending = [] := by
    show scale.rig.timers.pending.erase ⟨circuit.oid, clock⟩ = []
    rw [h.pending]
    exact List.erase_cons_head ..
  have hagain (next : Clock) :
      ((scale.taking ⟨circuit.oid, clock⟩).putBack circuit.oid (.again next)).rig.timers.pending
        = [next].map (Timer.mk circuit.oid) := by
    show (scale.taking ⟨circuit.oid, clock⟩).rig.timers.pending ++ [⟨circuit.oid, next⟩] = _
    rw [hempty]
    rfl
  have htaken : (scale.taking ⟨circuit.oid, clock⟩).rig.board
      = circuit.solo.bench (fun _ => chip) inputs outputs := hboard
  obtain ⟨moved, hway, hmoved⟩ :=
    Device.moved_callback circuit.mem_solo htaken hcoupled.dout hcoupled.sck now
  obtain ⟨hnext, hprogress⟩ := hway.nearer haligned hbusy
  rw [Rig.deliver_eq]
  cases hprogress with
  | closer next hresult hhandoff hleft =>
      obtain ⟨-, -, hkept, -⟩ := serve_of_some now hfound ⟨_, hresult⟩
      have hclear : (scale.serve ⟨circuit.oid, clock⟩ now).rig.handoff = .clear scale.capacity :=
        hkept.trans (hhandoff.trans h.handoff)
      rw [hclear, Handoff.samples_clear]
      refine .closer _ moved next ?_ hnext hway.active hleft
      exact h.delivered hresult hway.slot ⟨_, _, hmoved⟩ (congrArg Handoff.capacity hhandoff)
        (hagain next) ids probe
  | there next sample hresult hhandoff hleft hfull =>
      obtain ⟨-, -, hkept, -⟩ := serve_of_some now hfound ⟨_, hresult⟩
      have hclear : (scale.serve ⟨circuit.oid, clock⟩ now).rig.handoff
          = (Handoff.clear scale.capacity).wake device.slot sample := by
        rw [hkept, hhandoff]
        exact congrArg (·.wake device.slot sample) h.handoff
      rw [hclear, Handoff.samples_wake_clear h.slot]
      cases hactive : device.active with
      | true =>
          rw [hactive, if_pos rfl] at hresult
          refine .sent _ moved next ?_ hnext (hway.active.trans hactive) hactive hleft hfull
          refine h.delivered hresult hway.slot ⟨_, _, hmoved⟩ ?_ (hagain next) ids probe
          rw [hhandoff, Handoff.capacity_wake]
          rfl
      | false =>
          rw [hactive, if_neg Bool.false_ne_true] at hresult
          refine .last hactive hleft ?_
          show (Rig.deliver _ ids probe).2.timers.pending = []
          rw [Rig.timers_deliver, timers_serve_of_ok now hfound hresult]
          exact hempty

end Scale

end WeighScale
