import WeighScale.Proofs.Delivering
import WeighScale.Proofs.Rack
import WeighScale.Proofs.Turns

set_option autoImplicit false

/-! # Sampling on a rack

What the operations of a device do on the bench of a rack. No pin fails there, so each of them
has a single outcome but for the level that is read, and it moves the chip of its own circuit
and no other (`moved_callback`, `enable_rack`). A device that is `Coupled` to its chip stays so: a
callback either goes on with the frame or hands over its sample (`advanced_callback`), and enabling
the device loses the rising edges of the frame in flight and nothing else (`coupled_enable`).
-/

namespace WeighScale

variable {rack : Rack} {circuit : Circuit}

/-! ## The calls of the rig -/

namespace Rig

variable {rig : Rig Bench} {chips : Circuit → Chip} {inputs outputs : Nat}

theorem read_rack (hmem : circuit ∈ rack.circuits)
    (hboard : rig.board = rack.bench chips inputs outputs) :
    (rig.read circuit.dout).1 = .ok (chips circuit).read.1
      ∧ (rig.read circuit.dout).2.board
          = rack.bench (Function.update chips circuit (chips circuit).read.2) inputs outputs := by
  have hread := Rack.read_bench hmem chips inputs outputs
  rw [← hboard] at hread
  rw [Rig.read, hread]
  exact ⟨rfl, rfl⟩

theorem drive_rack (hmem : circuit ∈ rack.circuits)
    (hboard : rig.board = rack.bench chips inputs outputs) (high : Level) :
    (rig.drive circuit.sck high).1 = .ok ()
      ∧ (rig.drive circuit.sck high).2.board
          = rack.bench (Function.update chips circuit ((chips circuit).clock high)) inputs
              outputs := by
  have hdrive := Rack.drive_bench hmem chips inputs outputs high
  rw [← hboard] at hdrive
  rw [Rig.drive, hdrive]
  exact ⟨rfl, rfl⟩

/-- The line is read and then driven. -/
theorem read_drive_rack (hmem : circuit ∈ rack.circuits)
    (hboard : rig.board = rack.bench chips inputs outputs) (high : Level) :
    ((rig.read circuit.dout).2.drive circuit.sck high).1 = .ok ()
      ∧ ((rig.read circuit.dout).2.drive circuit.sck high).2.board
          = rack.bench (Function.update chips circuit ((chips circuit).read.2.clock high)) inputs
              outputs := by
  have hdrive := drive_rack hmem (read_rack hmem hboard).2 high
  rw [Function.update_self, Function.update_idem] at hdrive
  exact hdrive

theorem setupInput_rack (hboard : rig.board = rack.bench chips inputs outputs) (pin : Pin)
    (pull : Pull) :
    (rig.setupInput pin pull).1 = .ok ()
      ∧ (rig.setupInput pin pull).2.board = rack.bench chips (inputs + 1) outputs := by
  rw [Rig.setupInput, hboard, Rack.setupInput_bench]
  exact ⟨rfl, rfl⟩

theorem setupOutput_rack (hboard : rig.board = rack.bench chips inputs outputs) (pin : Pin)
    (high : Level) :
    (rig.setupOutput pin high).1 = .ok ()
      ∧ (rig.setupOutput pin high).2.board = rack.bench chips inputs (outputs + 1) := by
  rw [Rig.setupOutput, hboard, Rack.setupOutput_bench]
  exact ⟨rfl, rfl⟩

end Rig

/-! ## Devices and their chips -/

/-- What a device is set up for. -/
def Device.wiring (device : Device) : UInt8 × Pin × Pin × Gain × Polarity :=
  (device.oid, device.dout, device.sck, device.gain, device.polarity)

/-- What the device of a circuit is to be set up for. -/
def Circuit.wiring (circuit : Circuit) : UInt8 × Pin × Pin × Gain × Polarity :=
  (circuit.oid, circuit.dout, circuit.sck, circuit.gain, circuit.polarity)

/-- The device is set up for the circuit, and its frame is in step with the chip; the frame has
begun after `edges` rising edges in all. -/
structure Coupled (circuit : Circuit) (edges : Nat) (device : Device) (chip : Chip) : Prop where
  wiring : device.wiring = circuit.wiring
  inStep : InStep circuit.plan (circuit.plan.position edges) device.frame chip

namespace Coupled

variable {edges : Nat} {device : Device} {chip : Chip}

theorem oid (h : Coupled circuit edges device chip) : device.oid = circuit.oid :=
  congrArg Prod.fst h.wiring

theorem dout (h : Coupled circuit edges device chip) : device.dout = circuit.dout :=
  congrArg (·.2.1) h.wiring

theorem sck (h : Coupled circuit edges device chip) : device.sck = circuit.sck :=
  congrArg (·.2.2.1) h.wiring

theorem pulses (h : Coupled circuit edges device chip) :
    circuit.plan.pulses = device.gain.pulses :=
  congrArg (·.2.2.2.1.pulses) h.wiring.symm

theorem polarity (h : Coupled circuit edges device chip) : device.polarity = circuit.polarity :=
  congrArg (·.2.2.2.2) h.wiring

end Coupled

namespace Device

variable {edges : Nat} {device : Device} {rig : Rig Bench} {chips : Circuit → Chip}
  {inputs outputs : Nat}

/-- The clock line is low if the next callback can begin a frame. -/
def Poised (device : Device) (chip : Chip) : Prop :=
  device.frame.halfCycles = 0 → chip.sck = false

theorem wiring_finished (device : Device) (high : Level) (now : Clock) :
    (device.finished high now).wiring = device.wiring := by
  unfold finished settle
  split <;> rfl

/-! ## Callbacks -/

/-- The ways through a callback on a rack, where no pin fails, with the chip after each. -/
inductive Moved (device : Device) (now : Clock) (rig : Rig Bench) (chip : Chip) :
    Outcome Next Bench → Chip → Prop
  /-- No conversion was ready. -/
  | waited (hhigh : chip.read.1 = true) (hframe : device.frame.halfCycles = 0) :
      Moved device now rig chip
        ⟨.ok (.again (now + device.delays.retry)), device.wakeAfter now device.delays.retry,
          device.seen rig⟩
        chip.read.2
  /-- The frame went on by a half-cycle. -/
  | clocked (hready : device.frame.halfCycles = 0 → chip.read.1 = false)
      (hover : (device.frame.advance chip.read.1).isOver device.gain = false) :
      Moved device now rig chip
        ⟨.ok (.again (now + device.delays.edge)),
          { device with frame := device.frame.advance chip.read.1 }.wakeAfter now
            device.delays.edge,
          ((device.seen rig).drive device.sck device.frame.clockLevel).2⟩
        (chip.read.2.clock device.frame.clockLevel)
  /-- The frame came to its end and the sample was handed over. -/
  | delivered (hready : device.frame.halfCycles = 0 → chip.read.1 = false)
      (hover : (device.frame.advance chip.read.1).isOver device.gain = true) :
      Moved device now rig chip
        ⟨.ok (device.finished chip.read.1 now).afterFrame, device.finished chip.read.1 now,
          ((device.seen rig).drive device.sck false).2.wake (device.finished chip.read.1 now).slot
            (device.finished chip.read.1 now).sample⟩
        (chip.read.2.clock false)

/-- **A callback on a rack takes one of the ways listed**, and moves the chip of its circuit and
nothing else on the bench. -/
theorem moved_callback (hmem : circuit ∈ rack.circuits)
    (hboard : rig.board = rack.bench chips inputs outputs) (hdout : device.dout = circuit.dout)
    (hsck : device.sck = circuit.sck) (now : Clock) :
    ∃ chip, Moved device now rig (chips circuit) (device.callback now rig) chip
      ∧ (device.callback now rig).rig.board
        = rack.bench (Function.update chips circuit chip) inputs outputs := by
  obtain ⟨hlevel, hseen⟩ := Rig.read_rack hmem hboard
  have hdriven := Rig.read_drive_rack hmem hboard
  rw [← hdout] at hlevel hseen hdriven
  rw [← hsck] at hdriven
  have hway := called_callback device now rig
  generalize device.callback now rig = outcome at hway ⊢
  cases hway with
  | unread fault hread =>
      -- no pin fails on the bench of a rack
      rw [hlevel] at hread
      cases hread
  | waited hread hframe =>
      exact ⟨_, .waited (Except.ok.inj (hlevel.symm.trans hread)) hframe, hseen⟩
  | clocked high hread hready hover hdrive =>
      obtain rfl : (chips circuit).read.1 = high := Except.ok.inj (hlevel.symm.trans hread)
      exact ⟨_, .clocked hready hover, (hdriven _).2⟩
  | stuck high fault hread hready hover hdrive =>
      rw [seen, (hdriven _).1] at hdrive
      cases hdrive
  | delivered high hread hready hover hdrive =>
      obtain rfl : (chips circuit).read.1 = high := Except.ok.inj (hlevel.symm.trans hread)
      exact ⟨_, .delivered hready hover, (hdriven false).2⟩
  | withheld high fault hread hready hover hdrive =>
      rw [seen, (hdriven _).1] at hdrive
      cases hdrive

/-- What a callback has done on a rack: it has moved its chip and nothing else on the bench, and
has handed over at most one sample, that of its frame. -/
structure Advanced (rack : Rack) (circuit : Circuit) (edges : Nat) (device : Device)
    (rig : Rig Bench) (chips : Circuit → Chip) (inputs outputs : Nat)
    (outcome : Outcome Next Bench) (chip : Chip) : Prop where
  ok : ∃ next, outcome.result = .ok next
  board : outcome.rig.board = rack.bench (Function.update chips circuit chip) inputs outputs
  sent : outcome.rig.sent = rig.sent
  slot : outcome.device.slot = device.slot
  poised : outcome.device.Poised chip
  coupled :
    Coupled circuit edges outcome.device chip ∧ outcome.rig.handoff = rig.handoff
      ∨ ∃ sample, Coupled circuit (edges + circuit.plan.period) outcome.device chip
          ∧ outcome.rig.handoff = rig.handoff.wake device.slot sample
          ∧ sample.oid = circuit.oid ∧ sample.value.toInt = circuit.sampleAt edges

/-- **A callback on a rack** goes on with the frame or hands over its sample. -/
theorem advanced_callback (hmem : circuit ∈ rack.circuits)
    (hboard : rig.board = rack.bench chips inputs outputs)
    (hcoupled : Coupled circuit edges device (chips circuit))
    (hpoised : device.Poised (chips circuit)) (now : Clock) :
    ∃ chip, Advanced rack circuit edges device rig chips inputs outputs (device.callback now rig)
      chip := by
  obtain ⟨chip, hway, hmoved⟩ := moved_callback hmem hboard hcoupled.dout hcoupled.sck now
  refine ⟨chip, ?_⟩
  generalize device.callback now rig = outcome at hway hmoved ⊢
  cases hway with
  | waited hhigh hframe =>
      obtain ⟨hstep, hsck⟩ := hcoupled.inStep.read hframe
      refine ⟨⟨_, rfl⟩, hmoved, Rig.sent_read rig _, rfl, ?_, ?_⟩
      · intro _
        rw [hsck]
        exact hpoised hframe
      · exact Or.inl ⟨⟨hcoupled.wiring, hstep⟩, rfl⟩
  | clocked hready hover =>
      have hstep := hcoupled.inStep.clocked (ChipPlan.edges_position_lt edges) hcoupled.pulses
        (fun hframe => ⟨hpoised hframe, hready hframe⟩) hover
      refine ⟨⟨_, rfl⟩, hmoved, ?_, rfl, ?_, Or.inl ⟨⟨hcoupled.wiring, hstep⟩, rfl⟩⟩
      · exact (Rig.sent_drive _ _ _).trans (Rig.sent_read rig _)
      · -- a frame that went on is not at its beginning
        intro hframe
        exact absurd hframe (Nat.succ_ne_zero _)
  | delivered hready hover =>
      obtain ⟨hvalue, hstep, hsck⟩ :=
        hcoupled.inStep.completed hcoupled.pulses hover device.polarity
      rw [← ChipPlan.past_period, ChipPlan.past_position edges (Nat.le_refl _)] at hstep
      refine ⟨⟨_, rfl⟩, hmoved, ?_, slot_finished .., fun _ => hsck, ?_⟩
      · calc (((device.seen rig).drive device.sck false).2.wake _ _).sent
            = ((device.seen rig).drive device.sck false).2.sent := Rig.sent_wake _ _ _
          _ = (device.seen rig).sent := Rig.sent_drive _ _ _
          _ = rig.sent := Rig.sent_read rig _
      · refine Or.inr ⟨_, ⟨?_, ?_⟩, congrArg (rig.handoff.wake · _) (slot_finished ..), ?_, ?_⟩
        · exact (wiring_finished ..).trans hcoupled.wiring
        · dsimp only
          rw [frame_finished]
          exact hstep
        · exact (oid_finished ..).trans hcoupled.oid
        · rw [sample_finished, hvalue, hcoupled.polarity, Circuit.sampleAt]

/-! ## Enabling and attaching -/

/-- On a rack, enabling a device is lowering its clock line and asking for the first ready
check. -/
theorem enable_rack (hmem : circuit ∈ rack.circuits)
    (hboard : rig.board = rack.bench chips inputs outputs) (hsck : device.sck = circuit.sck)
    (endstop : Option UInt8) (now : Clock) :
    device.enable endstop now rig
        = ⟨.ok (), device.started endstop now,
            ((rig.cancel device.oid).drive device.sck false).2.schedule device.oid
              (now + device.delays.retry)⟩
      ∧ ((rig.cancel device.oid).drive device.sck false).2.board
        = rack.bench (Function.update chips circuit ((chips circuit).clock false)) inputs
            outputs := by
  have hcancelled : (rig.cancel device.oid).board = rack.bench chips inputs outputs := hboard
  have hlowered := Rig.drive_rack hmem hcancelled false
  rw [← hsck] at hlowered
  refine ⟨?_, hlowered.2⟩
  have hway := device.enabled_enable endstop now rig
  generalize device.enable endstop now rig = outcome at hway ⊢
  cases hway with
  | armed => rfl
  | refused fault hdrive =>
      rw [hlowered.1] at hdrive
      cases hdrive

/-- **Enabling a device** lowers the clock line and begins a new frame. The edges of the frame
in flight, if there is one, are lost: the new frame begins where the chip is. -/
theorem coupled_enable (hmem : circuit ∈ rack.circuits)
    (hboard : rig.board = rack.bench chips inputs outputs)
    (hcoupled : Coupled circuit edges device (chips circuit)) (endstop : Option UInt8)
    (now : Clock) :
    Coupled circuit (edges + device.frame.edges) (device.enable endstop now rig).device
        ((chips circuit).clock false)
      ∧ (device.enable endstop now rig).device.Poised ((chips circuit).clock false)
      ∧ (device.enable endstop now rig).device.slot = device.slot
      ∧ (device.enable endstop now rig).rig.board
          = rack.bench (Function.update chips circuit ((chips circuit).clock false)) inputs outputs
      ∧ (device.enable endstop now rig).rig.handoff = rig.handoff
      ∧ (device.enable endstop now rig).rig.sent = rig.sent := by
  obtain ⟨hstep, hsck⟩ := hcoupled.inStep.restarted (ChipPlan.edges_position_lt edges)
  rw [ChipPlan.past_position edges hcoupled.inStep.edges_le] at hstep
  obtain ⟨henable, hlowered⟩ := enable_rack hmem hboard hcoupled.sck endstop now
  rw [henable]
  refine ⟨⟨hcoupled.wiring, hstep⟩, fun _ => hsck, rfl, hlowered, rfl, ?_⟩
  calc (((rig.cancel device.oid).drive device.sck false).2.schedule _ _).sent
      = ((rig.cancel device.oid).drive device.sck false).2.sent := Rig.sent_schedule _ _ _
    _ = (rig.cancel device.oid).sent := Rig.sent_drive _ _ _
    _ = rig.sent := Rig.sent_cancel rig _

/-- **Attaching a device** leaves a chip that was just started as it is. -/
theorem coupled_attach (hmem : circuit ∈ rack.circuits)
    (hboard : rig.board = rack.bench chips inputs outputs)
    (hwiring : device.wiring = circuit.wiring) (hframe : device.frame = .start)
    (hchip : chips circuit = .start circuit.plan) :
    Coupled circuit 0 device (chips circuit)
      ∧ (device.attach rig).1 = .ok ()
      ∧ (device.attach rig).2.board = rack.bench chips (inputs + 1) (outputs + 1)
      ∧ (device.attach rig).2.handoff = rig.handoff
      ∧ (device.attach rig).2.sent = rig.sent := by
  have hsck : device.sck = circuit.sck := congrArg (·.2.2.1) hwiring
  obtain ⟨hin, hinboard⟩ := Rig.setupInput_rack hboard device.dout .down
  obtain ⟨hout, houtboard⟩ := Rig.setupOutput_rack hinboard device.sck true
  obtain ⟨hdrive, hdriven⟩ := Rig.drive_rack hmem houtboard true
  rw [← hsck] at hdrive hdriven
  -- the clock line of the chip is high already, so raising it is no edge
  have hraised : (chips circuit).clock true = chips circuit := by rw [hchip]; rfl
  rw [hraised, Function.update_eq_self] at hdriven
  have hattach : device.attach rig
      = ((rig.setupInput device.dout .down).2.setupOutput device.sck true).2.drive device.sck
          true := by
    rw [attach, ← Prod.mk.eta (p := rig.setupInput device.dout .down), hin]
    dsimp only
    rw [← Prod.mk.eta (p := Rig.setupOutput _ device.sck true), hout]
    rfl
  have hsent := attach_keeps Rig.sent device (fun rig => rig.sent_setupInput device.dout)
    (fun rig => rig.sent_setupOutput device.sck) (fun rig => rig.sent_drive device.sck) rig
  rw [hattach] at hsent ⊢
  refine ⟨⟨hwiring, ?_⟩, hdrive, hdriven, rfl, hsent⟩
  rw [hframe, hchip]
  exact .start circuit.plan

end Device

end WeighScale
