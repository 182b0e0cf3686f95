import WeighScale.Bench
import WeighScale.Proofs.Lockstep
import WeighScale.Wire.Request

set_option autoImplicit false

/-! # Racks of circuits

A circuit is a chip together with the device that is to sample it: the oid and the settings of
the one, the lines between the two, and what the other hands out. A rack is any number of
circuits that share neither oids nor lines. On the bench of a rack every chip is on the lines
of its circuit and no pin fails, so that each call of the board is a call of one chip and
leaves all others alone.
-/

namespace WeighScale

/-- A device and its chip. -/
structure Circuit where
  oid : UInt8
  dout : Pin
  sck : Pin
  gain : Gain
  polarity : Polarity
  /-- The first conversion of the chip. -/
  first : UInt32
  /-- The conversions after the first, before they come round. -/
  others : List UInt32
  /-- The readings of the data line that a conversion takes. -/
  busy : Nat
  deriving DecidableEq, Repr

namespace Circuit

/-- The plan of the chip. It expects as many pulses as the gain has. -/
def plan (circuit : Circuit) : ChipPlan where
  conversions := circuit.first :: circuit.others
  conversions_ne_nil := List.cons_ne_nil _ _
  busy := circuit.busy
  pulses := circuit.gain.pulses

/-- The request that configures the device. -/
def request (circuit : Circuit) : Wire.Configure where
  oid := circuit.oid
  dout := circuit.dout
  sck := circuit.sck
  gain := UInt32.ofNat circuit.gain.pulses
  invert := circuit.polarity.sign

/-- What the host is to read as sample `i`: conversion `i` as a signed number of 24 bits, with
the sign of the polarity. -/
def sample (circuit : Circuit) (i : Nat) : Int :=
  circuit.polarity.sign.toInt * (circuit.plan.word i).toInt

theorem pulses_pos (circuit : Circuit) : 0 < circuit.plan.pulses :=
  @InStep.pulses_pos circuit.plan circuit.gain rfl

/-- What the host is to read of a frame that has begun after so many rising edges in all. -/
def sampleAt (circuit : Circuit) (edges : Nat) : Int :=
  circuit.polarity.sign.toInt * (circuit.plan.wordFrom (circuit.plan.position edges)).toInt

/-- Between two conversions, that is the coming sample. -/
theorem sampleAt_mul (circuit : Circuit) (n : Nat) :
    circuit.sampleAt (n * circuit.plan.period) = circuit.sample n := by
  rw [sampleAt, ChipPlan.position_mul, ChipPlan.wordFrom_of_edges_eq_zero circuit.pulses_pos,
    sample]

/-- The chip on its lines. -/
def mount (circuit : Circuit) (chip : Chip) : Mount := ⟨circuit.dout, circuit.sck, chip⟩

@[simp] theorem dout_mount (circuit : Circuit) (chip : Chip) :
    (circuit.mount chip).dout = circuit.dout := rfl

@[simp] theorem sck_mount (circuit : Circuit) (chip : Chip) :
    (circuit.mount chip).sck = circuit.sck := rfl

/-- The chips of some circuits, each on its lines. -/
def mounts (circuits : List Circuit) (chips : Circuit → Chip) : List Mount :=
  circuits.map fun circuit => circuit.mount (chips circuit)

theorem mounts_cons (first : Circuit) (others : List Circuit) (chips : Circuit → Chip) :
    mounts (first :: others) chips = first.mount (chips first) :: mounts others chips := rfl

theorem mounts_update_of_not_mem {circuits : List Circuit} {circuit : Circuit}
    (h : circuit ∉ circuits) (chips : Circuit → Chip) (chip : Chip) :
    mounts circuits (Function.update chips circuit chip) = mounts circuits chips := by
  refine List.map_congr_left fun other hother => ?_
  have hne : other ≠ circuit := fun heq => h (heq ▸ hother)
  rw [Function.update_of_ne hne]

/-- A reading of a data line is a reading of its chip. -/
theorem readMounts_mounts {circuits : List Circuit} {circuit : Circuit}
    (hmem : circuit ∈ circuits) (hdouts : (circuits.map dout).Nodup)
    (chips : Circuit → Chip) :
    Bench.readMounts circuit.dout (mounts circuits chips)
      = some ((chips circuit).read.1,
          mounts circuits (Function.update chips circuit (chips circuit).read.2)) := by
  induction circuits with
  | nil => cases hmem
  | cons first others ih =>
      rw [List.map_cons, List.nodup_cons] at hdouts
      obtain ⟨hfirst, hothers⟩ := hdouts
      rw [mounts_cons, mounts_cons, Bench.readMounts, dout_mount]
      rcases List.mem_cons.mp hmem with rfl | hmem
      · -- the first mount on the pin is the one that counts
        have hnot : circuit ∉ others := fun h => hfirst (List.mem_map_of_mem h)
        rw [if_pos rfl, Function.update_self, mounts_update_of_not_mem hnot]
        rfl
      · have hline : first.dout ≠ circuit.dout := fun heq =>
          hfirst (heq ▸ List.mem_map_of_mem hmem)
        have hne : first ≠ circuit := fun heq => hline (heq ▸ rfl)
        rw [if_neg hline, ih hmem hothers, Function.update_of_ne hne]
        rfl

/-- An edge of a clock line is an edge for its chip. -/
theorem clockMounts_mounts {circuits : List Circuit} {circuit : Circuit}
    (hmem : circuit ∈ circuits) (hscks : (circuits.map sck).Nodup) (high : Level)
    (chips : Circuit → Chip) :
    Bench.clockMounts circuit.sck high (mounts circuits chips)
      = mounts circuits (Function.update chips circuit ((chips circuit).clock high)) := by
  induction circuits with
  | nil => cases hmem
  | cons first others ih =>
      rw [List.map_cons, List.nodup_cons] at hscks
      obtain ⟨hfirst, hothers⟩ := hscks
      rw [mounts_cons, mounts_cons, Bench.clockMounts, sck_mount]
      rcases List.mem_cons.mp hmem with rfl | hmem
      · have hnot : circuit ∉ others := fun h => hfirst (List.mem_map_of_mem h)
        rw [if_pos rfl, Function.update_self, mounts_update_of_not_mem hnot]
        rfl
      · have hline : first.sck ≠ circuit.sck := fun heq =>
          hfirst (heq ▸ List.mem_map_of_mem hmem)
        have hne : first ≠ circuit := fun heq => hline (heq ▸ rfl)
        rw [if_neg hline, ih hmem hothers, Function.update_of_ne hne]

end Circuit

/-- Circuits that share neither oids nor lines. -/
structure Rack where
  circuits : List Circuit
  oids_nodup : (circuits.map Circuit.oid).Nodup
  douts_nodup : (circuits.map Circuit.dout).Nodup
  scks_nodup : (circuits.map Circuit.sck).Nodup

namespace Rack

variable {rack : Rack} {circuit : Circuit}

/-- The bench of a rack, with its chips as they are. -/
def bench (rack : Rack) (chips : Circuit → Chip) (inputs outputs : Nat) : Bench where
  high := []
  faults := []
  ties := []
  mounts := Circuit.mounts rack.circuits chips
  inputs := inputs
  outputs := outputs

/-- The bench of a rack before anything was done with it. -/
def start (rack : Rack) : Bench := rack.bench (fun circuit => .start circuit.plan) 0 0

/-- A circuit is told by its oid. -/
theorem eq_of_oid_eq {other : Circuit} (h : circuit ∈ rack.circuits)
    (hother : other ∈ rack.circuits) (hoid : circuit.oid = other.oid) : circuit = other :=
  List.inj_on_of_nodup_map rack.oids_nodup h hother hoid

theorem read_bench (hmem : circuit ∈ rack.circuits) (chips : Circuit → Chip)
    (inputs outputs : Nat) :
    Board.read (rack.bench chips inputs outputs) circuit.dout
      = ((chips circuit).read.1,
          ⟨none, rack.bench (Function.update chips circuit (chips circuit).read.2) inputs
            outputs⟩) := by
  have hline := Circuit.readMounts_mounts hmem rack.douts_nodup chips
  have hseen : (rack.bench chips inputs outputs).readLine circuit.dout
      = ((chips circuit).read.1,
          rack.bench (Function.update chips circuit (chips circuit).read.2) inputs
            outputs) := by
    rw [Bench.readLine, bench, hline]
    rfl
  show (((rack.bench chips inputs outputs).readLine circuit.dout).1,
    Answer.mk none ((rack.bench chips inputs outputs).readLine circuit.dout).2) = _
  rw [hseen]

theorem drive_bench (hmem : circuit ∈ rack.circuits) (chips : Circuit → Chip)
    (inputs outputs : Nat) (high : Level) :
    Board.drive (rack.bench chips inputs outputs) circuit.sck high
      = ⟨none, rack.bench (Function.update chips circuit ((chips circuit).clock high)) inputs
          outputs⟩ := by
  have hline := Circuit.clockMounts_mounts hmem rack.scks_nodup high chips
  show Answer.mk none ((rack.bench chips inputs outputs).driveLine circuit.sck high) = _
  rw [Bench.driveLine, bench, hline]
  rfl

theorem setupInput_bench (rack : Rack) (chips : Circuit → Chip) (inputs outputs : Nat)
    (pin : Pin) (pull : Pull) :
    Board.setupInput (rack.bench chips inputs outputs) pin pull
      = ⟨none, rack.bench chips (inputs + 1) outputs⟩ := rfl

theorem setupOutput_bench (rack : Rack) (chips : Circuit → Chip) (inputs outputs : Nat)
    (pin : Pin) (high : Level) :
    Board.setupOutput (rack.bench chips inputs outputs) pin high
      = ⟨none, rack.bench chips inputs (outputs + 1)⟩ := rfl

end Rack

end WeighScale
