import WeighScale.Proofs.Positions

set_option autoImplicit false

/-! # A frame and its chip in lockstep

The frame of a device counts half-cycles and the chip counts rising edges, and neither sees the
count of the other. As long as the device clocks its chip the two stay in step (`InStep`): at
every half-cycle the chip is as many edges past the position at which the frame has begun as
the frame has clocked, and the frame has captured what the chip has put on the line since. It
makes no difference where in a conversion that position is; a frame that begins between two
conversions captures the coming one (`ChipPlan.wordFrom_of_edges_eq_zero`).

* `InStep.read`: reading the line alone keeps them in step before a frame.
* `InStep.clocked`: so does a half-cycle within a frame.
* `InStep.completed`: at the end of a frame, the value is what the line was like since its
  beginning, and the next frame begins one conversion further on.
* `InStep.restarted`: a frame that is cut short leaves the chip where it is.
-/

namespace WeighScale

namespace ChipPlan

variable {plan : ChipPlan} {first : Position} {halfCycles : Nat}

/-- A reading that is not followed by an edge. -/
theorem busyIn_lowered (hodd : halfCycles % 2 = 1) :
    plan.busyIn first (halfCycles + 1) = plan.busyIn first halfCycles - 1 := by
  have hedges : (halfCycles + 1 + 1) / 2 = (halfCycles + 1) / 2 := by omega
  unfold busyIn
  rw [hedges]
  split
  · rfl
  · omega

/-- A reading that is followed by an edge, which may begin the next conversion. -/
theorem busyIn_raised (heven : halfCycles % 2 = 0) :
    plan.busyIn first (halfCycles + 1)
      = if (plan.past first ((halfCycles + 1) / 2 + 1)).edges = 0 then plan.busy
        else plan.busyIn first halfCycles - 1 := by
  have hedges : (halfCycles + 1 + 1) / 2 = (halfCycles + 1) / 2 + 1 := by omega
  unfold busyIn past
  rw [hedges]
  by_cases hafter : first.edges + ((halfCycles + 1) / 2 + 1) < plan.period
  · have hbefore : first.edges + (halfCycles + 1) / 2 < plan.period := by omega
    rw [if_pos hafter, if_pos hafter, if_pos hbefore, if_neg (by dsimp only; omega)]
  · rw [if_neg hafter, if_neg hafter]
    dsimp only
    by_cases hbegun : first.edges + ((halfCycles + 1) / 2 + 1) - plan.period = 0
    · rw [if_pos hbegun]
      omega
    · have hbefore : ¬first.edges + (halfCycles + 1) / 2 < plan.period := by omega
      rw [if_neg hbegun, if_neg hbefore]
      omega

theorem busyIn_zero (h : first.edges < plan.period) : plan.busyIn first 0 = 0 := if_pos h

end ChipPlan

/-! ## The relation -/

/-- A frame and its chip are in step, and the chip was at `first` when the frame began. -/
inductive InStep (plan : ChipPlan) (first : Position) : Frame → Chip → Prop
  /-- Before a frame. -/
  | resting (busyLeft : Nat) (dout sck : Level) :
      InStep plan first .start ⟨plan, first.served, first.edges, busyLeft, dout, sck⟩
  /-- Within a frame. After a rising edge, the level that goes with it is on the line. -/
  | within (halfCycles : Nat) (dout : Level) (hpos : 0 < halfCycles)
      (hlt : halfCycles < 2 * plan.period)
      (hdout : halfCycles % 2 = 1 →
        dout = plan.line (plan.past first ((halfCycles + 1) / 2))) :
      InStep plan first (.partway (plan.wordFrom first) halfCycles)
        ⟨plan, (plan.past first ((halfCycles + 1) / 2)).served,
          (plan.past first ((halfCycles + 1) / 2)).edges, plan.busyIn first halfCycles, dout,
          halfCycles % 2 == 1⟩

/-- The rising edges of a frame so far. -/
def Frame.edges (frame : Frame) : Nat := (frame.halfCycles + 1) / 2

namespace InStep

variable {plan : ChipPlan} {first : Position} {frame : Frame} {chip : Chip} {gain : Gain}

theorem start (plan : ChipPlan) : InStep plan (plan.position 0) .start (.start plan) := by
  have hzero : plan.position 0 = ⟨0, 0⟩ := by
    rw [ChipPlan.position, Nat.zero_div, Nat.zero_mod]
  rw [hzero]
  exact .resting 0 false true

/-- The chip has handed out the conversions before the frame, and may be done with one more. -/
theorem served (h : InStep plan first frame chip) :
    first.served ≤ chip.served ∧ chip.served ≤ first.served + 1 := by
  cases h with
  | resting => exact ⟨Nat.le_refl _, Nat.le_succ _⟩
  | within => exact ChipPlan.served_past ..

/-- A frame has no more rising edges than a conversion. -/
theorem edges_le (h : InStep plan first frame chip) : frame.edges ≤ plan.period := by
  cases h with
  | resting => exact Nat.zero_le _
  | within halfCycles _ _ hlt =>
      rw [Frame.edges, Frame.halfCycles_partway]
      omega

/-- **A frame that is begun anew** begins where the chip is. -/
theorem restarted (h : InStep plan first frame chip) (hfirst : first.edges < plan.period) :
    InStep plan (plan.past first frame.edges) .start (chip.clock false)
      ∧ (chip.clock false).sck = false := by
  cases h with
  | resting busyLeft dout sck =>
      have hsame : plan.past first Frame.start.edges = first := ChipPlan.past_zero hfirst
      rw [hsame]
      exact ⟨.resting busyLeft dout false, rfl⟩
  | within halfCycles dout => exact ⟨.resting _ dout false, rfl⟩

/-- Before a frame, the line can be read as often as one likes. -/
theorem read (h : InStep plan first frame chip) (hframe : frame.halfCycles = 0) :
    InStep plan first frame chip.read.2 ∧ chip.read.2.sck = chip.sck := by
  obtain ⟨dout, heq⟩ := chip.read_eq
  rw [heq]
  cases h with
  | resting busyLeft _ sck => exact ⟨.resting (busyLeft - 1) dout sck, rfl⟩
  | within halfCycles _ hpos => exact absurd hframe (Nat.ne_of_gt hpos)

/-- A frame that is complete is no longer in step, but handed over. -/
theorem halfCycles_lt (h : InStep plan first frame chip) : frame.halfCycles < 2 * plan.period := by
  cases h with
  | resting => exact Nat.mul_pos Nat.two_pos ChipPlan.period_pos
  | within halfCycles _ _ hlt =>
      rw [Frame.halfCycles_partway]
      exact hlt

/-- A frame that began between two conversions begins the next one with its last edge. -/
theorem busyLeft_last (h : InStep plan first frame chip) (hfirst : first.edges = 0)
    (hlast : frame.halfCycles + 1 = 2 * plan.period) : chip.busyLeft = plan.busy := by
  cases h with
  | resting =>
      have hpos : 0 < plan.period := ChipPlan.period_pos
      change 0 + 1 = 2 * plan.period at hlast
      omega
  | within halfCycles =>
      rw [Frame.halfCycles_partway] at hlast
      have hend : ¬first.edges + (halfCycles + 1) / 2 < plan.period := by omega
      show plan.busyIn first halfCycles = plan.busy
      rw [ChipPlan.busyIn, if_neg hend]
      omega

theorem pulses_pos (hpulses : plan.pulses = gain.pulses) : 0 < plan.pulses := by
  have hlt := gain.dataHalfCycles_lt_frameLength
  rw [Gain.frameLength] at hlt
  omega

theorem isOver_eq_false_iff (hpulses : plan.pulses = gain.pulses) :
    frame.isOver gain = false ↔ frame.halfCycles < 2 * plan.period := by
  have hlength : gain.frameLength = 2 * plan.period := by
    rw [gain.frameLength_eq_two_mul, ← hpulses, ChipPlan.period]
  rw [Frame.isOver, hlength, decide_eq_false_iff_not, Nat.not_le]

/-- After an even half-cycle the clock line is high, and the chip is one edge further on. -/
theorem raised (hfirst : first.edges < plan.period) (hsome : 0 < plan.pulses)
    {halfCycles : Nat} (dout : Level) (heven : halfCycles % 2 = 0)
    (hlt : halfCycles < 2 * plan.period) :
    InStep plan first (.partway (plan.wordFrom first) (halfCycles + 1))
      (Chip.clock
        ⟨plan, (plan.past first ((halfCycles + 1) / 2)).served,
          (plan.past first ((halfCycles + 1) / 2)).edges, plan.busyIn first halfCycles - 1, dout,
          false⟩ true) := by
  have hedges : (halfCycles + 1) / 2 + 1 = (halfCycles + 1 + 1) / 2 := by omega
  have hlevel : true = ((halfCycles + 1) % 2 == 1) := by
    symm
    rw [beq_iff_eq]
    omega
  have hcount : (halfCycles + 1) / 2 < plan.period := by omega
  have hbelow := ChipPlan.edges_past_lt hfirst (Nat.le_of_lt hcount)
  rw [Chip.clock_high rfl, Chip.rise_eq hsome hbelow (ChipPlan.past_succ hfirst hcount)]
  dsimp only
  rw [← ChipPlan.busyIn_raised heven, hedges, hlevel]
  exact .within (halfCycles + 1) _ (Nat.succ_pos _) (by omega) fun _ => rfl

/-- After an odd half-cycle that does not end the frame the clock line is low, and the chip is
where it was. -/
theorem lowered (plan : ChipPlan) (first : Position) {halfCycles : Nat} (dout sck : Level)
    (hodd : halfCycles % 2 = 1) (hlt : halfCycles + 1 < 2 * plan.period) :
    InStep plan first (.partway (plan.wordFrom first) (halfCycles + 1))
      (Chip.clock
        ⟨plan, (plan.past first ((halfCycles + 1) / 2)).served,
          (plan.past first ((halfCycles + 1) / 2)).edges, plan.busyIn first halfCycles - 1, dout,
          sck⟩ false) := by
  have hedges : (halfCycles + 1) / 2 = (halfCycles + 1 + 1) / 2 := by omega
  have heven : (halfCycles + 1) % 2 = 0 := by omega
  have hlevel : false = ((halfCycles + 1) % 2 == 1) := by simp [heven]
  rw [Chip.clock_low]
  dsimp only
  rw [hedges, ← ChipPlan.busyIn_lowered hodd, hlevel]
  exact .within (halfCycles + 1) dout (Nat.succ_pos _) hlt fun h => by omega

/-- In a half-cycle that carries data, the level read is the one that goes with it. -/
theorem level_of_data {halfCycles : Nat} {chip : Chip} (hodd : halfCycles % 2 = 1)
    (hdata : halfCycles < dataHalfCycles)
    (hbusy : chip.busyLeft = plan.busyIn first halfCycles)
    (hdout : chip.dout = plan.line (plan.past first ((halfCycles + 1) / 2))) :
    chip.read.1 = (plan.wordFrom first).getMsbD (halfCycles / 2) := by
  have hplace : halfCycles / 2 < 24 := by
    rw [dataHalfCycles] at hdata
    omega
  have hhalf : 2 * (halfCycles / 2) + 1 = halfCycles := by omega
  have hedges : (halfCycles + 1) / 2 = halfCycles / 2 + 1 := by omega
  rw [Chip.level_read, hbusy, hdout, hedges, ChipPlan.wordFrom, getMsbD_wordOf _ hplace,
    ChipPlan.seen, hhalf]

/-- **A half-cycle within a frame keeps frame and chip in step.** -/
theorem clocked (h : InStep plan first frame chip) (hfirst : first.edges < plan.period)
    (hpulses : plan.pulses = gain.pulses)
    (hready : frame.halfCycles = 0 → chip.sck = false ∧ chip.read.1 = false)
    (hover : (frame.advance chip.read.1).isOver gain = false) :
    InStep plan first (frame.advance chip.read.1) (chip.read.2.clock frame.clockLevel) := by
  have hsome := pulses_pos hpulses
  rw [isOver_eq_false_iff hpulses, Frame.halfCycles_advance] at hover
  obtain ⟨after, heq⟩ := chip.read_eq
  rw [heq]
  cases h with
  | resting busyLeft dout sck =>
      -- the level is low, so no conversion is under way
      obtain ⟨hsck, hlow⟩ := hready rfl
      have hbusy := Chip.busyLeft_of_read_low hlow
      dsimp only at hsck hbusy
      subst hsck hbusy
      have hsame : plan.past first ((0 + 1) / 2) = first := ChipPlan.past_zero hfirst
      have hbegin := raised hfirst hsome after (Nat.zero_mod 2) (Nat.lt_of_succ_lt hover)
      rw [ChipPlan.busyIn_zero hfirst, hsame] at hbegin
      rw [← Frame.partway_zero (plan.wordFrom first), Frame.advance_partway _ _ _ (by omega)]
      exact hbegin
  | within halfCycles dout hpos hlt hdout =>
      rw [Frame.advance_partway _ _ _ fun hodd hdata =>
        level_of_data hodd hdata rfl (hdout hodd)]
      rw [Frame.halfCycles_partway] at hover
      rcases Nat.mod_two_eq_zero_or_one halfCycles with heven | hodd
      · have hhigh : (Frame.partway (plan.wordFrom first) halfCycles).clockLevel = true := by
          simp [Frame.clockLevel, heven]
        have hsck : (halfCycles % 2 == 1) = false := by simp [heven]
        rw [hhigh, hsck]
        exact raised hfirst hsome after heven hlt
      · have hlow : (Frame.partway (plan.wordFrom first) halfCycles).clockLevel = false := by
          simp [Frame.clockLevel, hodd]
        rw [hlow]
        exact lowered plan first after _ hodd hover

/-- **The last half-cycle of a frame hands over what the line was like since its beginning.** -/
theorem completed (h : InStep plan first frame chip) (hpulses : plan.pulses = gain.pulses)
    (hover : (frame.advance chip.read.1).isOver gain = true) (polarity : Polarity) :
    ((frame.advance chip.read.1).value polarity).toInt
        = polarity.sign.toInt * (plan.wordFrom first).toInt
      ∧ InStep plan ⟨first.served + 1, first.edges⟩ .start (chip.read.2.clock false)
      ∧ (chip.read.2.clock false).sck = false := by
  rw [← Bool.not_eq_false, isOver_eq_false_iff hpulses, Frame.halfCycles_advance,
    ChipPlan.period] at hover
  obtain ⟨after, heq⟩ := chip.read_eq
  cases h with
  | resting =>
      change ¬0 + 1 < 2 * (24 + plan.pulses) at hover
      omega
  | within halfCycles dout _ hlt hdout =>
      rw [Frame.halfCycles_partway] at hover
      rw [ChipPlan.period] at hlt
      have hdata : dataHalfCycles ≤ halfCycles + 1 := by
        rw [dataHalfCycles]
        omega
      have hlast : (halfCycles + 1) / 2 = plan.period := by
        rw [ChipPlan.period]
        omega
      rw [Frame.advance_partway _ _ _ fun hodd hdata =>
        level_of_data hodd hdata rfl (hdout hodd), heq, hlast, ChipPlan.past_period]
      exact ⟨Frame.toInt_value_partway _ hdata polarity, .resting _ after false, rfl⟩

end InStep

end WeighScale
