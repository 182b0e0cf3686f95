import WeighScale.Chip
import WeighScale.Proofs.Capture

set_option autoImplicit false

/-! # Where a chip is

A chip counts the rising edges of its clock line, and nothing else moves it. After so many of
them it is in one of its conversions, so many edges on (`Position`). One rising edge takes it
to the next position and puts on the line what belongs there (`Chip.rise_eq`).

A device that begins a frame takes the chip to be between two conversions. Whether it is or
not, the frame captures what is on the line after each of the next 24 edges, and that is a
matter of the position at which the frame has begun (`ChipPlan.wordFrom`). From a position
between two conversions it is the coming conversion (`wordFrom_of_edges_eq_zero`); from any
other it is the rest of one conversion and the beginning of the next, with the levels of the
time between them.
-/

namespace WeighScale

/-- The 24 bits that a chip hands out as conversion `i`. -/
def ChipPlan.word (plan : ChipPlan) (i : Nat) : BitVec 24 :=
  (plan.conversion i).toBitVec.setWidth 24

/-! ## The chip, call by call -/

namespace Chip

theorem read_of_ready {chip : Chip} (h : chip.busyLeft = 0) : chip.read = (chip.dout, chip) :=
  if_pos h

/-- A reading that finds a conversion under way. -/
theorem read_of_busy {chip : Chip} (h : 0 < chip.busyLeft) :
    chip.read
      = (true, { chip with
          busyLeft := chip.busyLeft - 1, dout := decide (0 < chip.busyLeft - 1) }) :=
  if_neg (Nat.ne_of_gt h)

/-- A low level says that no conversion is under way. -/
theorem busyLeft_of_read_low {chip : Chip} (h : chip.read.1 = false) : chip.busyLeft = 0 := by
  by_contra hbusy
  rw [read, if_neg hbusy] at h
  exact Bool.noConfusion h

/-- The level of the line. -/
theorem level_read (chip : Chip) : chip.read.1 = (decide (0 < chip.busyLeft) || chip.dout) := by
  by_cases h : chip.busyLeft = 0
  · rw [read_of_ready h, h]
    rfl
  · rw [read, if_neg h, decide_eq_true (Nat.pos_of_ne_zero h)]
    rfl

/-- Reading moves nothing but the conversion under way. -/
theorem read_eq (chip : Chip) :
    ∃ dout, chip.read.2 = { chip with busyLeft := chip.busyLeft - 1, dout := dout } := by
  by_cases h : chip.busyLeft = 0
  · refine ⟨chip.dout, ?_⟩
    rw [read_of_ready h, h, Nat.zero_sub, ← h]
  · exact ⟨_, by rw [read, if_neg h]⟩

theorem clock_low (chip : Chip) : chip.clock false = { chip with sck := false } := rfl

/-- The clock line is raised where it was low. -/
theorem clock_high {chip : Chip} (hsck : chip.sck = false) :
    chip.clock true = { chip.rise with sck := true } := by
  rw [clock, hsck]
  rfl

/-- A rising edge that shifts out a data bit. -/
theorem rise_data {chip : Chip} (h : chip.edges < 24) :
    chip.rise
      = { chip with
          edges := chip.edges + 1
          dout := (chip.plan.word chip.served).getMsbD chip.edges } := by
  have hplace : 24 - (chip.edges + 1) = 23 - chip.edges := by omega
  have hrange : 23 - chip.edges < 24 := by omega
  have hbit : (chip.plan.conversion chip.served).toNat.testBit (24 - (chip.edges + 1))
      = (chip.plan.word chip.served).getMsbD chip.edges := by
    rw [hplace, ChipPlan.word, BitVec.getMsbD, BitVec.getLsbD_setWidth]
    simp only [h, hrange, decide_true, Bool.true_and]
    rfl
  rw [rise, if_pos (Nat.succ_le_of_lt h)]
  dsimp only
  rw [hbit]

/-- A rising edge that counts towards the gain. -/
theorem rise_pulse {chip : Chip} (h : 24 ≤ chip.edges)
    (hmore : chip.edges + 1 < 24 + chip.plan.pulses) :
    chip.rise = { chip with edges := chip.edges + 1, dout := true } := by
  have hdata : ¬chip.edges + 1 ≤ 24 := by omega
  rw [rise, if_neg hdata, if_pos hmore]

/-- The last rising edge, with which the next conversion begins. -/
theorem rise_last {chip : Chip} (h : 24 ≤ chip.edges)
    (hlast : 24 + chip.plan.pulses ≤ chip.edges + 1) :
    chip.rise
      = { chip with
          served := chip.served + 1
          edges := 0
          busyLeft := chip.plan.busy
          dout := true } := by
  have hdata : ¬chip.edges + 1 ≤ 24 := by omega
  rw [rise, if_neg hdata, if_neg (Nat.not_lt.mpr hlast)]

end Chip

/-! ## Positions -/

/-- How far a chip has come. -/
structure Position where
  /-- The conversions done with. -/
  served : Nat
  /-- The rising edges since. -/
  edges : Nat

namespace ChipPlan

variable (plan : ChipPlan)

/-- The rising edges of a conversion. -/
def period : Nat := 24 + plan.pulses

/-- The position after so many rising edges in all. -/
def position (edges : Nat) : Position := ⟨edges / plan.period, edges % plan.period⟩

/-- The position after `count` rising edges more, which are no more than those of one
conversion. -/
def past (first : Position) (count : Nat) : Position :=
  if first.edges + count < plan.period then ⟨first.served, first.edges + count⟩
  else ⟨first.served + 1, first.edges + count - plan.period⟩

/-- The level that is put on the line at a position. -/
def line (place : Position) : Level :=
  if 0 < place.edges ∧ place.edges ≤ 24 then
    (plan.word place.served).getMsbD (place.edges - 1)
  else true

/-- The readings still to come until a conversion is ready that has begun since, after the
first `halfCycles` of a frame. -/
def busyIn (first : Position) (halfCycles : Nat) : Nat :=
  if first.edges + (halfCycles + 1) / 2 < plan.period then 0
  else
    plan.busy - (2 * (first.edges + (halfCycles + 1) / 2 - plan.period) + (halfCycles + 1) % 2)

/-- The level of data bit `i` of a frame. -/
def seen (first : Position) (i : Nat) : Level :=
  decide (0 < plan.busyIn first (2 * i + 1)) || plan.line (plan.past first (i + 1))

/-- The word that a frame captures. -/
def wordFrom (first : Position) : BitVec 24 := wordOf (plan.seen first)

variable {plan} {first : Position}

theorem past_zero (h : first.edges < plan.period) : plan.past first 0 = first := if_pos h

theorem past_period (plan : ChipPlan) (first : Position) :
    plan.past first plan.period = ⟨first.served + 1, first.edges⟩ := by
  rw [past, if_neg (by omega), Nat.add_sub_cancel]

theorem edges_past_lt (h : first.edges < plan.period) {count : Nat}
    (hcount : count ≤ plan.period) : (plan.past first count).edges < plan.period := by
  unfold past
  split
  · assumption
  · dsimp only
    omega

theorem served_past (first : Position) (count : Nat) :
    first.served ≤ (plan.past first count).served
      ∧ (plan.past first count).served ≤ first.served + 1 := by
  unfold past
  split
  · exact ⟨Nat.le_refl _, Nat.le_succ _⟩
  · exact ⟨Nat.le_succ _, Nat.le_refl _⟩

/-- One edge more. -/
theorem past_succ (h : first.edges < plan.period) {count : Nat} (hcount : count < plan.period) :
    plan.past (plan.past first count) 1 = plan.past first (count + 1) := by
  unfold past
  by_cases hbefore : first.edges + count < plan.period
  · rw [if_pos hbefore]
    rfl
  · have hafter : ¬first.edges + (count + 1) < plan.period := by omega
    have hnext : first.edges + count - plan.period + 1 < plan.period := by omega
    have hedges : first.edges + count - plan.period + 1 = first.edges + (count + 1) - plan.period := by
      omega
    rw [if_neg hbefore, if_neg hafter, if_pos hnext, hedges]

theorem period_pos : 0 < plan.period := Nat.lt_of_lt_of_le (by decide) (Nat.le_add_right 24 _)

theorem edges_position_lt (edges : Nat) : (plan.position edges).edges < plan.period :=
  Nat.mod_lt _ period_pos

/-- Positions are counted in rising edges. -/
theorem past_position (edges : Nat) {count : Nat} (hcount : count ≤ plan.period) :
    plan.past (plan.position edges) count = plan.position (edges + count) := by
  have hedges := Nat.div_add_mod edges plan.period
  have hlt : edges % plan.period < plan.period := Nat.mod_lt _ period_pos
  rw [position, position, past]
  dsimp only
  split
  · next hsame =>
      obtain ⟨hdiv, hmod⟩ := (Nat.div_mod_unique period_pos).mpr
        ⟨show edges % plan.period + count + plan.period * (edges / plan.period) = edges + count by
          omega, hsame⟩
      rw [hdiv, hmod]
  · next hnext =>
      have hrest : edges % plan.period + count - plan.period < plan.period := by omega
      obtain ⟨hdiv, hmod⟩ := (Nat.div_mod_unique period_pos).mpr
        ⟨show edges % plan.period + count - plan.period
            + plan.period * (edges / plan.period + 1) = edges + count by
          rw [Nat.mul_succ]; omega, hrest⟩
      rw [hdiv, hmod]

theorem position_mul (n : Nat) : plan.position (n * plan.period) = ⟨n, 0⟩ := by
  rw [position, Nat.mul_div_cancel _ period_pos, Nat.mul_mod_left]

/-- **A frame that begins between two conversions** captures the coming one. -/
theorem wordFrom_of_edges_eq_zero (hpulses : 0 < plan.pulses) (n : Nat) :
    plan.wordFrom ⟨n, 0⟩ = plan.word n := by
  refine BitVec.eq_of_getMsbD_eq fun i hi => ?_
  have hplace : 0 + (2 * i + 1 + 1) / 2 < plan.period := by
    rw [period]
    omega
  have hpast : plan.past ⟨n, 0⟩ (i + 1) = ⟨n, i + 1⟩ := by
    rw [past, if_pos (by rw [period]; dsimp only; omega)]
    dsimp only
    rw [Nat.zero_add]
  rw [wordFrom, getMsbD_wordOf _ hi, seen, busyIn, if_pos hplace, hpast, line,
    if_pos ⟨Nat.succ_pos i, hi⟩]
  rfl

end ChipPlan

/-- **A rising edge** takes a chip one position on. At the end of a conversion the next one
begins. -/
theorem Chip.rise_eq {plan : ChipPlan} {place next : Position} (hpulses : 0 < plan.pulses)
    (hedges : place.edges < plan.period) (hnext : plan.past place 1 = next) (busyLeft : Nat)
    (dout sck : Level) :
    Chip.rise ⟨plan, place.served, place.edges, busyLeft, dout, sck⟩
      = ⟨plan, next.served, next.edges, if next.edges = 0 then plan.busy else busyLeft,
          plan.line next, sck⟩ := by
  rw [ChipPlan.period] at hedges
  subst hnext
  by_cases hlast : place.edges + 1 < 24 + plan.pulses
  · have hpast : plan.past place 1 = ⟨place.served, place.edges + 1⟩ := if_pos hlast
    rw [hpast]
    dsimp only
    rw [if_neg (Nat.succ_ne_zero _)]
    rcases Nat.lt_or_ge place.edges 24 with hdata | hgain
    · rw [rise_data hdata, ChipPlan.line, if_pos ⟨Nat.succ_pos _, hdata⟩]
      rfl
    · have hpulse : ¬(0 < place.edges + 1 ∧ place.edges + 1 ≤ 24) := by omega
      rw [rise_pulse hgain hlast, ChipPlan.line, if_neg hpulse]
  · have hpast : plan.past place 1 = ⟨place.served + 1, 0⟩ := by
      have hzero : place.edges + 1 - (24 + plan.pulses) = 0 := by omega
      exact (if_neg hlast).trans (congrArg (Position.mk _) hzero)
    rw [hpast, rise_last (by dsimp only; omega) (by dsimp only; omega)]
    rfl

end WeighScale
