import WeighScale.Frame

set_option autoImplicit false

/-! # The converter chip

The chip at the other end of the two lines, as far as a board sees it. It holds a conversion
and shifts one bit of it onto the data line at each rising edge of the clock line, the most
significant of 24 first. Further edges choose the gain of the next conversion; the last of
them begins it. While the chip converts, the data line is high; here the conversion takes a
number of readings of the line. The conversions are given beforehand and come round again.
-/

namespace WeighScale

structure ChipPlan where
  /-- The conversions, in the order in which they are handed out. -/
  conversions : List UInt32
  conversions_ne_nil : conversions ≠ []
  /-- The readings of the data line that a conversion takes. -/
  busy : Nat
  /-- The rising edges after the data bits. -/
  pulses : Nat
  deriving DecidableEq, Repr

/-- Conversion `i`, counted from zero and coming round. -/
def ChipPlan.conversion (plan : ChipPlan) (i : Nat) : UInt32 :=
  plan.conversions.get
    ⟨i % plan.conversions.length, Nat.mod_lt _ (List.length_pos_iff.2 plan.conversions_ne_nil)⟩

structure Chip where
  plan : ChipPlan
  /-- The conversions handed out and done with. -/
  served : Nat
  /-- The rising edges since the last conversion began. -/
  edges : Nat
  /-- The readings until the conversion is ready. -/
  busyLeft : Nat
  dout : Level
  sck : Level
  deriving DecidableEq, Repr

namespace Chip

/-- A chip with its first conversion ready and its clock line high. -/
def start (plan : ChipPlan) : Chip where
  plan := plan
  served := 0
  edges := 0
  busyLeft := 0
  dout := false
  sck := true

/-- Reads the data line. While the chip converts, the line is high. -/
def read (chip : Chip) : Level × Chip :=
  if chip.busyLeft = 0 then (chip.dout, chip)
  else
    let left := chip.busyLeft - 1
    (true, { chip with busyLeft := left, dout := decide (0 < left) })

def rise (chip : Chip) : Chip :=
  let edges := chip.edges + 1
  if edges ≤ 24 then
    let bits := (chip.plan.conversion chip.served).toNat
    { chip with edges, dout := bits.testBit (24 - edges) }
  else if edges < 24 + chip.plan.pulses then { chip with edges, dout := true }
  else
    -- the last pulse: the next conversion begins
    { chip with
      edges := 0
      dout := true
      busyLeft := chip.plan.busy
      served := chip.served + 1 }

/-- Sets the clock line. Only a rising edge moves the chip on. -/
def clock (chip : Chip) (high : Level) : Chip :=
  let moved := if high && !chip.sck then chip.rise else chip
  { moved with sck := high }

end Chip

end WeighScale
