import WeighScale.Channel

set_option autoImplicit false

/-! # Frames

A conversion is clocked out in a frame of half-cycles, numbered from zero. Even ones raise the
clock line and odd ones lower it. The first 48 carry the 24 data bits, the most significant
first, and each bit is the level of the data line in the odd half-cycle. Then come the pulses
that choose the next gain, whose levels are ignored.

The bits are collected from the top of a 32-bit word. An arithmetic shift by eight turns the
word into the signed 24-bit number that the bits stand for (`sampleOfBits`).

A level is a `Bool`: `true` is high.
-/

namespace WeighScale

abbrev Level := Bool

def dataHalfCycles : Nat := 48

def Gain.frameLength (gain : Gain) : Nat := dataHalfCycles + 2 * gain.pulses

theorem Gain.frameLength_eq_two_mul (gain : Gain) :
    gain.frameLength = 2 * (24 + gain.pulses) := by
  rw [frameLength, dataHalfCycles]
  omega

theorem Gain.frameLength_le (gain : Gain) : gain.frameLength ≤ 54 := by
  cases gain <;> decide

theorem Gain.dataHalfCycles_lt_frameLength (gain : Gain) :
    dataHalfCycles < gain.frameLength := by
  cases gain <;> decide

/-- The least number that 24 bits stand for. -/
def sampleMinimum : Int32 := -8388608

/-- The greatest number that 24 bits stand for. -/
def sampleMaximum : Int32 := 8388607

/-- The sample whose bits are the top 24 of `bits`. -/
def sampleOfBits (bits : BitVec 32) (polarity : Polarity) : Int32 :=
  Int32.ofBitVec (bits.sshiftRight 8) * polarity.sign

structure Frame where
  halfCycles : Nat
  /-- The data bits so far, from the top down. -/
  bits : BitVec 32
  deriving DecidableEq, Repr

namespace Frame

/-- A frame before its first half-cycle. -/
def start : Frame := ⟨0, 0⟩

instance : Inhabited Frame := ⟨start⟩

/-- The level that the clock line is driven to in the coming half-cycle. -/
def clockLevel (frame : Frame) : Level := frame.halfCycles % 2 == 0

/-- The data bits after the coming half-cycle, with the data line at `high`. -/
def capture (frame : Frame) (high : Level) : BitVec 32 :=
  if high && frame.halfCycles % 2 == 1 && decide (frame.halfCycles < dataHalfCycles) then
    frame.bits ||| BitVec.twoPow 32 (31 - frame.halfCycles / 2)
  else frame.bits

/-- One half-cycle, with the data line at `high`. -/
def advance (frame : Frame) (high : Level) : Frame where
  halfCycles := frame.halfCycles + 1
  bits := frame.capture high

@[simp] theorem halfCycles_advance (frame : Frame) (high : Level) :
    (frame.advance high).halfCycles = frame.halfCycles + 1 := rfl

/-- Whether the frame is over, for a converter with this gain. -/
def isOver (frame : Frame) (gain : Gain) : Bool :=
  decide (gain.frameLength ≤ frame.halfCycles)

/-- The sample that the data bits stand for. -/
def value (frame : Frame) (polarity : Polarity) : Int32 := sampleOfBits frame.bits polarity

end Frame

end WeighScale
