import WeighScale.Proofs.Capture

set_option autoImplicit false

/-! # Frames in registers

A frame fits into two registers of 32 bits: one counts the half-cycles, without a sign, and the
other takes the bits, as a signed number. The arithmetic of registers has bounds. A sum or a product
may be too large, a difference may be negative, and a bit can be moved up by no more than 31 places.
An operation that would go past its bounds has no result (`Bounded`), and neither has anything that
needs it.

A `Frame` counts without bounds. The registers follow it half-cycle by half-cycle, with every
operation within its bounds, until the count is full (`advance?_registers`, `advance?_full`). The
sample can be taken off them at any time (`finish?_registers`).
-/

namespace WeighScale

/-! ## Arithmetic with bounds -/

namespace Bounded

/-- The sum, unless it is too large. -/
def add? (a b : UInt32) : Option UInt32 :=
  if a.toNat + b.toNat < UInt32.size then some (a + b) else none

/-- The difference, unless it is negative. -/
def sub? (a b : UInt32) : Option UInt32 := if b ≤ a then some (a - b) else none

/-- The bits moved up, unless that is by more places than there are. -/
def shiftLeft? (bits : Int32) (places : UInt32) : Option Int32 :=
  if places < 32 then some (bits <<< places.toInt32) else none

/-- The product, unless it is too large or too small. -/
def mul? (a b : Int32) : Option Int32 :=
  if Int32.minValue.toInt ≤ a.toInt * b.toInt ∧ a.toInt * b.toInt ≤ Int32.maxValue.toInt then
    some (a * b)
  else none

theorem add?_one {count : Nat} (h : count + 1 < UInt32.size) :
    add? (UInt32.ofNat count) 1 = some (UInt32.ofNat (count + 1)) := by
  have hsum : (UInt32.ofNat count).toNat + (1 : UInt32).toNat < UInt32.size := by
    rw [UInt32.toNat_ofNat_of_lt' (Nat.lt_of_succ_lt h)]
    exact h
  rw [add?, if_pos hsum, UInt32.ofNat_add]
  rfl

/-- A full register cannot count any further. -/
theorem add?_full {count : UInt32} (h : count.toNat + 1 = UInt32.size) : add? count 1 = none := by
  have hsum : ¬count.toNat + (1 : UInt32).toNat < UInt32.size := by
    rw [UInt32.toNat_one, h]
    exact Nat.lt_irrefl _
  rw [add?, if_neg hsum]

theorem sub?_ofNat {a b : Nat} (h : b ≤ a) (ha : a < UInt32.size) :
    sub? (UInt32.ofNat a) (UInt32.ofNat b) = some (UInt32.ofNat (a - b)) := by
  have hle : UInt32.ofNat b ≤ UInt32.ofNat a := by
    rw [UInt32.le_iff_toNat_le, UInt32.toNat_ofNat_of_lt' ha,
      UInt32.toNat_ofNat_of_lt' (Nat.lt_of_le_of_lt h ha)]
    exact h
  rw [sub?, if_pos hle, UInt32.ofNat_sub h]

/-- One bit, moved up. -/
theorem shiftLeft?_bit (high : Bool) {places : Nat} (h : places < 32) :
    shiftLeft? (if high then 1 else 0) (UInt32.ofNat places)
      = some (Int32.ofBitVec (if high then BitVec.twoPow 32 places else 0)) := by
  have hall : ∀ (high : Bool) (places : Fin 32),
      shiftLeft? (if high then 1 else 0) (UInt32.ofNat places)
        = some (Int32.ofBitVec (if high then BitVec.twoPow 32 places else 0)) := by decide
  exact hall high ⟨places, h⟩

theorem mul?_of_toInt_mul {a b : Int32} (h : (a * b).toInt = a.toInt * b.toInt) :
    mul? a b = some (a * b) := by
  rw [mul?, ← h, if_pos ⟨(a * b).minValue_le_toInt, (a * b).toInt_le⟩]

end Bounded

/-! ## Registers -/

/-- The registers that hold a frame. -/
structure Registers where
  /-- The half-cycles done. -/
  count : UInt32
  /-- The data bits so far, from the top down. -/
  shift : Int32
  deriving DecidableEq, Repr

namespace Registers

open Bounded

/-- The registers before the first half-cycle. -/
def start : Registers := ⟨0, 0⟩

/-- The places that the data bit of the coming half-cycle is moved up by. -/
def places? (registers : Registers) : Option UInt32 := sub? 31 (registers.count / 2)

/-- The data bits after the coming half-cycle, if it is an odd one. -/
def capture? (registers : Registers) (high : Level) : Option Int32 :=
  if registers.count < 48 then do
    let places ← registers.places?
    let bit ← shiftLeft? (if high then 1 else 0) places
    return registers.shift ||| bit
  else some registers.shift

/-- One half-cycle, with the data line at `high`: the level that the clock line is driven to, and
the registers after it. -/
def advance? (registers : Registers) (high : Level) : Option (Level × Registers) :=
  if registers.count % 2 = 1 then do
    let shift ← registers.capture? high
    let count ← add? registers.count 1
    return (false, ⟨count, shift⟩)
  else do
    let count ← add? registers.count 1
    return (true, ⟨count, registers.shift⟩)

/-- The end of a frame: its sample, and the registers for the next one. -/
def finish? (registers : Registers) (polarity : Polarity) : Option (Int32 × Registers) := do
  let value ← mul? (registers.shift >>> 8) polarity.sign
  return (value, start)

end Registers

/-! ## The registers of a frame -/

namespace Frame

variable {frame : Frame}

/-- The registers that hold this frame. -/
def registers (frame : Frame) : Registers :=
  ⟨UInt32.ofNat frame.halfCycles, Int32.ofBitVec frame.bits⟩

theorem registers_start : start.registers = .start := rfl

theorem toNat_count (h : frame.halfCycles < UInt32.size) :
    frame.registers.count.toNat = frame.halfCycles := UInt32.toNat_ofNat_of_lt' h

theorem toNat_half_count (h : frame.halfCycles < UInt32.size) :
    (frame.registers.count / 2).toNat = frame.halfCycles / 2 := by
  rw [UInt32.toNat_div, toNat_count h]
  rfl

theorem places?_registers (h : frame.halfCycles < dataHalfCycles) :
    frame.registers.places? = some (UInt32.ofNat (31 - frame.halfCycles / 2)) := by
  have hsize : frame.halfCycles < UInt32.size := h.trans (by decide)
  have hle : frame.halfCycles / 2 ≤ 31 := by
    rw [dataHalfCycles] at h
    omega
  have hhalf : frame.registers.count / 2 = UInt32.ofNat (frame.halfCycles / 2) := by
    rw [← UInt32.toNat_inj, toNat_half_count hsize,
      UInt32.toNat_ofNat_of_lt' (Nat.lt_of_le_of_lt hle (by decide))]
  rw [Registers.places?, hhalf]
  exact Bounded.sub?_ofNat hle (by decide)

/-- A data bit is moved up by 8 to 31 places. -/
theorem places?_registers_mem (h : frame.halfCycles < dataHalfCycles) :
    ∃ places, frame.registers.places? = some places ∧ 8 ≤ places ∧ places ≤ 31 := by
  have hvalue : (UInt32.ofNat (31 - frame.halfCycles / 2)).toNat = 31 - frame.halfCycles / 2 :=
    UInt32.toNat_ofNat_of_lt' (Nat.lt_of_le_of_lt (Nat.sub_le ..) (by decide))
  have height : (8 : UInt32).toNat = 8 := rfl
  have hmost : (31 : UInt32).toNat = 31 := rfl
  rw [dataHalfCycles] at h
  refine ⟨_, places?_registers h, ?_, ?_⟩ <;> rw [UInt32.le_iff_toNat_le, hvalue] <;> omega

theorem capture?_registers (h : frame.halfCycles < UInt32.size)
    (hodd : frame.halfCycles % 2 = 1) (high : Level) :
    frame.registers.capture? high = some (Int32.ofBitVec (frame.capture high)) := by
  have hlt : frame.registers.count < 48 ↔ frame.halfCycles < dataHalfCycles := by
    rw [UInt32.lt_iff_toNat_lt, toNat_count h]
    exact Iff.rfl
  by_cases hdata : frame.halfCycles < dataHalfCycles
  · have hplaces : 31 - frame.halfCycles / 2 < 32 := by omega
    rw [Registers.capture?, if_pos (hlt.mpr hdata), places?_registers hdata]
    show (Bounded.shiftLeft? _ _ >>= _) = _
    rw [Bounded.shiftLeft?_bit high hplaces]
    cases high <;> simp [capture, hodd, hdata, registers]
  · rw [Registers.capture?, if_neg (hlt.not.mpr hdata), capture]
    simp [hdata, registers]

/-- **The registers follow the frame** while the count has room. -/
theorem advance?_registers (h : frame.halfCycles + 1 < UInt32.size) (high : Level) :
    frame.registers.advance? high
      = some (frame.clockLevel, (frame.advance high).registers) := by
  have hsize : frame.halfCycles < UInt32.size := Nat.lt_of_succ_lt h
  have hodd : frame.registers.count % 2 = 1 ↔ frame.halfCycles % 2 = 1 := by
    rw [← UInt32.toNat_inj, UInt32.toNat_mod, toNat_count hsize]
    exact Iff.rfl
  have hcount : Bounded.add? frame.registers.count 1
      = some (UInt32.ofNat (frame.halfCycles + 1)) := Bounded.add?_one h
  by_cases hcase : frame.halfCycles % 2 = 1
  · have hlevel : frame.clockLevel = false := by simp [clockLevel, hcase]
    rw [Registers.advance?, if_pos (hodd.mpr hcase), capture?_registers hsize hcase, hcount, hlevel]
    rfl
  · -- no bit is captured in an even half-cycle
    have hlevel : frame.clockLevel = true := by
      rw [clockLevel, beq_iff_eq]
      omega
    have hbits : frame.capture high = frame.bits := by simp [capture, hcase]
    rw [Registers.advance?, if_neg (hodd.not.mpr hcase), hcount, hlevel, registers, registers,
      advance, hbits]
    rfl

/-- A full count is the end of it. -/
theorem advance?_full (h : frame.halfCycles + 1 = UInt32.size) (high : Level) :
    frame.registers.advance? high = none := by
  have hsize : frame.halfCycles < UInt32.size := Nat.lt_of_succ_le (Nat.le_of_eq h)
  have hcount : Bounded.add? frame.registers.count 1 = none :=
    Bounded.add?_full (by rw [toNat_count hsize, h])
  unfold Registers.advance?
  rw [hcount]
  split
  · cases frame.registers.capture? high <;> rfl
  · rfl

/-- The number in a register, shifted by eight, has 24 bits. -/
theorem toInt_sshiftRight_bounds (bits : BitVec 32) :
    -(2 ^ 23) ≤ (bits.sshiftRight 8).toInt ∧ (bits.sshiftRight 8).toInt < 2 ^ 23 := by
  have hlow := bits.le_toInt
  have hhigh := bits.toInt_lt
  rw [BitVec.toInt_sshiftRight, Int.shiftRight_eq_div_pow]
  omega

/-- **The sample can be taken off the registers** whatever is in them. -/
theorem finish?_registers (frame : Frame) (polarity : Polarity) :
    frame.registers.finish? polarity = some (frame.value polarity, .start) := by
  obtain ⟨hlow, hhigh⟩ := toInt_sshiftRight_bounds frame.bits
  have hmul := toInt_mul_sign (Int32.ofBitVec (frame.bits.sshiftRight 8)) polarity hlow hhigh
  have hshift : frame.registers.shift >>> 8 = Int32.ofBitVec (frame.bits.sshiftRight 8) := rfl
  rw [Registers.finish?, hshift, Bounded.mul?_of_toInt_mul (hmul.trans (Int.mul_comm _ _))]
  rfl

end Frame

end WeighScale
