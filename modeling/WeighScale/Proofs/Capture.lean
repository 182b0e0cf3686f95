import WeighScale.Frame
import Mathlib.Tactic

set_option autoImplicit false

/-! # Frames that capture a word

A frame that takes the bits of a 24-bit word off the data line is, at every half-cycle, the
frame `partway` through that word: the bits so far stand at the top of the register, and the
rest of it is clear. Once all data bits are in, the value of the frame is the word as a signed
number, with the sign of the polarity.

* `advance_partway`: one half-cycle, with the right bit on the line in those that carry data.
* `toInt_value_partway`: the value after the data bits.
-/

namespace WeighScale

/-! ## Words bit by bit -/

/-- The word with these bits, the most significant first. -/
def wordOf (bit : Nat → Bool) : BitVec 24 :=
  (BitVec.ofBoolListBE ((List.range 24).map bit)).cast (by simp)

theorem getMsbD_wordOf (bit : Nat → Bool) {i : Nat} (h : i < 24) :
    (wordOf bit).getMsbD i = bit i := by
  rw [wordOf, BitVec.getMsbD_cast, BitVec.getMsbD_ofBoolListBE]
  simp [h]

/-! ## The first bits of a word -/

/-- The first `count` bits of a word, from the top of the register down. -/
def topBits (word : BitVec 24) (count : Nat) : BitVec 32 :=
  (word ++ 0#8) &&& (BitVec.allOnes 32 <<< (32 - count))

theorem getMsbD_topBits (word : BitVec 24) (count i : Nat) :
    (topBits word count).getMsbD i = (decide (i < count) && word.getMsbD i) := by
  rw [topBits, BitVec.getMsbD_and, BitVec.getMsbD_shiftLeft, BitVec.getMsbD_allOnes,
    BitVec.getMsbD_append]
  by_cases hword : i < 24
  · have hmask : i + (32 - count) < 32 ↔ i < count := by omega
    simp [hmask, Nat.not_le.mpr hword, Bool.and_comm]
  · have hnone : word.getMsbD i = false := BitVec.getMsbD_of_ge word i (Nat.not_lt.mp hword)
    simp [hnone]

@[simp] theorem topBits_zero (word : BitVec 24) : topBits word 0 = 0 := by
  apply BitVec.eq_of_getMsbD_eq
  intro i _
  simp [getMsbD_topBits]

/-- There are no more than 24 bits. -/
theorem topBits_of_le (word : BitVec 24) {count : Nat} (h : 24 ≤ count) :
    topBits word count = word ++ 0#8 := by
  apply BitVec.eq_of_getMsbD_eq
  intro i _
  rw [getMsbD_topBits, BitVec.getMsbD_append]
  by_cases hword : i < 24
  · have hcount : i < count := by omega
    simp [hcount, Nat.not_le.mpr hword]
  · have hnone : word.getMsbD i = false := BitVec.getMsbD_of_ge word i (Nat.not_lt.mp hword)
    simp [hnone]

/-- One bit more. -/
theorem topBits_succ (word : BitVec 24) {count : Nat} (h : count < 24) :
    topBits word (count + 1)
      = if word.getMsbD count then topBits word count ||| BitVec.twoPow 32 (31 - count)
        else topBits word count := by
  apply BitVec.eq_of_getMsbD_eq
  intro i hi
  have hplace : 32 - (31 - count) - 1 = count := by omega
  have hlt : 31 - count < 32 := by omega
  cases hbit : word.getMsbD count with
  | false =>
      -- a bit that is clear changes nothing
      rw [if_neg Bool.false_ne_true, getMsbD_topBits, getMsbD_topBits]
      by_cases heq : i = count
      · subst heq
        simp [hbit]
      · have hiff : i < count + 1 ↔ i < count := by omega
        simp only [hiff]
  | true =>
      rw [if_pos rfl, BitVec.getMsbD_or, BitVec.getMsbD_twoPow, getMsbD_topBits,
        getMsbD_topBits, hplace]
      by_cases heq : i = count
      · subst heq
        simp [hbit, hlt]
      · have hiff : i < count + 1 ↔ i < count := by omega
        simp only [hiff, heq, decide_false, Bool.and_false, Bool.or_false]

/-- An arithmetic shift turns a word at the top of the register into a signed number. -/
theorem toInt_topBits_sshiftRight (word : BitVec 24) {count : Nat} (h : 24 ≤ count) :
    ((topBits word count).sshiftRight 8).toInt = word.toInt := by
  rw [topBits_of_le word h, BitVec.toInt_sshiftRight, BitVec.toInt_append_zero,
    Int.shiftRight_eq_div_pow]
  exact Int.mul_ediv_cancel_left _ (by decide)

namespace Frame

/-! ## Frames partway through a word -/

/-- The frame after some half-cycles in which the bits of a word were on the line. -/
def partway (word : BitVec 24) (halfCycles : Nat) : Frame :=
  ⟨halfCycles, topBits word (halfCycles / 2)⟩

@[simp] theorem halfCycles_partway (word : BitVec 24) (halfCycles : Nat) :
    (partway word halfCycles).halfCycles = halfCycles := rfl

theorem partway_zero (word : BitVec 24) : partway word 0 = start := by
  rw [partway, Nat.zero_div, topBits_zero]
  rfl

/-- **The frame stays partway through the word**, whatever the level in a half-cycle that
carries no data. -/
theorem advance_partway (word : BitVec 24) (halfCycles : Nat) (high : Level)
    (hdata : halfCycles % 2 = 1 → halfCycles < dataHalfCycles →
      high = word.getMsbD (halfCycles / 2)) :
    (partway word halfCycles).advance high = partway word (halfCycles + 1) := by
  rw [advance, capture, halfCycles_partway, partway, partway, Frame.mk.injEq]
  refine ⟨rfl, ?_⟩
  -- bits are captured in odd half-cycles, and those are where the count of bits goes up
  by_cases hodd : halfCycles % 2 = 1
  · have hhalf : (halfCycles + 1) / 2 = halfCycles / 2 + 1 := by omega
    by_cases hlt : halfCycles < dataHalfCycles
    · have hcount : halfCycles / 2 < 24 := by rw [dataHalfCycles] at hlt; omega
      rw [hhalf, topBits_succ word hcount, hdata hodd hlt]
      simp [hodd, hlt]
    · -- past the data bits there is nothing to capture
      have hcount : 24 ≤ halfCycles / 2 := by rw [dataHalfCycles] at hlt; omega
      rw [hhalf, topBits_of_le word hcount, topBits_of_le word (Nat.le_succ_of_le hcount)]
      simp [hlt]
  · have hhalf : (halfCycles + 1) / 2 = halfCycles / 2 := by omega
    rw [hhalf]
    simp [hodd]

/-- The sign of the polarity does not overflow: the least sample is far from the least `Int32`. -/
theorem toInt_mul_sign (value : Int32) (polarity : Polarity)
    (hlow : -(2 ^ 23) ≤ value.toInt) (hhigh : value.toInt < 2 ^ 23) :
    (value * polarity.sign).toInt = polarity.sign.toInt * value.toInt := by
  rw [Int32.toInt_mul, Int.mul_comm]
  cases polarity with
  | normal =>
      have hsign : Polarity.normal.sign.toInt = 1 := rfl
      rw [hsign]
      apply Int.bmod_eq_of_le <;> omega
  | inverted =>
      have hsign : Polarity.inverted.sign.toInt = -1 := rfl
      rw [hsign]
      apply Int.bmod_eq_of_le <;> omega

/-- **The value of a frame is the word that it has captured.** -/
theorem toInt_value_partway (word : BitVec 24) {halfCycles : Nat}
    (h : dataHalfCycles ≤ halfCycles) (polarity : Polarity) :
    ((partway word halfCycles).value polarity).toInt = polarity.sign.toInt * word.toInt := by
  have hcount : 24 ≤ halfCycles / 2 := by rw [dataHalfCycles] at h; omega
  have hbits : (Int32.ofBitVec ((topBits word (halfCycles / 2)).sshiftRight 8)).toInt
      = word.toInt := by
    rw [Int32.toInt_ofBitVec, toInt_topBits_sshiftRight word hcount]
  have hlow := word.le_toInt
  have hhigh := word.toInt_lt
  rw [value, sampleOfBits, partway, toInt_mul_sign, hbits]
  · rw [hbits]; omega
  · rw [hbits]; omega

end Frame

end WeighScale
