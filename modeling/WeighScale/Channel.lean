set_option autoImplicit false

/-! # Gain and polarity

The two settings of a converter that a host chooses by number. The gain also selects the
input channel: it is the number of clock pulses after the data bits, which the converter
counts to set up its next conversion. The polarity is the sign that every sample is
multiplied by.
-/

namespace WeighScale

/-- Input channel and gain of the next conversion. -/
inductive Gain
  /-- Channel A, gain 128. -/
  | a128
  /-- Channel B, gain 32. -/
  | b32
  /-- Channel A, gain 64. -/
  | a64
  deriving DecidableEq, Repr, Inhabited

namespace Gain

def pulses : Gain → Nat
  | a128 => 1
  | b32 => 2
  | a64 => 3

/-- The gain with this number of pulses. -/
def ofCode? (code : UInt32) : Option Gain :=
  if code = 1 then some a128
  else if code = 2 then some b32
  else if code = 3 then some a64
  else none

theorem ofCode?_eq_some_iff {code : UInt32} {gain : Gain} :
    ofCode? code = some gain ↔ code = UInt32.ofNat gain.pulses := by
  unfold ofCode?
  constructor
  · intro h
    repeat' split at h
    all_goals simp_all
    all_goals subst h; rfl
  · rintro rfl
    cases gain <;> rfl

def name : Gain → String
  | a128 => "A128"
  | b32 => "B32"
  | a64 => "A64"

end Gain

/-- Whether samples keep their sign. -/
inductive Polarity
  | normal
  | inverted
  deriving DecidableEq, Repr, Inhabited

namespace Polarity

def sign : Polarity → Int32
  | normal => 1
  | inverted => -1

/-- The polarity with this factor. -/
def ofSign? (sign : Int32) : Option Polarity :=
  if sign = 1 then some normal
  else if sign = -1 then some inverted
  else none

theorem ofSign?_eq_some_iff {sign : Int32} {polarity : Polarity} :
    ofSign? sign = some polarity ↔ sign = polarity.sign := by
  unfold ofSign?
  constructor
  · intro h
    repeat' split at h
    all_goals simp_all
    all_goals subst h; rfl
  · rintro rfl
    cases polarity <;> rfl

def name : Polarity → String
  | normal => "Normal"
  | inverted => "Inverted"

end Polarity

end WeighScale
