set_option autoImplicit false

/-! # Timer clocks and delays

A clock counts ticks of a 32-bit timer and wraps. The delays between callbacks are in ticks
too, and come from the frequency of the timer (`Delays.ofFrequency`).
-/

namespace WeighScale

/-- A count of timer ticks, modulo `2 ^ 32`. -/
abbrev Clock := UInt32

/-- What a timer callback asks for. -/
inductive Next
  | again (clock : Clock)
  | done
  deriving DecidableEq, Repr, Inhabited

structure Delays where
  /-- From the end of one frame to the next ready check. -/
  sample : UInt32
  /-- Between two clock edges of a frame. -/
  edge : UInt32
  /-- Between two ready checks. -/
  retry : UInt32
  deriving DecidableEq, Repr

namespace Delays

def samplesPerSecond : UInt32 := 80

def edgeMicroseconds : UInt32 := 40

def retryMicroseconds : UInt32 := 200

/-- The delays for a timer of `hertz` ticks a second. The short ones are whole multiples of
the ticks in a microsecond, and nothing for a timer slower than that. -/
def ofFrequency (hertz : UInt32) : Delays where
  sample := hertz / samplesPerSecond
  edge := edgeMicroseconds * (hertz / 1000000)
  retry := retryMicroseconds * (hertz / 1000000)

def standard : Delays := ofFrequency 1000000

instance : Inhabited Delays := ⟨standard⟩

end Delays

end WeighScale
