import WeighScale.Board
import WeighScale.Chip

set_option autoImplicit false

/-! # The test bench

A board on which everything can be arranged: the levels of the lines, which pins fail at what,
and chips on pairs of pins. A line without a chip keeps the level it was given. A call that
fails has no effect.

A line can also be tied to a clock line, in that every time the clock line is driven, the
other one takes a certain level (`Tie`). It shows whether a level that changes with the
clock is read before or after the change.
-/

namespace WeighScale

structure Mount where
  dout : Pin
  sck : Pin
  chip : Chip
  deriving DecidableEq, Repr

/-- A line that takes a level whenever a clock line is driven. -/
structure Tie where
  sck : Pin
  pin : Pin
  high : Level
  deriving DecidableEq, Repr

structure Bench where
  /-- The lines that are high. -/
  high : List Pin
  /-- What fails on which pins. -/
  faults : List (PinFault × Pin)
  ties : List Tie
  /-- The chips. Of several on one pin, the first one counts. -/
  mounts : List Mount
  /-- The pins claimed as inputs so far. -/
  inputs : Nat
  /-- The pins claimed as outputs so far. -/
  outputs : Nat
  deriving DecidableEq, Repr

namespace Bench

/-- A bench with all lines low, nothing failing and no chips. -/
def empty : Bench := ⟨[], [], [], [], 0, 0⟩

instance : Inhabited Bench := ⟨empty⟩

/-! ## Arranging -/

def setLine (bench : Bench) (pin : Pin) (high : Level) : Bench :=
  let others := bench.high.filter (· != pin)
  { bench with high := if high then pin :: others else others }

/-- Makes a pin fail at something, or work again. -/
def setFault (bench : Bench) (fault : PinFault) (pin : Pin) (on : Bool) : Bench :=
  let others := bench.faults.filter (· != (fault, pin))
  { bench with faults := if on then (fault, pin) :: others else others }

def addTie (bench : Bench) (tie : Tie) : Bench := { bench with ties := bench.ties ++ [tie] }

/-- Puts a chip on two pins. -/
def mount (bench : Bench) (dout sck : Pin) (chip : Chip) : Bench :=
  { bench with mounts := bench.mounts ++ [⟨dout, sck, chip⟩] }

/-! ## The bench as a board -/

/-- The level of a line that has no chip. -/
def line (bench : Bench) (pin : Pin) : Level := bench.high.contains pin

/-- The fault of asking this of this pin. -/
def fault? (bench : Bench) (fault : PinFault) (pin : Pin) : Option PinFault :=
  if bench.faults.contains (fault, pin) then some fault else none

/-- Reads the first chip whose data line is on the pin. -/
def readMounts (pin : Pin) : List Mount → Option (Level × List Mount)
  | [] => none
  | mount :: mounts =>
      if mount.dout = pin then
        let seen := mount.chip.read
        some (seen.1, { mount with chip := seen.2 } :: mounts)
      else (readMounts pin mounts).map fun seen => (seen.1, mount :: seen.2)

/-- Clocks the first chip whose clock line is on the pin. -/
def clockMounts (pin : Pin) (high : Level) : List Mount → List Mount
  | [] => []
  | mount :: mounts =>
      if mount.sck = pin then { mount with chip := mount.chip.clock high } :: mounts
      else mount :: clockMounts pin high mounts

/-- The level of a line, and the bench after it was read. -/
def readLine (bench : Bench) (pin : Pin) : Level × Bench :=
  match readMounts pin bench.mounts with
  | some (high, mounts) => (high, { bench with mounts })
  | none => (bench.line pin, bench)

/-- Gives the lines that are tied to a clock line their levels. -/
def pull (bench : Bench) (sck : Pin) : Bench :=
  bench.ties.foldl
    (fun bench tie => if tie.sck = sck then bench.setLine tie.pin tie.high else bench) bench

def driveLine (bench : Bench) (pin : Pin) (high : Level) : Bench :=
  { bench with mounts := clockMounts pin high bench.mounts }.pull pin

instance : Board Bench where
  setupInput bench pin _ :=
    match bench.fault? .setupInput pin with
    | some fault => ⟨some fault, bench⟩
    | none => ⟨none, { bench with inputs := bench.inputs + 1 }⟩
  setupOutput bench pin _ :=
    match bench.fault? .setupOutput pin with
    | some fault => ⟨some fault, bench⟩
    | none => ⟨none, { bench with outputs := bench.outputs + 1 }⟩
  read bench pin :=
    let seen := bench.readLine pin
    match bench.fault? .read pin with
    | some fault => (seen.1, ⟨some fault, bench⟩)
    | none => (seen.1, ⟨none, seen.2⟩)
  drive bench pin high :=
    match bench.fault? (.ofDrive high) pin with
    | some fault => ⟨some fault, bench⟩
    | none => ⟨none, bench.driveLine pin high⟩

end Bench

end WeighScale
