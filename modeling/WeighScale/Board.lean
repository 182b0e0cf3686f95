import WeighScale.Frame

set_option autoImplicit false

/-! # Boards

A board is what the lines are wired to. It is asked for four things: to claim a pin as an
input or as an output, to read an input and to drive an output. Each may fail. The state of
the board is any type with a `Board` instance, so whatever is said for every board holds
whatever the lines do and whenever they fail.
-/

namespace WeighScale

abbrev Pin := UInt32

inductive Pull
  | floating
  | up
  | down
  deriving DecidableEq, Repr, Inhabited

def Pull.name : Pull → String
  | floating => "None"
  | up => "Up"
  | down => "Down"

def Level.name (high : Level) : String := if high then "High" else "Low"

/-- Which of the things asked of a pin has failed. -/
inductive PinFault
  | read
  | setLow
  | setHigh
  | setupInput
  | setupOutput
  deriving DecidableEq, Repr, Inhabited

namespace PinFault

def name : PinFault → String
  | read => "Read"
  | setLow => "SetLow"
  | setHigh => "SetHigh"
  | setupInput => "SetupInput"
  | setupOutput => "SetupOutput"

/-- The fault of driving a line to this level. -/
def ofDrive (high : Level) : PinFault := if high then setHigh else setLow

end PinFault

/-- The answer of a board: the fault if the call failed, and the board after it. -/
structure Answer (β : Type) where
  fault : Option PinFault
  board : β

class Board (β : Type) where
  setupInput : β → Pin → Pull → Answer β
  /-- Claims a pin as an output, driven to a level at once. -/
  setupOutput : β → Pin → Level → Answer β
  /-- Reads an input. The level is that of the line, also when it cannot be used because the
  reading failed. -/
  read : β → Pin → Level × Answer β
  drive : β → Pin → Level → Answer β

end WeighScale
