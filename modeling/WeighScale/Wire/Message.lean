import WeighScale.Wire.Integer

set_option autoImplicit false

/-! # Message bodies

A message body is a message id followed by the fields of its format, every one of them an
integer (`Wire/Integer.lean`). The ids are assigned by the data dictionary that both ends
share, so they are parameters here. Fields are read in order and each is checked as it is
read, so the first that is missing or out of range decides the failure. Bytes after the last
field are ignored.
-/

namespace WeighScale.Wire

/-- The most bytes that a message body has. -/
def maxMessageSize : Nat := 64

def configureFormat : String := "config_hx711 oid=%c dout_pin=%u sck_pin=%u gain=%u invert=%i"

def queryFormat : String := "query_hx711 oid=%c enable=%u endstop_oid=%i"

def readingFormat : String := "hx711_in_state oid=%c clock=%u value=%i"

/-- The ids of the three messages. Two may coincide. -/
structure Ids where
  configure : UInt32
  query : UInt32
  reading : UInt32
  deriving DecidableEq, Repr

/-- The ids used where the data dictionary assigns none. -/
def Ids.standard : Ids := ⟨70, 71, 72⟩

instance : Inhabited Ids := ⟨Ids.standard⟩

/-! ## Reading fields -/

abbrev Reader (α : Type) := StateT (List UInt8) (Except DecodeError) α

namespace Reader

def word : Reader UInt32 := fun bytes =>
  match Integer.parse bytes with
  | (.ok v, rest) => .ok (v, rest)
  | (.error e, _) => .error e

def signed : Reader Int32 := do
  let v ← word
  return v.toInt32

/-- Reads a field that has to fit in a byte; `field` names it in the failure. -/
def byte (field : String) : Reader UInt8 := do
  let v ← word
  if v.toNat < 256 then return v.toUInt8 else throw (.outOfRange field v)

end Reader

end WeighScale.Wire
