set_option autoImplicit false

/-! # What can go wrong with a message

Reading a message body fails for one of three causes and writing one for a single cause.
Each cause has its wording here, and nowhere else.
-/

namespace WeighScale.Wire

inductive DecodeError
  /-- The body ends inside a field, or before it. -/
  | truncated
  | unknownMessage (id : UInt32)
  | outOfRange (field : String) (value : UInt32)
  deriving DecidableEq, Repr, Inhabited

def DecodeError.message : DecodeError → String
  | truncated => "message truncated"
  | unknownMessage id => s!"unknown message id {id}"
  | outOfRange field value => s!"field {field} out of range: {value}"

inductive EncodeError
  | overflow
  deriving DecidableEq, Repr, Inhabited

def EncodeError.message : EncodeError → String
  | overflow => "message exceeds buffer"

end WeighScale.Wire
