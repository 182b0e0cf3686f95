import WeighScale.Wire.Integer

set_option autoImplicit false

/-! # Bounded buffers

A buffer holds at most `capacity` bytes. Writing goes byte by byte and stops at the first byte
for which there is no room; the bytes before it stay in the buffer.

* `bytes_write`: after a write the buffer holds what it held, followed by as much of the
  new bytes as there was room for.
* `write_ok_iff`: the write succeeds exactly when all of them fitted.
-/

namespace WeighScale.Wire

/-- At most `capacity` bytes, in the order in which they were written. -/
structure Buffer (capacity : Nat) where
  bytes : List UInt8
  length_le : bytes.length ≤ capacity

namespace Buffer

variable {capacity : Nat}

/-- The buffer that holds nothing. -/
def empty (capacity : Nat) : Buffer capacity := ⟨[], Nat.zero_le _⟩

/-- Appends one byte, if there is room. -/
def push? (buffer : Buffer capacity) (b : UInt8) : Option (Buffer capacity) :=
  if h : buffer.bytes.length < capacity then
    some ⟨buffer.bytes ++ [b], by rw [List.length_append]; exact h⟩
  else none

/-- Appends bytes one after another until there is no room. -/
def write (buffer : Buffer capacity) : List UInt8 → Except EncodeError Unit × Buffer capacity
  | [] => (.ok (), buffer)
  | b :: more =>
      match buffer.push? b with
      | none => (.error .overflow, buffer)
      | some buffer => buffer.write more

/-- Appends the encoding of a word. -/
def writeInteger (buffer : Buffer capacity) (v : UInt32) :
    Except EncodeError Unit × Buffer capacity :=
  buffer.write (Integer.encode v)

/-- Appends the encodings of a list of words, up to the first that does not fit. -/
def writeFields (buffer : Buffer capacity) : List UInt32 → Except EncodeError (Buffer capacity)
  | [] => .ok buffer
  | v :: fields =>
      match buffer.writeInteger v with
      | (.error e, _) => .error e
      | (.ok (), buffer) => buffer.writeFields fields

/-! ## Writing, in terms of the bytes held -/

theorem bytes_write (buffer : Buffer capacity) (more : List UInt8) :
    (buffer.write more).2.bytes
      = buffer.bytes ++ more.take (capacity - buffer.bytes.length) := by
  induction more generalizing buffer with
  | nil => simp [write]
  | cons b more ih =>
      by_cases h : buffer.bytes.length < capacity
      · obtain ⟨room, hroom⟩ : ∃ room, capacity - buffer.bytes.length = room + 1 :=
          ⟨capacity - buffer.bytes.length - 1, by omega⟩
        have hrest : capacity - (buffer.bytes.length + 1) = room := by omega
        simp [write, push?, h, ih, hroom, hrest]
      · have hfull : capacity - buffer.bytes.length = 0 := by omega
        simp [write, push?, h, hfull]

theorem write_ok_iff (buffer : Buffer capacity) (more : List UInt8) :
    (buffer.write more).1 = .ok () ↔ buffer.bytes.length + more.length ≤ capacity := by
  induction more generalizing buffer with
  | nil => simp [write, buffer.length_le]
  | cons b more ih =>
      by_cases h : buffer.bytes.length < capacity
      · simp only [write, push?, h, dite_true, ih, List.length_append, List.length_cons,
          List.length_nil]
        omega
      · simp only [write, push?, h, dite_false, List.length_cons]
        constructor
        · intro hne
          cases hne
        · omega

end Buffer

end WeighScale.Wire
