import WeighScale.Proofs.Wire.Stream

set_option autoImplicit false

/-! # Filling a buffer

Words are written to a buffer one after another, and a word that does not fit does not stop those
after it. It leaves the buffer full, with the bytes for which there was room, so none of those
after it fits either. Whatever the capacity and however many words there are, the buffer therefore
ends up with the first bytes of all that was to be written (`bytes_writeEach`).
-/

namespace WeighScale.Wire.Buffer

open Integer

variable {capacity : Nat}

/-! ## Bytes that fit -/

theorem eq_of_bytes {buffer other : Buffer capacity} (h : buffer.bytes = other.bytes) :
    buffer = other := by
  cases buffer
  cases other
  cases h
  rfl

/-- Of what a buffer holds and what is written, the first bytes are kept. -/
theorem bytes_write_eq_take (buffer : Buffer capacity) (more : List UInt8) :
    (buffer.write more).2.bytes = (buffer.bytes ++ more).take capacity := by
  rw [bytes_write, List.take_append, List.take_of_length_le buffer.length_le]

/-- A write succeeds or overflows, and it overflows if there is not enough room. -/
theorem write_overflow_iff (buffer : Buffer capacity) (more : List UInt8) :
    (buffer.write more).1 = .error .overflow ↔ capacity < buffer.bytes.length + more.length := by
  rw [← Nat.not_le, ← write_ok_iff]
  cases (buffer.write more).1 with
  | ok _ => simp
  | error e =>
      cases e
      simp

theorem length_write_of_overflow {buffer : Buffer capacity} {more : List UInt8}
    (h : (buffer.write more).1 = .error .overflow) :
    (buffer.write more).2.bytes.length = capacity := by
  have hroom := (write_overflow_iff buffer more).mp h
  rw [bytes_write_eq_take, List.length_take, List.length_append]
  omega

/-- Nothing can be written to a full buffer. -/
theorem writeInteger_of_full {buffer : Buffer capacity} (h : buffer.bytes.length = capacity)
    (v : UInt32) : buffer.writeInteger v = (.error .overflow, buffer) := by
  have hpos : 1 ≤ (encode v).length := (length_encode v).symm ▸ groupCount_pos v
  have hresult : (buffer.writeInteger v).1 = .error .overflow := by
    rw [writeInteger, write_overflow_iff]
    omega
  have hbytes : (buffer.writeInteger v).2.bytes = buffer.bytes := by
    rw [writeInteger, bytes_write, h, Nat.sub_self, List.take_zero, List.append_nil]
  exact Prod.ext hresult (eq_of_bytes hbytes)

/-! ## One word after another -/

/-- Appends the encodings of words one after another, and goes on after one that does not fit. -/
def writeEach (buffer : Buffer capacity) (values : List UInt32) : Buffer capacity :=
  values.foldl (fun buffer v => (buffer.writeInteger v).2) buffer

theorem writeEach_cons (buffer : Buffer capacity) (v : UInt32) (values : List UInt32) :
    buffer.writeEach (v :: values) = (buffer.writeInteger v).2.writeEach values := rfl

theorem writeEach_of_full {buffer : Buffer capacity} (h : buffer.bytes.length = capacity)
    (values : List UInt32) : buffer.writeEach values = buffer := by
  induction values with
  | nil => rfl
  | cons v values ih => rw [writeEach_cons, writeInteger_of_full h, ih]

/-- What is cut off does not come back. -/
theorem take_append_take {α : Type} (n : Nat) (held more : List α) :
    (held.take n ++ more).take n = (held ++ more).take n := by
  rw [List.take_append, List.take_append, List.take_take, Nat.min_self, List.length_take]
  by_cases h : held.length ≤ n
  · rw [Nat.min_eq_right h]
  · have hnone : n - min n held.length = 0 := by omega
    have hless : n - held.length = 0 := by omega
    rw [hnone, hless]

theorem bytes_writeEach (buffer : Buffer capacity) (values : List UInt32) :
    (buffer.writeEach values).bytes = (buffer.bytes ++ values.flatMap encode).take capacity := by
  induction values generalizing buffer with
  | nil =>
      rw [List.flatMap_nil, List.append_nil, List.take_of_length_le buffer.length_le]
      rfl
  | cons v values ih =>
      rw [writeEach_cons, ih, writeInteger, bytes_write_eq_take, take_append_take,
        List.flatMap_cons, List.append_assoc]

/-- **How words fill a buffer**, of any capacity and with anything in it. In the end it holds the
first bytes of what it held and all the encodings. Each word overflows exactly if its encoding is
too long for the room that the words before have left. No byte that is there is changed. A word
that fits adds its encoding, and one that overflows adds as much of it as there is room for; the
buffer is then full, and every later word overflows and changes nothing. -/
theorem writeEach_fills (buffer : Buffer capacity) (values : List UInt32) :
    (buffer.writeEach values).bytes = (buffer.bytes ++ values.flatMap encode).take capacity
      ∧ ∀ before v later, values = before ++ v :: later →
          let held := (buffer.writeEach before).bytes
          let written := (buffer.writeEach before).writeInteger v
          (written.1 = .error .overflow ↔ capacity < held.length + (encode v).length)
            ∧ held <+: written.2.bytes
            ∧ (written.1 = .ok () → written.2.bytes = held ++ encode v)
            ∧ (written.1 = .error .overflow →
                written.2.bytes = held ++ (encode v).take (capacity - held.length)
                  ∧ written.2.bytes.length = capacity
                  ∧ ∀ more w rest, later = more ++ w :: rest →
                      (written.2.writeEach more).writeInteger w = (.error .overflow, written.2)) := by
  refine ⟨bytes_writeEach buffer values, ?_⟩
  intro before v later _ held written
  have hbytes : written.2.bytes = held ++ (encode v).take (capacity - held.length) :=
    bytes_write _ (encode v)
  refine ⟨write_overflow_iff _ (encode v), ?_, fun hok => ?_, fun hfail => ?_⟩
  · rw [hbytes]
    exact List.prefix_append ..
  · have hroom : held.length + (encode v).length ≤ capacity := (write_ok_iff _ (encode v)).mp hok
    rw [hbytes, List.take_of_length_le (by omega)]
  · have hfull : written.2.bytes.length = capacity := length_write_of_overflow hfail
    refine ⟨hbytes, hfull, fun more w rest _ => ?_⟩
    rw [writeEach_of_full hfull, writeInteger_of_full hfull]

/-- Of a word with three groups one fits, and then there is no room for a word with one group. -/
example : ((Buffer.empty 2).writeEach [5, 0x4000, 6]).bytes = [5, 0x81] := by decide

end WeighScale.Wire.Buffer
