import WeighScale.Proofs.Wire.Stream
import WeighScale.Wire.Reading

set_option autoImplicit false

/-! # Readings on the wire

A reading always fits in a message, and the host reads back the one that was sent, also when
more bytes follow. The fields are read one after another, so this is the round trip of single
integers (`Integer.parse_encode`), once for each field.
-/

namespace WeighScale.Wire

namespace Reader

variable {α γ : Type}

/-- What follows a reader that succeeds goes on with the bytes it left. -/
theorem bind_ok {reader : Reader α} {bytes rest : List UInt8} {a : α}
    (h : reader bytes = .ok (a, rest)) (next : α → Reader γ) :
    (reader >>= next) bytes = next a rest := by
  show (reader bytes >>= fun read => next read.1 read.2) = _
  rw [h]
  rfl

/-- A word that was written in front is read, and what follows it is left. -/
theorem word_encode (v : UInt32) (rest : List UInt8) :
    word (Integer.encode v ++ rest) = .ok (v, rest) := by
  rw [word, Integer.parse_encode]

theorem signed_encode (v : Int32) (rest : List UInt8) :
    signed (Integer.encode v.toUInt32 ++ rest) = .ok (v, rest) := by
  rw [signed, bind_ok (word_encode _ rest), Int32.toInt32_toUInt32]
  rfl

theorem byte_encode (field : String) (b : UInt8) (rest : List UInt8) :
    byte field (Integer.encode b.toUInt32 ++ rest) = .ok (b, rest) := by
  have hlt : b.toUInt32.toNat < 256 := by
    rw [UInt8.toNat_toUInt32]
    exact b.toNat_lt
  rw [byte, bind_ok (word_encode _ rest), if_pos hlt, UInt8.toUInt8_toUInt32]
  rfl

end Reader

/-- A number that fits in a byte is written with two groups at most. -/
theorem Integer.length_encode_byte_le (b : UInt8) : (Integer.encode b.toUInt32).length ≤ 2 := by
  have hfits : Integer.Fits 2 b.toUInt32 := by
    have hbits := Integer.toInt_toInt32 b.toUInt32
    have hlt := b.toNat_lt
    rw [Integer.fits_iff, hbits, UInt8.toNat_toUInt32, if_pos (by omega)]
    omega
  rw [Integer.length_encode, Integer.groupCount]
  by_cases hone : Integer.Fits 1 b.toUInt32
  · rw [if_pos hone]
    omega
  · rw [if_neg hone, if_pos hfits]

namespace Reading

/-- The bytes of the message: its id and the three fields. -/
def body (reading : Reading) (ids : Ids) : List UInt8 :=
  (reading.fields ids).flatMap Integer.encode

/-- Two bytes for the oid, and five for the id and each of the other fields. -/
theorem length_body_le_seventeen (reading : Reading) (ids : Ids) :
    (reading.body ids).length ≤ 17 := by
  have hbyte := Integer.length_encode_byte_le reading.oid
  have hword (v : UInt32) : (Integer.encode v).length ≤ 5 :=
    (Integer.length_encode v).trans_le (Integer.groupCount_le v)
  have hid := hword ids.reading
  have hclock := hword reading.clock
  have hvalue := hword reading.value.toUInt32
  simp only [body, fields, List.flatMap_cons, List.flatMap_nil, List.length_append,
    List.length_nil]
  omega

theorem length_body_le (reading : Reading) (ids : Ids) :
    (reading.body ids).length ≤ maxMessageSize :=
  (reading.length_body_le_seventeen ids).trans (Nat.le_of_ble_eq_true rfl)

/-- There is room for every reading. -/
theorem encode_eq_body (reading : Reading) (ids : Ids) :
    reading.encode ids = .ok (reading.body ids) := by
  have room : (Buffer.empty maxMessageSize).bytes.length
      + ((reading.fields ids).flatMap Integer.encode).length ≤ maxMessageSize := by
    rw [Buffer.empty, List.length_nil, Nat.zero_add]
    exact reading.length_body_le ids
  obtain ⟨buffer, hok, hbytes⟩ :=
    Buffer.writeFields_of_room (Buffer.empty maxMessageSize) (reading.fields ids) room
  rw [encode, hok, body]
  show Except.ok buffer.bytes = _
  rw [hbytes, Buffer.empty, List.nil_append]

/-- **The host reads the reading that was sent**, whatever follows it. -/
theorem decode_body_append (reading : Reading) (ids : Ids) (trailing : List UInt8) :
    decode ids (reading.body ids ++ trailing) = .ok reading := by
  have hread : Reader.reading ids (reading.body ids ++ trailing) = .ok (reading, trailing) := by
    rw [body, fields, List.flatMap_cons, List.flatMap_cons, List.flatMap_cons,
      List.flatMap_cons, List.flatMap_nil, List.append_nil, List.append_assoc,
      List.append_assoc, List.append_assoc, Reader.reading,
      Reader.bind_ok (Reader.word_encode _ _), if_neg (by simp)]
    show (Reader.byte "oid" >>= _) _ = _
    rw [Reader.bind_ok (Reader.byte_encode _ _ _), Reader.bind_ok (Reader.word_encode _ _),
      Reader.bind_ok (Reader.signed_encode _ _)]
    rfl
  show (Reader.reading ids (reading.body ids ++ trailing)).map Prod.fst = _
  rw [hread]
  rfl

/-- The message depends on no id but its own. -/
theorem body_congr (reading : Reading) {ids others : Ids} (h : others.reading = ids.reading) :
    reading.body others = reading.body ids := by rw [body, body, fields, fields, h]

/-- A host that knows the message by another id does not take it for a reading. -/
theorem decode_body_of_ne (reading : Reading) {ids others : Ids} (h : others.reading ≠ ids.reading)
    (trailing : List UInt8) :
    decode others (reading.body ids ++ trailing) = .error (.unknownMessage ids.reading) := by
  have hread : Reader.reading others (reading.body ids ++ trailing)
      = .error (.unknownMessage ids.reading) := by
    rw [body, fields, List.flatMap_cons, List.append_assoc, Reader.reading,
      Reader.bind_ok (Reader.word_encode _ _), if_pos (Ne.symm h)]
    rfl
  show (Reader.reading others (reading.body ids ++ trailing)).map Prod.fst = _
  rw [hread]
  rfl

theorem decode_body_self (reading : Reading) (ids : Ids) :
    decode ids (reading.body ids) = .ok reading := by
  have hdecode := reading.decode_body_append ids []
  rw [List.append_nil] at hdecode
  exact hdecode

theorem decode_body (reading : Reading) (ids others : Ids) (trailing : List UInt8) :
    decode others (reading.body ids ++ trailing)
      = if others.reading = ids.reading then .ok reading
        else .error (.unknownMessage ids.reading) := by
  split
  · next h => rw [← reading.body_congr h, decode_body_append]
  · next h => exact reading.decode_body_of_ne h trailing

/-- Different readings have different messages, whatever the ids. -/
theorem body_eq_iff {reading other : Reading} {ids others : Ids} :
    other.body others = reading.body ids ↔ other = reading ∧ others.reading = ids.reading := by
  constructor
  · intro h
    have hother := other.decode_body others others []
    have hreading := reading.decode_body ids others []
    rw [← h, hother, if_pos rfl] at hreading
    split at hreading
    · next hid => exact ⟨Except.ok.inj hreading, hid⟩
    · cases hreading
  · rintro ⟨rfl, hid⟩
    exact other.body_congr hid

end Reading

end WeighScale.Wire
