import WeighScale.Proofs.Wire.Codec
import WeighScale.Wire.Request

set_option autoImplicit false

/-! # The grammar of requests

A request is read byte by byte, and each field is checked as soon as it is read. Said without
bytes: there are certain integers at the front of a body (`integers`), and the request depends
on nothing else. The first integer tells which fields are to follow; what the request is, and
which failure there is if it is none, is read off those fields and the integers at their places
(`Request.ofIntegers`), where the earliest field that is missing or out of range decides.

* `decode_eq_ofIntegers`: every body is read that way.
* `integers_flatMap_encode`: of integers that were written none is lost, whatever follows them.
-/

namespace WeighScale.Wire

namespace Integer

/-- The integers at the front of some bytes, up to the first that cannot be read. -/
def integers (bytes : List UInt8) : List UInt32 :=
  match _ : parse bytes with
  | (.error _, _) => []
  | (.ok v, rest) => v :: integers rest
termination_by bytes.length
decreasing_by exact parse_length_lt ‹_›

theorem integers_of_ok {bytes rest : List UInt8} {v : UInt32} (h : parse bytes = (.ok v, rest)) :
    integers bytes = v :: integers rest := by
  rw [integers]
  split
  · next heq => rw [heq] at h; cases h
  · next heq => rw [heq] at h; cases h; rfl

theorem integers_of_error {bytes rest : List UInt8} {e : DecodeError}
    (h : parse bytes = (.error e, rest)) : integers bytes = [] := by
  rw [integers]
  split
  · rfl
  · next heq => rw [heq] at h; cases h

/-- Integers that were written are found again, before those of what follows. -/
theorem integers_flatMap_encode (values : List UInt32) (trailing : List UInt8) :
    integers (values.flatMap encode ++ trailing) = values ++ integers trailing := by
  induction values with
  | nil => rfl
  | cons v values ih =>
      rw [List.flatMap_cons, List.append_assoc, integers_of_ok (parse_encode v _), ih]
      rfl

end Integer

/-! ## The reference -/

/-- What a field may hold. A field that is checked has a name in the failure. -/
inductive Field
  /-- Any word. -/
  | word
  /-- A number that fits in a byte. -/
  | byte (name : String)
  /-- A number that fits in a byte, or a negative one for none. -/
  | link (name : String)
  deriving DecidableEq, Repr

/-- What is wrong with the word at the place of the field, if anything. -/
def Field.fault? : Field → Option UInt32 → Option DecodeError
  | _, none => some .truncated
  | word, some _ => none
  | byte name, some v => if v.toNat ≤ 255 then none else some (.outOfRange name v)
  | link name, some v =>
      if v.toInt32 < 0 ∨ v.toNat ≤ 255 then none else some (.outOfRange name v)

/-- What is wrong with the earliest field that something is wrong with. -/
def firstFault? : List Field → List UInt32 → Option DecodeError
  | [], _ => none
  | field :: fields, values =>
      (field.fault? values.head?).or (firstFault? fields values.tail)

namespace Request

/-- The fields of a `Configure`. -/
def configureFields : List Field := [.byte "oid", .word, .word, .word, .word]

/-- The fields of a `Query`. -/
def queryFields : List Field := [.byte "oid", .word, .link "endstop_oid"]

/-- The `Configure` with these integers, if there is nothing wrong with them. -/
def configureOf (values : List UInt32) : Configure where
  oid := (values.getD 0 0).toUInt8
  dout := values.getD 1 0
  sck := values.getD 2 0
  gain := values.getD 3 0
  invert := (values.getD 4 0).toInt32

/-- The `Query` with these integers, if there is nothing wrong with them. -/
def queryOf (values : List UInt32) : Query where
  oid := (values.getD 0 0).toUInt8
  enable := values.getD 1 0 != 0
  endstop :=
    if (values.getD 2 0).toInt32 < 0 then none else some (values.getD 2 0).toUInt8

/-- The request that integers stand for, the message id first. -/
def ofIntegers (ids : Ids) : List UInt32 → Except DecodeError Request
  | [] => .error .truncated
  | id :: values =>
      if id = ids.configure then
        match firstFault? configureFields values with
        | some e => .error e
        | none => .ok (.configure (configureOf values))
      else if id = ids.query then
        match firstFault? queryFields values with
        | some e => .error e
        | none => .ok (.query (queryOf values))
      else .error (.unknownMessage id)

end Request

/-! ## Readers and integers -/

theorem firstFault?_append (fields more : List Field) (values : List UInt32) :
    firstFault? (fields ++ more) values
      = (firstFault? fields values).or (firstFault? more (values.drop fields.length)) := by
  induction fields generalizing values with
  | nil => rfl
  | cons field fields ih =>
      rw [List.cons_append, firstFault?, ih, firstFault?, Option.or_assoc, List.length_cons,
        List.drop_tail]

namespace Reader

variable {α γ : Type}

open Integer

/-- The reader takes one integer for each of the fields. It fails if something is wrong with
them, for the earliest fault; else it reads `value` and leaves the other integers. -/
def Reads (reader : Reader α) (fields : List Field) (value : List UInt32 → α) : Prop :=
  ∀ bytes,
    match firstFault? fields (integers bytes) with
    | some e => reader bytes = .error e
    | none =>
        ∃ rest, reader bytes = .ok (value (integers bytes), rest)
          ∧ integers rest = (integers bytes).drop fields.length

theorem Reads.pure (a : α) : Reads (pure a) [] fun _ => a := fun bytes => ⟨bytes, rfl, rfl⟩

theorem bind_error {reader : Reader α} {bytes : List UInt8} {e : DecodeError}
    (h : reader bytes = .error e) (next : α → Reader γ) : (reader >>= next) bytes = .error e := by
  show (reader bytes >>= fun read => next read.1 read.2) = _
  rw [h]
  rfl

/-- **Fields are read one after another**, and a fault in an earlier one comes first. -/
theorem Reads.bind {reader : Reader α} {next : α → Reader γ} {fields more : List Field}
    {value : List UInt32 → α} {following : α → List UInt32 → γ} (h : Reads reader fields value)
    (hnext : ∀ a, Reads (next a) more (following a)) :
    Reads (reader >>= next) (fields ++ more) fun values =>
      following (value values) (values.drop fields.length) := by
  intro bytes
  have hbytes := h bytes
  rw [firstFault?_append]
  cases hfault : firstFault? fields (integers bytes) with
  | some e =>
      rw [hfault] at hbytes
      exact bind_error hbytes next
  | none =>
      rw [hfault] at hbytes
      obtain ⟨rest, hread, hrest⟩ := hbytes
      have hmore := hnext (value (integers bytes)) rest
      rw [hrest] at hmore
      rw [Option.none_or, bind_ok hread next, List.length_append, ← List.drop_drop]
      exact hmore

/-- A reader that takes one word and then checks it. -/
theorem reads_checked (field : Field) (check : UInt32 → Reader α) (value : UInt32 → α)
    (hcheck : ∀ v bytes, check v bytes
      = match field.fault? (some v) with
        | some e => .error e
        | none => .ok (value v, bytes)) :
    Reads (word >>= check) [field] fun values => value (values.getD 0 0) := by
  intro bytes
  cases hparse : parse bytes with
  | mk outcome rest =>
      cases outcome with
      | error e =>
          -- there is nothing to check
          obtain ⟨rfl, -⟩ := parse_error hparse
          have hword : word bytes = .error .truncated := by rw [word, hparse]
          rw [integers_of_error hparse]
          exact bind_error hword check
      | ok v =>
          have hword : word bytes = .ok (v, rest) := by rw [word, hparse]
          rw [integers_of_ok hparse, bind_ok hword check, hcheck, firstFault?, List.head?_cons,
            firstFault?, Option.or_none]
          cases field.fault? (some v) with
          | some e => rfl
          | none => exact ⟨rest, rfl, rfl⟩

theorem reads_word : Reads word [.word] fun values => values.getD 0 0 := by
  have h := reads_checked .word Pure.pure id fun _ _ => rfl
  rw [bind_pure] at h
  exact h

theorem reads_signed : Reads signed [.word] fun values => (values.getD 0 0).toInt32 :=
  reads_checked .word (fun v => Pure.pure v.toInt32) UInt32.toInt32 fun _ _ => rfl

theorem reads_byte (name : String) :
    Reads (byte name) [.byte name] fun values => (values.getD 0 0).toUInt8 := by
  refine reads_checked (.byte name) _ UInt32.toUInt8 fun v bytes => ?_
  rw [Field.fault?]
  by_cases h : v.toNat ≤ 255
  · rw [if_pos h, if_pos (Nat.lt_succ_of_le h)]
    rfl
  · rw [if_neg h, if_neg (fun hlt => h (Nat.le_of_lt_succ hlt))]
    rfl

theorem reads_endstop :
    Reads endstop [.link "endstop_oid"] fun values =>
      if (values.getD 0 0).toInt32 < 0 then none else some (values.getD 0 0).toUInt8 := by
  refine reads_checked (.link "endstop_oid") _
    (fun v => if v.toInt32 < 0 then none else some v.toUInt8) fun v bytes => ?_
  rw [Field.fault?]
  by_cases hneg : v.toInt32 < 0
  · rw [if_pos hneg, if_pos (Or.inl hneg), if_pos hneg]
    rfl
  · rw [if_neg hneg]
    by_cases h : v.toNat ≤ 255
    · rw [if_pos (Or.inr h), if_pos (Nat.lt_succ_of_le h), if_neg hneg]
      rfl
    · rw [if_neg (not_or.mpr ⟨hneg, h⟩), if_neg (fun hlt => h (Nat.le_of_lt_succ hlt))]
      rfl

theorem Reads.congr {reader : Reader α} {fields : List Field} {value other : List UInt32 → α}
    (h : Reads reader fields value) (heq : ∀ values, value values = other values) :
    Reads reader fields other := funext heq ▸ h

theorem getD_drop (values : List UInt32) (k : Nat) :
    (values.drop k).getD 0 0 = values.getD k 0 := by
  rw [List.getD_eq_getElem?_getD, List.getD_eq_getElem?_getD, List.getElem?_drop, Nat.add_zero]

theorem reads_configure : Reads configure Request.configureFields Request.configureOf := by
  refine ((reads_byte "oid").bind fun oid => reads_word.bind fun dout => reads_word.bind fun sck =>
    reads_word.bind fun gain => reads_signed.bind fun invert =>
      Reads.pure (Configure.mk oid dout sck gain invert)).congr fun values => ?_
  simp only [List.length_singleton, List.drop_drop, getD_drop]
  rfl

theorem reads_query : Reads query Request.queryFields Request.queryOf := by
  refine ((reads_byte "oid").bind fun oid => reads_word.bind fun enable =>
    reads_endstop.bind fun endstop =>
      Reads.pure (Query.mk oid (enable != 0) endstop)).congr fun values => ?_
  simp only [List.length_singleton, List.drop_drop, getD_drop]
  rfl

/-- What is left does not matter in the end. -/
theorem Reads.run' {reader : Reader α} {fields : List Field} {value : List UInt32 → α}
    (h : Reads reader fields value) (bytes : List UInt8) :
    reader.run' bytes
      = match firstFault? fields (integers bytes) with
        | some e => .error e
        | none => .ok (value (integers bytes)) := by
  have hbytes := h bytes
  show (reader bytes).map Prod.fst = _
  cases hfault : firstFault? fields (integers bytes) with
  | some e =>
      rw [hfault] at hbytes
      rw [hbytes]
      rfl
  | none =>
      rw [hfault] at hbytes
      obtain ⟨rest, hread, -⟩ := hbytes
      rw [hread]
      rfl

end Reader

namespace Request

open Integer

/-- **A body is read as its integers say.** -/
theorem decode_eq_ofIntegers (ids : Ids) (body : List UInt8) :
    decode ids body = ofIntegers ids (integers body) := by
  show (Reader.request ids body).map Prod.fst = _
  cases hparse : parse body with
  | mk outcome rest =>
      cases outcome with
      | error e =>
          obtain ⟨rfl, -⟩ := parse_error hparse
          have hword : Reader.word body = .error .truncated := by rw [Reader.word, hparse]
          rw [integers_of_error hparse, Reader.request, Reader.bind_error hword]
          rfl
      | ok id =>
          have hword : Reader.word body = .ok (id, rest) := by rw [Reader.word, hparse]
          rw [integers_of_ok hparse, Reader.request, Reader.bind_ok hword, ofIntegers]
          -- the id tells which fields are read from what is left
          by_cases hconfigure : id = ids.configure
          · rw [if_pos hconfigure, if_pos hconfigure]
            exact (Reader.reads_configure.bind fun request =>
              Reader.Reads.pure (Request.configure request)).run' rest
          · rw [if_neg hconfigure, if_neg hconfigure]
            by_cases hquery : id = ids.query
            · rw [if_pos hquery, if_pos hquery]
              exact (Reader.reads_query.bind fun request =>
                Reader.Reads.pure (Request.query request)).run' rest
            · rw [if_neg hquery, if_neg hquery]
              rfl

/-! ## Requests that a host writes -/

/-- The integers of the message that configures a converter. -/
def configureValues (ids : Ids) (request : Configure) : List UInt32 :=
  [ids.configure, request.oid.toUInt32, request.dout, request.sck, request.gain,
    request.invert.toUInt32]

/-- The integers of the message that starts or stops sampling. -/
def queryValues (ids : Ids) (oid : UInt8) (enable : UInt32) (endstop : Int32) : List UInt32 :=
  [ids.query, oid.toUInt32, enable, endstop.toUInt32]

/-- The endstop that a number stands for. -/
def endstopOf (endstop : Int32) : Option UInt8 :=
  if endstop < 0 then none else some endstop.toUInt32.toUInt8

/-- A number that fits in a byte does so as a word, too. -/
theorem toNat_toUInt32_le {endstop : Int32} (hneg : ¬endstop < 0) (h : endstop ≤ 255) :
    endstop.toUInt32.toNat ≤ 255 := by
  have hbits := toInt_toInt32 endstop.toUInt32
  have hlow : 0 ≤ endstop.toInt := Int.not_lt.mp fun hlt => hneg (Int32.lt_iff_toInt_lt.mpr hlt)
  have hhigh : endstop.toInt ≤ 255 := Int32.le_iff_toInt_le.mp h
  have hlt := endstop.toUInt32.toNat_lt
  rw [Int32.toInt32_toUInt32] at hbits
  split at hbits <;> omega

/-- There is nothing wrong with the fields of a `Configure`. -/
theorem ofIntegers_configureValues (ids : Ids) (request : Configure) (more : List UInt32) :
    ofIntegers ids (configureValues ids request ++ more) = .ok (.configure request) := by
  have hoid : request.oid.toNat ≤ 255 := Nat.le_of_lt_succ request.oid.toNat_lt
  simp [configureValues, ofIntegers, configureFields, firstFault?, Field.fault?, hoid,
    configureOf]

/-- Nor with those of a query whose endstop fits. -/
theorem ofIntegers_queryValues {ids : Ids} (hids : ids.query ≠ ids.configure) (oid : UInt8)
    (enable : UInt32) {endstop : Int32} (h : endstop < 0 ∨ endstop ≤ 255) (more : List UInt32) :
    ofIntegers ids (queryValues ids oid enable endstop ++ more)
      = .ok (.query ⟨oid, enable != 0, endstopOf endstop⟩) := by
  have hoid : oid.toNat ≤ 255 := Nat.le_of_lt_succ oid.toNat_lt
  have hlink : endstop < 0 ∨ endstop.toUInt32.toNat ≤ 255 := by
    by_cases hneg : endstop < 0
    · exact Or.inl hneg
    · exact Or.inr (toNat_toUInt32_le hneg (h.resolve_left hneg))
  simp [queryValues, ofIntegers, hids, queryFields, firstFault?, Field.fault?, hoid, hlink,
    queryOf, endstopOf]

/-- A `Configure` that was written is read as it was. -/
theorem decode_configureValues (ids : Ids) (request : Configure) :
    decode ids ((configureValues ids request).flatMap encode) = .ok (.configure request) := by
  have hintegers := integers_flatMap_encode (configureValues ids request) []
  rw [List.append_nil] at hintegers
  rw [decode_eq_ofIntegers, hintegers, ofIntegers_configureValues]

/-- So is a query whose endstop fits. -/
theorem decode_queryValues {ids : Ids} (hids : ids.query ≠ ids.configure) (oid : UInt8)
    (enable : UInt32) {endstop : Int32} (h : endstop < 0 ∨ endstop ≤ 255) :
    decode ids ((queryValues ids oid enable endstop).flatMap encode)
      = .ok (.query ⟨oid, enable != 0, endstopOf endstop⟩) := by
  have hintegers := integers_flatMap_encode (queryValues ids oid enable endstop) []
  rw [List.append_nil] at hintegers
  rw [decode_eq_ofIntegers, hintegers, ofIntegers_queryValues hids oid enable h]

/-- Up to twelve integers fit in a message, and they are what is read first. -/
theorem exists_body {values : List UInt32} (hlength : values.length ≤ 12)
    (trailing : List UInt8) :
    ∃ buffer, (Buffer.empty maxMessageSize).writeFields values = .ok buffer
      ∧ integers (buffer.bytes ++ trailing) = values ++ integers trailing := by
  have hle := length_flatMap_encode_le values
  have room : (Buffer.empty maxMessageSize).bytes.length + (values.flatMap encode).length
      ≤ maxMessageSize := by
    rw [Buffer.empty, List.length_nil, maxMessageSize]
    rw [maxLength] at hle
    omega
  obtain ⟨buffer, hok, hbytes⟩ := Buffer.writeFields_of_room _ values room
  refine ⟨buffer, hok, ?_⟩
  rw [hbytes]
  exact integers_flatMap_encode values trailing

/-- How requests are read. Every body is read as the integers at its front say: the request and
the failure depend on nothing else. So the host can send every request that there is: with the
integers of a message written one after another, and anything after them, it is read as the one
that was sent. Only if both messages have the same id, no query can be sent. -/
theorem decode_follows_grammar (ids : Ids) :
    (∀ body, decode ids body = ofIntegers ids (integers body))
      ∧ (∀ request trailing,
          ∃ buffer,
            (Buffer.empty maxMessageSize).writeFields (configureValues ids request) = .ok buffer
              ∧ decode ids (buffer.bytes ++ trailing) = .ok (.configure request))
      ∧ (ids.query ≠ ids.configure →
          ∀ oid enable endstop trailing, endstop < 0 ∨ endstop ≤ 255 →
            ∃ buffer,
              (Buffer.empty maxMessageSize).writeFields (queryValues ids oid enable endstop)
                  = .ok buffer
                ∧ decode ids (buffer.bytes ++ trailing)
                  = .ok (.query ⟨oid, enable != 0, endstopOf endstop⟩)) := by
  refine ⟨decode_eq_ofIntegers ids, fun request trailing => ?_,
    fun hids oid enable endstop trailing hendstop => ?_⟩
  · have hlength : (configureValues ids request).length ≤ 12 := Nat.le_of_ble_eq_true rfl
    obtain ⟨buffer, hok, hintegers⟩ := exists_body hlength trailing
    refine ⟨buffer, hok, ?_⟩
    rw [decode_eq_ofIntegers, hintegers, ofIntegers_configureValues]
  · have hlength : (queryValues ids oid enable endstop).length ≤ 12 := Nat.le_of_ble_eq_true rfl
    obtain ⟨buffer, hok, hintegers⟩ := exists_body hlength trailing
    refine ⟨buffer, hok, ?_⟩
    rw [decode_eq_ofIntegers, hintegers, ofIntegers_queryValues hids _ _ hendstop]

/-- The greatest endstop there is, and the least number that stands for none, before a stray
byte. -/
theorem decode_follows_grammar_bounds :
    Ids.standard.query ≠ Ids.standard.configure
      ∧ (∃ buffer,
          (Buffer.empty maxMessageSize).writeFields [71, 7, 2, 255] = .ok buffer
            ∧ decode .standard (buffer.bytes ++ [0x80]) = .ok (.query ⟨7, true, some 255⟩))
      ∧ ∃ buffer,
          (Buffer.empty maxMessageSize).writeFields [71, 255, 0, 0x80000000] = .ok buffer
            ∧ decode .standard (buffer.bytes ++ [0x80]) = .ok (.query ⟨255, false, none⟩) := by
  have hids : Ids.standard.query ≠ Ids.standard.configure := by decide
  obtain ⟨-, -, hquery⟩ := decode_follows_grammar .standard
  exact ⟨hids, hquery hids 7 2 255 [0x80] (Or.inr (by decide)),
    hquery hids 255 0 (-2147483648) [0x80] (Or.inl (by decide))⟩

end Request

end WeighScale.Wire
