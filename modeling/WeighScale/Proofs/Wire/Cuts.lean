import WeighScale.Proofs.Wire.Grammar

set_option autoImplicit false

/-! # Cut messages

A body may be cut anywhere on its way: within the id, within a field or between two fields. None
of its parts is then taken for another message. A reader finds the end of what it reads by itself
(`SelfDelimiting`): the bytes up to there settle what is read, whatever follows them, and with
fewer of them there is nothing but the end of the bytes to report. In particular a value that is
cut short is never checked, so no part of a message is out of range.

Integers are read that way (`selfDelimiting_word`), and reading one thing after another keeps it so
(`SelfDelimiting.bind`). Checks read nothing.
-/

namespace WeighScale.Wire

namespace Integer

/-- Reads one integer, of whose first byte `first` tells what it counts for. -/
def parseWith (first : UInt8 → UInt32) : List UInt8 → Except DecodeError UInt32 × List UInt8
  | [] => (.error .truncated, [])
  | b :: bytes => if continues b then parseRest (first b) bytes else (.ok (first b), bytes)

theorem parse_eq_parseWith : parse = parseWith leading := by
  funext bytes
  cases bytes <;> rfl

/-- What comes after the first group is read the same way. -/
theorem parseRest_eq_parseWith (acc : UInt32) :
    parseRest acc = parseWith fun b => acc * 128 + payload b := by
  funext bytes
  cases bytes with
  | nil => rfl
  | cons b bytes => rw [parseRest, parseWith]

/-- **An integer ends with the first byte that no other follows.** -/
theorem parseWith_ok {first : UInt8 → UInt32} {v : UInt32} {bytes rest : List UInt8}
    (h : parseWith first bytes = (.ok v, rest)) :
    ∃ used, bytes = used ++ rest
      ∧ (∀ more, parseWith first (used ++ more) = (.ok v, more))
      ∧ ∀ n < used.length, parseWith first (used.take n) = (.error .truncated, []) := by
  induction bytes generalizing first with
  | nil => cases h
  | cons b bytes ih =>
      rw [parseWith, parseRest_eq_parseWith] at h
      by_cases hcontinues : continues b
      · rw [if_pos hcontinues] at h
        obtain ⟨used, rfl, hwhole, hcut⟩ := ih h
        refine ⟨b :: used, rfl, ?_, ?_⟩
        · intro more
          rw [List.cons_append, parseWith, if_pos hcontinues, parseRest_eq_parseWith, hwhole]
        · intro n hn
          cases n with
          | zero => rfl
          | succ n =>
              rw [List.take_succ_cons, parseWith, if_pos hcontinues, parseRest_eq_parseWith]
              exact hcut n (Nat.lt_of_succ_lt_succ hn)
      · rw [if_neg hcontinues] at h
        cases h
        refine ⟨[b], rfl, ?_, ?_⟩
        · intro more
          rw [List.singleton_append, parseWith, if_neg hcontinues]
        · intro n hn
          obtain rfl : n = 0 := Nat.lt_one_iff.mp hn
          rfl

end Integer

namespace Reader

variable {α γ : Type}

/-- The reader reads `a` from these bytes and needs all of them: it leaves whatever follows, and
if they are cut short it comes to their end. -/
structure Takes (reader : Reader α) (used : List UInt8) (a : α) : Prop where
  whole : ∀ more, reader (used ++ more) = .ok (a, more)
  cut : ∀ n < used.length, reader (used.take n) = .error .truncated

/-- The reader finds the end of what it reads by itself. -/
def SelfDelimiting (reader : Reader α) : Prop :=
  ∀ bytes a rest, reader bytes = .ok (a, rest) → ∃ used, bytes = used ++ rest ∧ Takes reader used a

/-! ## One thing after another -/

/-- A cut is either in the first part or, with the first part complete, in the second. -/
theorem Takes.bind {reader : Reader α} {next : α → Reader γ} {used more : List UInt8} {a : α}
    {c : γ} (h : Takes reader used a) (hnext : Takes (next a) more c) :
    Takes (reader >>= next) (used ++ more) c where
  whole trailing := by
    rw [List.append_assoc, bind_ok (h.whole _) next, hnext.whole]
  cut n hn := by
    rw [List.length_append] at hn
    by_cases hfirst : n < used.length
    · rw [List.take_append_of_le_length (Nat.le_of_lt hfirst)]
      exact bind_error (h.cut n hfirst) next
    · have hsplit : (used ++ more).take n = used ++ more.take (n - used.length) := by
        rw [List.take_append, List.take_of_length_le (Nat.le_of_not_lt hfirst)]
      rw [hsplit, bind_ok (h.whole _) next]
      exact hnext.cut (n - used.length) (by omega)

theorem exists_of_bind_ok {reader : Reader α} {next : α → Reader γ} {bytes rest : List UInt8}
    {c : γ} (h : (reader >>= next) bytes = .ok (c, rest)) :
    ∃ a middle, reader bytes = .ok (a, middle) ∧ next a middle = .ok (c, rest) := by
  cases hread : reader bytes with
  | error e =>
      rw [bind_error hread next] at h
      cases h
  | ok read =>
      obtain ⟨a, middle⟩ := read
      rw [bind_ok hread next] at h
      exact ⟨a, middle, rfl, h⟩

namespace SelfDelimiting

theorem pure (a : α) : SelfDelimiting (pure a : Reader α) := by
  intro bytes _ _ h
  cases h
  refine ⟨[], rfl, fun _ => rfl, ?_⟩
  intro n hn
  exact absurd hn (Nat.not_lt_zero n)

theorem throw (e : DecodeError) : SelfDelimiting (throw e : Reader α) := by
  intro _ _ _ h
  cases h

theorem ite {p : Prop} [Decidable p] {reader other : Reader α} (h : SelfDelimiting reader)
    (hother : SelfDelimiting other) : SelfDelimiting (if p then reader else other) := by
  split
  · exact h
  · exact hother

/-- **What is read in parts ends where its last part ends.** -/
theorem bind {reader : Reader α} {next : α → Reader γ} (h : SelfDelimiting reader)
    (hnext : ∀ a, SelfDelimiting (next a)) : SelfDelimiting (reader >>= next) := by
  intro bytes c rest hread
  obtain ⟨a, middle, hfirst, hlast⟩ := exists_of_bind_ok hread
  obtain ⟨used, rfl, htakes⟩ := h bytes a middle hfirst
  obtain ⟨more, rfl, hmore⟩ := hnext a middle c rest hlast
  exact ⟨used ++ more, (List.append_assoc ..).symm, htakes.bind hmore⟩

end SelfDelimiting

/-! ## The readers of messages -/

theorem word_of_parse {bytes rest : List UInt8} {outcome : Except DecodeError UInt32}
    (h : Integer.parse bytes = (outcome, rest)) : word bytes = outcome.map fun v => (v, rest) := by
  rw [word, h]
  cases outcome <;> rfl

theorem selfDelimiting_word : SelfDelimiting word := by
  intro bytes v rest h
  have hparse : Integer.parseWith Integer.leading bytes = (.ok v, rest) := by
    rw [word, Integer.parse_eq_parseWith] at h
    split at h
    · next heq => cases h; exact heq
    · cases h
  obtain ⟨used, rfl, hwhole, hcut⟩ := Integer.parseWith_ok hparse
  rw [← Integer.parse_eq_parseWith] at hwhole hcut
  exact ⟨used, rfl, fun more => word_of_parse (hwhole more), fun n hn => word_of_parse (hcut n hn)⟩

theorem selfDelimiting_signed : SelfDelimiting signed :=
  selfDelimiting_word.bind fun v => .pure v.toInt32

/-- A value that is out of range was read to its end. -/
theorem selfDelimiting_byte (field : String) : SelfDelimiting (byte field) :=
  selfDelimiting_word.bind fun v => (SelfDelimiting.pure v.toUInt8).ite (.throw _)

theorem selfDelimiting_endstop : SelfDelimiting endstop :=
  selfDelimiting_word.bind fun v =>
    (SelfDelimiting.pure none).ite ((SelfDelimiting.pure (some v.toUInt8)).ite (.throw _))

theorem selfDelimiting_configure : SelfDelimiting configure := by
  refine (selfDelimiting_byte "oid").bind fun oid => ?_
  refine selfDelimiting_word.bind fun dout => ?_
  refine selfDelimiting_word.bind fun sck => ?_
  refine selfDelimiting_word.bind fun gain => ?_
  exact selfDelimiting_signed.bind fun invert => .pure _

theorem selfDelimiting_query : SelfDelimiting query := by
  refine (selfDelimiting_byte "oid").bind fun oid => ?_
  refine selfDelimiting_word.bind fun enable => ?_
  exact selfDelimiting_endstop.bind fun endstop => .pure _

theorem selfDelimiting_request (ids : Ids) : SelfDelimiting (request ids) := by
  refine selfDelimiting_word.bind fun id => SelfDelimiting.ite ?_ (SelfDelimiting.ite ?_ (.throw _))
  · exact selfDelimiting_configure.bind fun request => .pure _
  · exact selfDelimiting_query.bind fun request => .pure _

theorem selfDelimiting_reading (ids : Ids) : SelfDelimiting (reading ids) := by
  have hfields : SelfDelimiting (do
      let oid ← byte "oid"
      let clock ← word
      let value ← signed
      return ({ oid, clock, value } : Reading)) := by
    refine (selfDelimiting_byte "oid").bind fun oid => ?_
    refine selfDelimiting_word.bind fun clock => ?_
    exact selfDelimiting_signed.bind fun value => .pure _
  refine selfDelimiting_word.bind fun id => ?_
  by_cases hid : id = ids.reading
  · rw [if_neg (not_not_intro hid)]
    exact hfields
  · rw [if_pos hid]
    exact SelfDelimiting.throw (.unknownMessage id)

end Reader

/-! ## Bodies -/

/-- The first `size` bytes of the body settle that it holds `value`: with so many of its bytes it
is read as `value`, whatever follows them, and with fewer it is cut short. -/
structure SettledBy {α : Type} (decode : List UInt8 → Except DecodeError α) (body : List UInt8)
    (value : α) (size : Nat) : Prop where
  size_le : size ≤ body.length
  settled : ∀ n, size ≤ n → ∀ more, decode (body.take n ++ more) = .ok value
  cut : ∀ n < size, decode (body.take n) = .error .truncated

theorem Reader.SelfDelimiting.settledBy {α : Type} {reader : Reader α} (h : SelfDelimiting reader)
    {body : List UInt8} {value : α} (hread : reader.run' body = .ok value) :
    ∃ size, SettledBy reader.run' body value size := by
  have hfirst (bytes : List UInt8) : reader.run' bytes = (reader bytes).map Prod.fst := rfl
  rw [hfirst] at hread
  cases hbody : reader body with
  | error e =>
      rw [hbody] at hread
      cases hread
  | ok read =>
      obtain ⟨a, rest⟩ := read
      rw [hbody] at hread
      cases hread
      obtain ⟨used, rfl, htakes⟩ := h body a rest hbody
      refine ⟨used.length, ?_, ?_, ?_⟩
      · rw [List.length_append]
        exact Nat.le_add_right ..
      · intro n hn more
        rw [List.take_append, List.take_of_length_le hn, List.append_assoc, hfirst, htakes.whole]
        rfl
      · intro n hn
        rw [List.take_append_of_le_length (Nat.le_of_lt hn), hfirst, htakes.cut n hn]
        rfl

/-- **A cut message is never taken for another.** A body that holds a request or a reading does so
from some byte on: with that many of its bytes, and whatever follows them, it is read as the same,
and with fewer it is reported as cut short and as nothing else. -/
theorem settled_or_truncated (ids : Ids) (body : List UInt8) :
    (∀ request, Request.decode ids body = .ok request →
        ∃ size, SettledBy (Request.decode ids) body request size)
      ∧ ∀ reading, Reading.decode ids body = .ok reading →
          ∃ size, SettledBy (Reading.decode ids) body reading size :=
  ⟨fun _ hread => (Reader.selfDelimiting_request ids).settledBy hread,
    fun _ hread => (Reader.selfDelimiting_reading ids).settledBy hread⟩

/-- A request and a reading, each with integers of more than one byte and before a stray byte. -/
theorem settled_or_truncated_stray :
    Request.decode .standard [70, 7, 0x81, 0x00, 5, 1, 0x7f, 0x99]
        = .ok (.configure ⟨7, 128, 5, 1, -1⟩)
      ∧ (∃ size, SettledBy (Request.decode .standard) [70, 7, 0x81, 0x00, 5, 1, 0x7f, 0x99]
          (.configure ⟨7, 128, 5, 1, -1⟩) size)
      ∧ Reading.decode .standard [72, 3, 0x81, 0x48, 0xfc, 0x80, 0x80, 0x00, 0x46]
          = .ok ⟨3, 200, -8388608⟩
      ∧ ∃ size, SettledBy (Reading.decode .standard)
          [72, 3, 0x81, 0x48, 0xfc, 0x80, 0x80, 0x00, 0x46] ⟨3, 200, -8388608⟩ size := by
  have hrequest : Request.decode .standard [70, 7, 0x81, 0x00, 5, 1, 0x7f, 0x99]
      = .ok (.configure ⟨7, 128, 5, 1, -1⟩) := by decide
  have hreading : Reading.decode .standard [72, 3, 0x81, 0x48, 0xfc, 0x80, 0x80, 0x00, 0x46]
      = .ok ⟨3, 200, -8388608⟩ := by decide
  exact ⟨hrequest, (settled_or_truncated .standard _).1 _ hrequest, hreading,
    (settled_or_truncated .standard _).2 _ hreading⟩

end WeighScale.Wire
