import WeighScale.Wire.Buffer
import WeighScale.Proofs.Wire.Groups

set_option autoImplicit false

/-! # Integers in a stream

Integers are written one after another without anything between them, so a reader has to find
the end of each by itself. `parse_encode` says that it does: what follows an encoded word is
left untouched, whatever it is. The round trip of a whole stream is an induction from there.

What bytes are read as is known from their groups (`Integer.parse_whole`), so it is left to see
that the groups `encode` writes are those of the word:

* `number_groupsFrom`: what groups `k` and below of a word stand for, the top one with its sign;
* `ofInt_number_groupsFrom`: with as many groups as `encode` chooses, that is the word itself.
-/

namespace WeighScale.Wire

namespace Integer

/-! ## The bytes of a group -/

theorem toNat_group (v : UInt32) (k : Nat) : (group v k).toNat = v.toNat / 128 ^ k % 128 := by
  rw [group, UInt8.toNat_ofNat', Nat.pow_eq]
  omega

theorem toNat_group_add (v : UInt32) (k : Nat) :
    (group v k + 128).toNat = v.toNat / 128 ^ k % 128 + 128 := by
  rw [UInt8.toNat_add, toNat_group]
  simp only [UInt8.reduceToNat]
  omega

@[simp] theorem continues_group (v : UInt32) (k : Nat) : continues (group v k) = false := by
  simp only [continues, toNat_group, decide_eq_false_iff_not]
  omega

@[simp] theorem continues_group_add (v : UInt32) (k : Nat) :
    continues (group v k + 128) = true := by
  rw [continues, toNat_group_add, decide_eq_true_iff]
  omega

/-! ## Reading what was written -/

theorem whole_groupsFrom (v : UInt32) (k : Nat) : Whole (groupsFrom v k) := by
  induction k with
  | zero => exact .last _ (continues_group v 0)
  | succ k ih => exact .next _ _ (continues_group_add v (k + 1)) ih

theorem base128_groupsFrom (v : UInt32) (k : Nat) :
    base128 (groupsFrom v k) = v.toNat % 128 ^ (k + 1) := by
  induction k with
  | zero => simp [groupsFrom, base128_cons, toNat_group]
  | succ k ih =>
      rw [groupsFrom, base128_cons, ih, length_groupsFrom, toNat_group_add,
        Nat.mod_pow_succ (k := k + 1), Nat.add_mod_right, Nat.mod_mod]
      ring

/-- Groups `k` and below of a word stand for its lowest `7 (k + 1)` bits, or for `128 ^ (k + 1)` less
than that if the top one is 96 or more. -/
theorem number_groupsFrom (v : UInt32) (k : Nat) :
    number (groupsFrom v k)
      = (v.toNat % 128 ^ (k + 1) : Nat)
        - if 96 ≤ v.toNat / 128 ^ k % 128 then 128 ^ (k + 1) else 0 := by
  rw [← base128_groupsFrom]
  cases k with
  | zero => rw [groupsFrom, number_cons, toNat_group, Nat.mod_mod, List.length_nil]
  | succ k =>
      rw [groupsFrom, number_cons, toNat_group_add, Nat.add_mod_right, Nat.mod_mod,
        length_groupsFrom]

/-! ## The number of groups is right -/

theorem toInt_toInt32 (v : UInt32) :
    v.toInt32.toInt = if v.toNat < 2 ^ 31 then (v.toNat : Int) else (v.toNat : Int) - 2 ^ 32 := by
  rw [← Int32.toInt_toBitVec, UInt32.toBitVec_toInt32, BitVec.toInt_eq_toNat_cond,
    UInt32.toNat_toBitVec]
  split <;> split <;> omega

theorem fits_iff {n : Nat} {v : UInt32} :
    Fits n v ↔ -(2 ^ (7 * n - 2)) ≤ v.toInt32.toInt ∧ v.toInt32.toInt < 3 * 2 ^ (7 * n - 2) :=
  Iff.rfl

/-- With a top group `k` that has room for the sign, or with all five groups, the number they stand
for is the word. Below five groups, a word that is negative has a top group of 96 or more; with
five the top group has four bits and never counts as negative. -/
theorem ofInt_number_groupsFrom {v : UInt32} {k : Nat} (h : k = 4 ∨ k ≤ 3 ∧ Fits (k + 1) v) :
    UInt32.ofInt (number (groupsFrom v k)) = v := by
  apply UInt32.toNat_inj.mp
  have hlt : v.toNat < 2 ^ 32 := v.toNat_lt
  have hword := toNat_ofInt (number (groupsFrom v k))
  generalize (UInt32.ofInt (number (groupsFrom v k))).toNat = x at hword ⊢
  rw [number_groupsFrom] at hword
  rcases h with rfl | ⟨hk, hfits⟩
  · -- all five groups: the top one holds the four bits above bit 28
    split at hword <;> omega
  · -- fewer groups: the bounds on the word decide which side of 96 the top group is on
    obtain ⟨hlow, hhigh⟩ := fits_iff.mp hfits
    rw [toInt_toInt32] at hlow hhigh
    interval_cases k <;> split at hword <;> split at hlow <;> omega

/-- Enough groups of a word are read as the word, whatever follows them. -/
theorem parse_groupsFrom {v : UInt32} {k : Nat} (h : k = 4 ∨ k ≤ 3 ∧ Fits (k + 1) v)
    (rest : List UInt8) : parse (groupsFrom v k ++ rest) = (.ok v, rest) := by
  rw [parse_whole (whole_groupsFrom v k), ofInt_number_groupsFrom h]

theorem fits_groupCount (v : UInt32) :
    groupCount v = maxLength ∨ groupCount v < maxLength ∧ Fits (groupCount v) v := by
  unfold groupCount
  split_ifs with h1 h2 h3 h4
  · exact Or.inr ⟨by decide, h1⟩
  · exact Or.inr ⟨by decide, h2⟩
  · exact Or.inr ⟨by decide, h3⟩
  · exact Or.inr ⟨by decide, h4⟩
  · exact Or.inl rfl

/-- **What follows an encoded word is left untouched.** Reading gives the word back and stops
right after its last byte. -/
theorem parse_encode (v : UInt32) (rest : List UInt8) :
    parse (encode v ++ rest) = (.ok v, rest) := by
  have hpos := groupCount_pos v
  have hfits : groupCount v - 1 = 4
      ∨ groupCount v - 1 ≤ 3 ∧ Fits (groupCount v - 1 + 1) v := by
    rw [Nat.sub_add_cancel hpos]
    rcases fits_groupCount v with h | ⟨hlt, hfits⟩
    · exact Or.inl (by rw [h]; rfl)
    · exact Or.inr ⟨by unfold maxLength at hlt; omega, hfits⟩
  exact parse_groupsFrom hfits rest

/-! ## Streams -/

theorem encode_ne_nil (v : UInt32) : encode v ≠ [] := by
  intro h
  have hlen := length_encode v
  have hpos := groupCount_pos v
  rw [h, List.length_nil] at hlen
  omega

theorem flatMap_encode_eq_nil {values : List UInt32} (h : values.flatMap encode = []) :
    values = [] := by
  cases values with
  | nil => rfl
  | cons v values =>
      rw [List.flatMap_cons, List.append_eq_nil_iff] at h
      exact absurd h.1 (encode_ne_nil v)

theorem length_flatMap_encode_le (values : List UInt32) :
    (values.flatMap encode).length ≤ maxLength * values.length := by
  induction values with
  | nil => exact Nat.zero_le _
  | cons v values ih =>
      have hle : (encode v).length ≤ maxLength := (length_encode v).trans_le (groupCount_le v)
      rw [List.flatMap_cons, List.length_append, List.length_cons, Nat.mul_succ]
      omega

/-- What there is to read in a stream that holds words and then `trailing`: each word, with the
bytes left after it, which are those of the later words and `trailing`. -/
def readBack : List UInt32 → List UInt8 → List (UInt32 × List UInt8)
  | [], _ => []
  | v :: later, trailing =>
      (v, later.flatMap encode ++ trailing) :: readBack later trailing

theorem map_fst_readBack (values : List UInt32) (trailing : List UInt8) :
    (readBack values trailing).map Prod.fst = values := by
  induction values with
  | nil => rfl
  | cons v values ih => rw [readBack, List.map_cons, ih]

/-- Reading goes on after a value, unless the bytes are used up, in which case nothing more
may be wanted. -/
theorem scanAtMost_succ {n : Nat} {bytes rest : List UInt8} {v : UInt32}
    (h : parse bytes = (.ok v, rest)) (hn : rest = [] → n = 0) :
    scanAtMost (n + 1) bytes
      = ⟨(v, rest) :: (scanAtMost n rest).values, (scanAtMost n rest).stop,
          (scanAtMost n rest).rest⟩ := by
  rw [scanAtMost, h]
  cases rest with
  | nil => rw [hn rfl]; rfl
  | cons b rest => rfl

/-- Reading as many integers as were written gives the words back, each taking the bytes of
its own encoding and no others. -/
theorem scanAtMost_flatMap_encode (values : List UInt32) (trailing : List UInt8) :
    scanAtMost values.length (values.flatMap encode ++ trailing)
      = ⟨readBack values trailing, none, trailing⟩ := by
  induction values with
  | nil => rfl
  | cons v values ih =>
      have hparse : parse ((v :: values).flatMap encode ++ trailing)
          = (.ok v, values.flatMap encode ++ trailing) := by
        rw [List.flatMap_cons, List.append_assoc, parse_encode]
      -- the bytes are never used up while a word is still to come
      have hstop : values.flatMap encode ++ trailing = [] → values.length = 0 := by
        intro hnil
        rw [flatMap_encode_eq_nil (List.append_eq_nil_iff.mp hnil).1, List.length_nil]
      rw [List.length_cons, scanAtMost_succ hparse hstop, ih, readBack]

end Integer

namespace Buffer

open Integer

variable {capacity : Nat}

/-- Words for which there is room are all written, one encoding after another. -/
theorem writeFields_of_room (buffer : Buffer capacity) (values : List UInt32)
    (room : buffer.bytes.length + (values.flatMap encode).length ≤ capacity) :
    ∃ written, buffer.writeFields values = .ok written
      ∧ written.bytes = buffer.bytes ++ values.flatMap encode := by
  induction values generalizing buffer with
  | nil => exact ⟨buffer, rfl, by simp⟩
  | cons v values ih =>
      rw [List.flatMap_cons, List.length_append] at room
      have hok : (buffer.write (encode v)).1 = .ok () :=
        (write_ok_iff buffer (encode v)).mpr (by omega)
      have hbytes : (buffer.write (encode v)).2.bytes = buffer.bytes ++ encode v := by
        rw [bytes_write, List.take_of_length_le (by omega)]
      obtain ⟨written, hwritten, hall⟩ := ih (buffer.write (encode v)).2 (by
        rw [hbytes, List.length_append]
        omega)
      refine ⟨written, ?_, ?_⟩
      · rw [writeFields, writeInteger, ← hwritten,
          ← Prod.mk.eta (p := buffer.write (encode v)), hok]
      · rw [hall, hbytes, List.flatMap_cons, List.append_assoc]

/-- **A stream is read back as it was written.** Words written to a buffer with room for them
are read back in order, whatever follows them: each reading takes exactly the bytes of its own
word, and what follows the last is left. Words that stand for signed numbers give those
numbers back. -/
theorem scan_writeFields (capacity : Nat) (values : List UInt32) (trailing : List UInt8)
    (room : (values.flatMap encode).length ≤ capacity) :
    ∃ buffer, (Buffer.empty capacity).writeFields values = .ok buffer
      ∧ buffer.bytes = values.flatMap encode
      ∧ scanAtMost values.length (buffer.bytes ++ trailing)
          = ⟨readBack values trailing, none, trailing⟩
      ∧ ∀ signed : List Int32, values = signed.map Int32.toUInt32 →
          (scanAtMost values.length (buffer.bytes ++ trailing)).values.map
            (fun read => read.1.toInt32) = signed := by
  obtain ⟨buffer, hok, hbytes⟩ := writeFields_of_room (Buffer.empty capacity) values (by
    simpa [Buffer.empty] using room)
  have hscan : scanAtMost values.length (buffer.bytes ++ trailing)
      = ⟨readBack values trailing, none, trailing⟩ := by
    rw [hbytes, Buffer.empty, List.nil_append, scanAtMost_flatMap_encode]
  refine ⟨buffer, hok, hbytes, hscan, ?_⟩
  rintro signed rfl
  calc (scanAtMost _ (buffer.bytes ++ trailing)).values.map (fun read => read.1.toInt32)
      = ((readBack (signed.map Int32.toUInt32) trailing).map Prod.fst).map UInt32.toInt32 := by
        rw [hscan, List.map_map]
        rfl
    _ = signed := by
        rw [map_fst_readBack, List.map_map]
        exact List.map_id' signed

/-- The least and the greatest number of four groups and one of five, before a stray byte. -/
theorem scan_writeFields_bounds :
    ∃ buffer, (Buffer.empty 14).writeFields [0xfc000000, 0xbffffff, 0x80000000] = .ok buffer
      ∧ (scanAtMost 3 (buffer.bytes ++ [0x80])).values.map (fun read => read.1.toInt32)
          = [-67108864, 201326591, -2147483648]
      ∧ (scanAtMost 3 (buffer.bytes ++ [0x80])).rest = [0x80] := by
  obtain ⟨buffer, hok, -, hscan, hsigned⟩ :=
    scan_writeFields 14 [0xfc000000, 0xbffffff, 0x80000000] [0x80] (by decide)
  refine ⟨buffer, hok, hsigned [-67108864, 201326591, -2147483648] (by decide), ?_⟩
  exact congrArg Scan.rest hscan

end Buffer

end WeighScale.Wire
