import WeighScale.Wire.Error

set_option autoImplicit false

/-! # Variable-length integers

Every field of a message is a 32-bit word, written in groups of seven bits with the most
significant group first. Bit 7 of a byte says that another byte follows. A signed field is
written as the word with the same bits, and small negative numbers stay short: a first group
of 96 or more stands for itself less 128.

With `n` groups the signed values from `-2 ^ (7 n - 2)` to `3 * 2 ^ (7 n - 2) - 1` can be
written (`Fits`); `encode` takes the least number of groups that will do, which is at most
five. `parse` reads any string of groups, however long, and keeps the low 32 bits.

* `parse_length_lt`: a value read takes at least one byte.
* `parse_error`: reading fails only at the end of the bytes, with nothing left over.
-/

namespace WeighScale.Wire.Integer

/-! ## Writing -/

/-- The greatest number of bytes that a word takes. -/
def maxLength : Nat := 5

/-- `v`, read as a signed number, is among those that `n` groups can carry: of the `7 n` bits
three quarters of the range are positive numbers and one quarter is negative ones. -/
def Fits (n : Nat) (v : UInt32) : Prop :=
  -(Int.pow 2 (7 * n - 2)) ≤ v.toInt32.toInt ∧ v.toInt32.toInt < 3 * Int.pow 2 (7 * n - 2)

instance (n : Nat) (v : UInt32) : Decidable (Fits n v) :=
  inferInstanceAs (Decidable (_ ∧ _))

/-- The number of groups that `v` is written with. -/
def groupCount (v : UInt32) : Nat :=
  if Fits 1 v then 1
  else if Fits 2 v then 2
  else if Fits 3 v then 3
  else if Fits 4 v then 4
  else maxLength

/-- Group `k` of `v`, the least significant being group `0`. -/
def group (v : UInt32) (k : Nat) : UInt8 := UInt8.ofNat (v.toNat / Nat.pow 128 k % 128)

/-- Groups `k` down to `0` of `v`, each but the last marked as followed by another. -/
def groupsFrom (v : UInt32) : Nat → List UInt8
  | 0 => [group v 0]
  | k + 1 => (group v (k + 1) + 128) :: groupsFrom v k

/-- The bytes that `v` is written as. -/
def encode (v : UInt32) : List UInt8 := groupsFrom v (groupCount v - 1)

theorem length_groupsFrom (v : UInt32) (k : Nat) : (groupsFrom v k).length = k + 1 := by
  induction k with
  | zero => rfl
  | succ k ih => simp [groupsFrom, ih]

theorem groupCount_pos (v : UInt32) : 1 ≤ groupCount v := by
  unfold groupCount maxLength
  repeat' split
  all_goals omega

theorem groupCount_le (v : UInt32) : groupCount v ≤ maxLength := by
  unfold groupCount maxLength
  repeat' split
  all_goals omega

theorem length_encode (v : UInt32) : (encode v).length = groupCount v := by
  have h := groupCount_pos v
  rw [encode, length_groupsFrom]
  omega

/-! ## Reading -/

/-- The seven bits that a byte carries. -/
def payload (b : UInt8) : UInt32 := UInt32.ofNat (b.toNat % 128)

/-- Whether another byte follows `b` in the same integer. -/
def continues (b : UInt8) : Bool := decide (128 ≤ b.toNat)

/-- What the first byte of an integer counts for: a payload of 96 or more is negative. -/
def leading (b : UInt8) : UInt32 :=
  if 96 ≤ b.toNat % 128 then payload b - 128 else payload b

/-- Reads the groups after the first, onto the value `acc` of those before. Bits that leave
the word at the top are lost. -/
def parseRest (acc : UInt32) : List UInt8 → Except DecodeError UInt32 × List UInt8
  | [] => (.error .truncated, [])
  | b :: bytes =>
      if continues b then parseRest (acc * 128 + payload b) bytes
      else (.ok (acc * 128 + payload b), bytes)

/-- Reads one integer from the front of the bytes; the second part is what is left of them. -/
def parse : List UInt8 → Except DecodeError UInt32 × List UInt8
  | [] => (.error .truncated, [])
  | b :: bytes => if continues b then parseRest (leading b) bytes else (.ok (leading b), bytes)

theorem parseRest_length_lt {acc v : UInt32} {bytes rest : List UInt8}
    (h : parseRest acc bytes = (.ok v, rest)) : rest.length < bytes.length := by
  induction bytes generalizing acc with
  | nil => simp [parseRest] at h
  | cons b bytes ih =>
      rw [parseRest] at h
      split at h
      · have := ih h
        simp only [List.length_cons]
        omega
      · simp only [Prod.mk.injEq] at h
        simp [h.2]

theorem parse_length_lt {v : UInt32} {bytes rest : List UInt8}
    (h : parse bytes = (.ok v, rest)) : rest.length < bytes.length := by
  cases bytes with
  | nil => simp [parse] at h
  | cons b bytes =>
      rw [parse] at h
      split at h
      · have := parseRest_length_lt h
        simp only [List.length_cons]
        omega
      · simp only [Prod.mk.injEq] at h
        simp [h.2]

theorem parseRest_error {acc : UInt32} {bytes rest : List UInt8} {e : DecodeError}
    (h : parseRest acc bytes = (.error e, rest)) : e = .truncated ∧ rest = [] := by
  induction bytes generalizing acc with
  | nil =>
      simp only [parseRest, Prod.mk.injEq, Except.error.injEq] at h
      exact ⟨h.1.symm, h.2.symm⟩
  | cons b bytes ih =>
      rw [parseRest] at h
      split at h
      · exact ih h
      · simp at h

theorem parse_error {bytes rest : List UInt8} {e : DecodeError}
    (h : parse bytes = (.error e, rest)) : e = .truncated ∧ rest = [] := by
  cases bytes with
  | nil =>
      simp only [parse, Prod.mk.injEq, Except.error.injEq] at h
      exact ⟨h.1.symm, h.2.symm⟩
  | cons b bytes =>
      rw [parse] at h
      split at h
      · exact parseRest_error h
      · simp at h

/-! ## Reading many -/

/-- What reading integers one after another came to. -/
structure Scan where
  /-- The values read, each with the bytes that were left after it. -/
  values : List (UInt32 × List UInt8)
  /-- Why reading stopped, unless enough was read or the bytes were used up. -/
  stop : Option DecodeError
  /-- The bytes left at the end. -/
  rest : List UInt8

/-- Reads at most `n` integers, and none after the bytes are used up. -/
def scanAtMost : Nat → List UInt8 → Scan
  | 0, bytes => ⟨[], none, bytes⟩
  | n + 1, bytes =>
      match parse bytes with
      | (.error e, rest) => ⟨[], some e, rest⟩
      | (.ok v, []) => ⟨[(v, [])], none, []⟩
      | (.ok v, b :: rest) =>
          let more := scanAtMost n (b :: rest)
          { more with values := (v, b :: rest) :: more.values }

/-- Reads integers until the bytes are used up or one of them cannot be read. An integer takes
at least one byte, so there are at most as many as there are bytes; no bytes at all are
still tried once. -/
def scan (bytes : List UInt8) : Scan := scanAtMost (max 1 bytes.length) bytes

end WeighScale.Wire.Integer
