import WeighScale.Wire.Integer
import Mathlib.Tactic
import Mathlib.Data.Nat.Digits.Lemmas

set_option autoImplicit false

/-! # What bytes are read as

Bytes need not come from a writer: noise on the line gives integers that nobody would write, with
any number of groups. This is what the reader makes of them. An integer ends with the first byte
whose bit 7 is clear (`Whole`). Its groups are the digits of a number in base 128, where the first
one is negative if its two top bits are set (`number`), and the value read is that number modulo
`2 ^ 32`.

* `parse_whole`: the value of an integer, whatever follows it.
* `parse_eq_ok_iff`: a reading succeeds on nothing else.
* `parse_reads_number`: both together, for any bytes at all.
-/

namespace WeighScale.Wire.Integer

/-! ## Bits of a byte -/

theorem testBit_seven (b : UInt8) : b.toNat.testBit 7 = continues b := by
  have hlt := b.toNat_lt
  rw [continues, Nat.testBit_eq_decide_div_mod_eq, decide_eq_decide]
  omega

/-- Both of the top bits of a group are set if it is 96 or more. -/
theorem testBit_six_and_five (b : UInt8) :
    (b.toNat.testBit 6 && b.toNat.testBit 5) = decide (96 ≤ b.toNat % 128) := by
  have hlt := b.toNat_lt
  rw [Nat.testBit_eq_decide_div_mod_eq, Nat.testBit_eq_decide_div_mod_eq, ← Bool.decide_and,
    decide_eq_decide]
  omega

/-! ## Numbers in base 128 -/

/-- The number with these groups as its digits in base 128, the most significant first. -/
def base128 (groups : List UInt8) : Nat :=
  Nat.ofDigits 128 (groups.map fun b => b.toNat % 128).reverse

/-- What the first group counts for: a group with both of its top bits set is negative. -/
def firstDigit (b : UInt8) : Int :=
  if b.toNat.testBit 6 && b.toNat.testBit 5 then (b.toNat % 128 : Nat) - 128
  else (b.toNat % 128 : Nat)

/-- The number that the groups of an integer stand for. -/
def number : List UInt8 → Int
  | [] => 0
  | b :: groups => firstDigit b * 128 ^ groups.length + base128 groups

@[simp] theorem base128_nil : base128 [] = 0 := rfl

theorem base128_cons (b : UInt8) (groups : List UInt8) :
    base128 (b :: groups) = b.toNat % 128 * 128 ^ groups.length + base128 groups := by
  rw [base128, List.map_cons, Nat.ofDigits_reverse_cons, List.length_map, base128]
  ring

theorem base128_append (groups more : List UInt8) :
    base128 (groups ++ more) = base128 groups * 128 ^ more.length + base128 more := by
  rw [base128, List.map_append, List.reverse_append, Nat.ofDigits_append, List.length_reverse,
    List.length_map, base128, base128]
  ring

theorem base128_lt (groups : List UInt8) : base128 groups < 128 ^ groups.length := by
  have hdigits : ∀ d ∈ (groups.map fun b => b.toNat % 128).reverse, d < 128 := by
    intro d hd
    obtain ⟨b, -, rfl⟩ := List.mem_map.mp (List.mem_reverse.mp hd)
    exact Nat.mod_lt _ (by decide)
  have hlt := Nat.ofDigits_lt_base_pow_length (by decide) hdigits
  rw [List.length_reverse, List.length_map] at hlt
  exact hlt

theorem firstDigit_eq (b : UInt8) :
    firstDigit b = (b.toNat % 128 : Nat) - if 96 ≤ b.toNat % 128 then 128 else 0 := by
  rw [firstDigit, testBit_six_and_five]
  by_cases h : 96 ≤ b.toNat % 128
  · rw [decide_eq_true h, if_pos rfl, if_pos h]
  · rw [decide_eq_false h, if_neg Bool.false_ne_true, if_neg h, Int.sub_zero]

/-- A number whose first digit is negative is `128 ^ n` below the one with the same groups. -/
theorem number_cons (b : UInt8) (groups : List UInt8) :
    number (b :: groups)
      = base128 (b :: groups) - if 96 ≤ b.toNat % 128 then 128 ^ (groups.length + 1) else 0 := by
  rw [number, firstDigit_eq, base128_cons]
  split
  · push_cast
    ring
  · push_cast
    ring

/-! ## Words -/

/-- A word is what is left of a number modulo `2 ^ 32`. -/
theorem toNat_ofInt (x : Int) : ((UInt32.ofInt x).toNat : Int) = x % 2 ^ 32 := by
  rw [UInt32.ofInt, UInt32.toNat_ofNat']
  omega

theorem ofInt_eq_ofInt {x y : Int} (h : x % 2 ^ 32 = y % 2 ^ 32) :
    UInt32.ofInt x = UInt32.ofInt y := by rw [UInt32.ofInt, h, UInt32.ofInt]

theorem payload_eq_ofInt (b : UInt8) : payload b = UInt32.ofInt (b.toNat % 128 : Nat) := by
  apply UInt32.toNat_inj.mp
  have hword := toNat_ofInt (b.toNat % 128 : Nat)
  rw [payload, UInt32.toNat_ofNat']
  omega

theorem leading_eq_ofInt (b : UInt8) : leading b = UInt32.ofInt (firstDigit b) := by
  rw [firstDigit_eq, leading]
  split
  · have h128 : (128 : UInt32) = UInt32.ofInt 128 := by decide
    rw [payload_eq_ofInt, h128, Int.sub_eq_add_neg, UInt32.ofInt_add, UInt32.ofInt_neg,
      UInt32.sub_eq_add_neg]
  · rw [payload_eq_ofInt, Int.sub_zero]

/-! ## Whole integers -/

/-- The bytes are the groups of one integer: all but the last are followed by another. -/
inductive Whole : List UInt8 → Prop
  | last (b : UInt8) (h : continues b = false) : Whole [b]
  | next (b : UInt8) (groups : List UInt8) (h : continues b = true) (hrest : Whole groups) :
      Whole (b :: groups)

theorem whole_concat {before : List UInt8} {last : UInt8}
    (hbefore : ∀ b ∈ before, continues b = true) (hlast : continues last = false) :
    Whole (before ++ [last]) := by
  induction before with
  | nil => exact .last last hlast
  | cons b before ih =>
      obtain ⟨hb, hrest⟩ := List.forall_mem_cons.mp hbefore
      exact .next b _ hb (ih hrest)

/-- Some bytes begin with a whole integer, unless each of them is followed by another. -/
theorem whole_or_continues (bytes : List UInt8) :
    (∃ groups rest, bytes = groups ++ rest ∧ Whole groups) ∨ ∀ b ∈ bytes, continues b = true := by
  induction bytes with
  | nil => exact Or.inr (fun b hb => absurd hb List.not_mem_nil)
  | cons b bytes ih =>
      cases hb : continues b with
      | false => exact Or.inl ⟨[b], bytes, rfl, .last b hb⟩
      | true =>
          rcases ih with ⟨groups, rest, rfl, hwhole⟩ | hall
          · exact Or.inl ⟨b :: groups, rest, rfl, .next b groups hb hwhole⟩
          · exact Or.inr (List.forall_mem_cons.mpr ⟨hb, hall⟩)

/-- What follows the first group is appended to it, digit by digit. -/
theorem parseRest_whole {groups : List UInt8} (h : Whole groups) (x : Int) (rest : List UInt8) :
    parseRest (UInt32.ofInt x) (groups ++ rest)
      = (.ok (UInt32.ofInt (x * 128 ^ groups.length + base128 groups)), rest) := by
  -- one step of the reader, for any byte
  have hstep (x : Int) (b : UInt8) :
      UInt32.ofInt x * 128 + payload b = UInt32.ofInt (x * 128 + (b.toNat % 128 : Nat)) := by
    rw [UInt32.ofInt_add, UInt32.ofInt_mul, payload_eq_ofInt]
    rfl
  induction h generalizing x with
  | last b hb =>
      have hvalue : x * 128 + (b.toNat % 128 : Nat) = x * 128 ^ [b].length + base128 [b] := by
        simp [base128_cons]
      rw [List.singleton_append, parseRest, hb, if_neg Bool.false_ne_true, hstep, hvalue]
  | next b groups hb _ ih =>
      have hvalue : (x * 128 + (b.toNat % 128 : Nat)) * 128 ^ groups.length + base128 groups
          = x * 128 ^ (b :: groups).length + base128 (b :: groups) := by
        rw [base128_cons, List.length_cons]
        push_cast
        ring
      rw [List.cons_append, parseRest, hb, if_pos rfl, hstep, ih, hvalue]

/-- **What a whole integer is read as**, whatever follows it. -/
theorem parse_whole {groups : List UInt8} (h : Whole groups) (rest : List UInt8) :
    parse (groups ++ rest) = (.ok (UInt32.ofInt (number groups)), rest) := by
  cases h with
  | last b hb =>
      have hvalue : firstDigit b = number [b] := by simp [number]
      rw [List.singleton_append, parse, hb, if_neg Bool.false_ne_true, leading_eq_ofInt, hvalue]
  | next b groups hb hrest =>
      rw [List.cons_append, parse, hb, if_pos rfl, leading_eq_ofInt, parseRest_whole hrest, number]

theorem parseRest_of_continues {bytes : List UInt8} (h : ∀ b ∈ bytes, continues b = true)
    (acc : UInt32) : parseRest acc bytes = (.error .truncated, []) := by
  induction bytes generalizing acc with
  | nil => rfl
  | cons b bytes ih =>
      obtain ⟨hb, hrest⟩ := List.forall_mem_cons.mp h
      rw [parseRest, hb, if_pos rfl, ih hrest]

/-- Bytes that are all followed by another are used up without an end. -/
theorem parse_of_continues {bytes : List UInt8} (h : ∀ b ∈ bytes, continues b = true) :
    parse bytes = (.error .truncated, []) := by
  cases bytes with
  | nil => rfl
  | cons b bytes =>
      obtain ⟨hb, hrest⟩ := List.forall_mem_cons.mp h
      rw [parse, hb, if_pos rfl, parseRest_of_continues hrest]

/-- **Nothing but a whole integer is read.** -/
theorem parse_eq_ok_iff {bytes rest : List UInt8} {v : UInt32} :
    parse bytes = (.ok v, rest)
      ↔ ∃ groups, bytes = groups ++ rest ∧ Whole groups ∧ v = UInt32.ofInt (number groups) := by
  constructor
  · intro h
    rcases whole_or_continues bytes with ⟨groups, others, rfl, hwhole⟩ | hall
    · rw [parse_whole hwhole] at h
      cases h
      exact ⟨groups, rfl, hwhole, rfl⟩
    · rw [parse_of_continues hall] at h
      cases h
  · rintro ⟨groups, rfl, hwhole, rfl⟩
    exact parse_whole hwhole rest

theorem whole_of_parse {bytes : List UInt8} {v : UInt32} (h : parse bytes = (.ok v, [])) :
    Whole bytes ∧ v = UInt32.ofInt (number bytes) := by
  obtain ⟨groups, hbytes, hwhole, hvalue⟩ := parse_eq_ok_iff.mp h
  rw [List.append_nil] at hbytes
  rw [hbytes]
  exact ⟨hwhole, hvalue⟩

/-! ## Long integers -/

/-- Of a number with more than five groups, those above the last five are lost. -/
theorem ofInt_number_append {groups five : List UInt8} (hgroups : groups ≠ [])
    (hfive : five.length = 5) :
    UInt32.ofInt (number (groups ++ five)) = UInt32.ofInt (base128 five) := by
  obtain ⟨b, more, rfl⟩ := List.exists_cons_of_ne_nil hgroups
  apply ofInt_eq_ofInt
  have hnumber : number (b :: more ++ five)
      = (firstDigit b * 128 ^ more.length + base128 more) * 128 ^ 5 + base128 five := by
    rw [List.cons_append, number, base128_append, List.length_append, hfive]
    push_cast
    ring
  rw [hnumber]
  omega

/-! ## The statement -/

/-- **What any bytes are read as.** If bit 7 is set in all of them, they are too few and are used
up. Otherwise the integer ends with the first byte in which it is clear, what follows is left, and
the value is the number in base 128 that the groups stand for, modulo `2 ^ 32`. With six groups or
more it depends on the last five alone, whose first then counts as it is. -/
theorem parse_reads_number (bytes : List UInt8) :
    ((parse bytes).1 = .error .truncated ↔ ∀ b ∈ bytes, b.toNat.testBit 7 = true)
      ∧ ((parse bytes).1 = .error .truncated → (parse bytes).2 = [])
      ∧ (∀ before last rest, bytes = before ++ last :: rest →
          (∀ b ∈ before, b.toNat.testBit 7 = true) → last.toNat.testBit 7 = false →
          ∃ v, parse bytes = (.ok v, rest) ∧ (v.toNat : Int) = number (before ++ [last]) % 2 ^ 32)
      ∧ ∀ groups five rest v, bytes = groups ++ five ++ rest → groups ≠ [] → five.length = 5 →
          parse bytes = (.ok v, rest) → v.toNat = base128 five % 2 ^ 32 := by
  simp only [testBit_seven]
  refine ⟨⟨fun h => ?_, fun h => ?_⟩, fun h => ?_, ?_, ?_⟩
  · rcases whole_or_continues bytes with ⟨groups, rest, rfl, hwhole⟩ | hall
    · rw [parse_whole hwhole] at h
      cases h
    · exact hall
  · rw [parse_of_continues h]
  · exact (parse_error (Prod.ext h rfl)).2
  · rintro before last rest rfl hbefore hlast
    have hread := parse_whole (whole_concat hbefore hlast) rest
    rw [List.append_assoc, List.singleton_append] at hread
    exact ⟨_, hread, toNat_ofInt _⟩
  · rintro groups five rest v rfl hgroups hfive hread
    obtain ⟨used, hused, -, rfl⟩ := parse_eq_ok_iff.mp hread
    obtain rfl : groups ++ five = used := List.append_cancel_right hused
    have hvalue := toNat_ofInt (base128 five)
    rw [ofInt_number_append hgroups hfive]
    omega

end WeighScale.Wire.Integer
