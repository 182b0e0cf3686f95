import WeighScale.Proofs.Wire.Stream
import Mathlib.Data.Set.Card

set_option autoImplicit false

/-! # Canonical integers

A word can be written in more than one way: groups that add nothing may come before the others. Of
all the ways in which it is read back, `encode` takes the shortest. Up to four groups there is no
choice in a length: `n` groups carry `7 n` bits, and each of their patterns is a number of its own
among those with `Fits n`. Five groups carry three bits more than a word has, so each word has
eight spellings of five bytes (`spelling`), and `encode` takes the one in which those bits are
clear.

* `whole_eq_groupsFrom`: up to four groups are those of the word that they are read as.
* `fits_number`: that word is among the numbers that so many groups can carry.
* `parse_five_iff`: the spellings of five bytes.
-/

namespace WeighScale.Wire.Integer

/-! ## The groups of a word -/

/-- A number has one top digit and one rest. -/
theorem digit_and_rest {x k d r : Nat} (hr : r < 128 ^ k)
    (h : x % 128 ^ (k + 1) = d * 128 ^ k + r) : x / 128 ^ k % 128 = d ∧ x % 128 ^ k = r := by
  have hpos : 0 < 128 ^ k := by positivity
  have hsplit : r + 128 ^ k * d = x % (128 ^ k * 128) := by
    rw [← pow_succ, h]
    ring
  have hunique := (Nat.div_mod_unique hpos).mpr ⟨hsplit, hr⟩
  rwa [Nat.mod_mul_right_div_self, Nat.mod_mul_right_mod] at hunique

/-- A whole integer consists of the lowest groups of a word that has the same digits there. -/
theorem whole_eq_groupsFrom {groups : List UInt8} (h : Whole groups) {v : UInt32} {k : Nat}
    (hlength : groups.length = k + 1) (hvalue : v.toNat % 128 ^ (k + 1) = base128 groups) :
    groups = groupsFrom v k := by
  induction h generalizing k with
  | last b hb =>
      obtain rfl : k = 0 := by simpa using hlength.symm
      have hbyte : b = group v 0 := by
        rw [continues, decide_eq_false_iff_not] at hb
        simp only [base128_cons, base128_nil, List.length_nil] at hvalue
        apply UInt8.toNat_inj.mp
        rw [toNat_group]
        omega
      rw [hbyte, groupsFrom]
  | next b groups hb hrest ih =>
      cases k with
      | zero =>
          obtain rfl := List.eq_nil_of_length_eq_zero (Nat.succ.inj hlength)
          cases hrest
      | succ k =>
          have hmore : groups.length = k + 1 := Nat.succ.inj hlength
          have hlt := base128_lt groups
          rw [base128_cons, hmore] at hvalue
          rw [hmore] at hlt
          obtain ⟨hdigit, hlow⟩ := digit_and_rest hlt hvalue
          have htop : b = group v (k + 1) + 128 := by
            have hbyte := b.toNat_lt
            rw [continues, decide_eq_true_iff] at hb
            apply UInt8.toNat_inj.mp
            rw [toNat_group_add]
            omega
          rw [groupsFrom, ← htop, ← ih hmore hlow]

/-! ## Up to four groups -/

/-- No bit of up to four groups is lost. -/
theorem toNat_number_mod {groups : List UInt8} (h : groups.length ≤ 4) :
    (UInt32.ofInt (number groups)).toNat % 128 ^ groups.length = base128 groups := by
  have hdvd : (128 ^ groups.length : Int) ∣ 2 ^ 32 :=
    (pow_dvd_pow 128 h).trans (by norm_num)
  have hnumber : number groups % 128 ^ groups.length
      = (base128 groups : Int) % 128 ^ groups.length := by
    cases groups with
    | nil => rfl
    | cons b groups =>
        rw [number_cons, List.length_cons]
        split
        · rw [Int.sub_emod_right]
        · rw [Int.sub_zero]
  have hlt : (base128 groups : Int) < 128 ^ groups.length := by exact_mod_cast base128_lt groups
  zify
  calc ((UInt32.ofInt (number groups)).toNat : Int) % 128 ^ groups.length
      = number groups % 2 ^ 32 % 128 ^ groups.length := by rw [toNat_ofInt]
    _ = (base128 groups : Int) % 128 ^ groups.length := by
        rw [Int.emod_emod_of_dvd _ hdvd, hnumber]
    _ = base128 groups := Int.emod_eq_of_lt (by positivity) hlt

/-- A word that is read from up to four groups consists of them. -/
theorem eq_groupsFrom_of_parse {bytes : List UInt8} {v : UInt32} {k : Nat}
    (h : parse bytes = (.ok v, [])) (hlength : bytes.length = k + 1) (hk : k ≤ 3) :
    bytes = groupsFrom v k := by
  obtain ⟨hwhole, rfl⟩ := whole_of_parse h
  refine whole_eq_groupsFrom hwhole hlength ?_
  rw [← hlength, toNat_number_mod (by omega)]

/-- It is among the numbers that so many groups can carry: a first group of 96 or more makes a
negative number of at most a quarter of the range, and any other one a number in the rest. -/
theorem fits_number (b : UInt8) (groups : List UInt8) (h : groups.length ≤ 3) :
    Fits (groups.length + 1) (UInt32.ofInt (number (b :: groups))) := by
  have hword := toNat_ofInt (number (b :: groups))
  have hlt := base128_lt groups
  have hdigit : b.toNat % 128 < 128 := Nat.mod_lt _ (by decide)
  rw [fits_iff, toInt_toInt32]
  generalize (UInt32.ofInt (number (b :: groups))).toNat = x at hword ⊢
  rw [number, firstDigit_eq] at hword
  generalize base128 groups = y at hword hlt
  generalize b.toNat % 128 = d at hword hdigit
  generalize groups.length = m at h hword hlt ⊢
  interval_cases m <;> split at hword <;> split <;> omega

theorem fits_of_parse {bytes : List UInt8} {v : UInt32} (h : parse bytes = (.ok v, []))
    (hlength : bytes.length ≤ 4) : 1 ≤ bytes.length ∧ Fits bytes.length v := by
  obtain ⟨hwhole, rfl⟩ := whole_of_parse h
  cases bytes with
  | nil => cases hwhole
  | cons b groups =>
      rw [List.length_cons] at hlength ⊢
      exact ⟨Nat.le_add_left 1 _, fits_number b groups (by omega)⟩

theorem groupCount_le_of_fits {n : Nat} {v : UInt32} (hpos : 1 ≤ n) (hn : n ≤ 4)
    (h : Fits n v) : groupCount v ≤ n := by
  unfold groupCount
  interval_cases n
  · rw [if_pos h]
  · split_ifs <;> omega
  · split_ifs <;> omega
  · split_ifs <;> omega

/-- **No spelling is shorter.** -/
theorem length_encode_le {bytes : List UInt8} {v : UInt32} (h : parse bytes = (.ok v, [])) :
    (encode v).length ≤ bytes.length := by
  rw [length_encode]
  by_cases hlength : bytes.length ≤ 4
  · obtain ⟨hpos, hfits⟩ := fits_of_parse h hlength
    exact groupCount_le_of_fits hpos hlength hfits
  · have hmax : groupCount v ≤ 5 := groupCount_le v
    omega

/-- The signed number that some bytes are read as, or zero if they cannot be read. -/
def signedOf (bytes : List UInt8) : Int :=
  match (parse bytes).1 with
  | .ok v => v.toInt32.toInt
  | .error _ => 0

theorem signedOf_of_parse {bytes rest : List UInt8} {v : UInt32}
    (h : parse bytes = (.ok v, rest)) : signedOf bytes = v.toInt32.toInt := by
  rw [signedOf, h]

theorem toInt_toInt32_inj {v w : UInt32} (h : v.toInt32.toInt = w.toInt32.toInt) : v = w := by
  rw [toInt_toInt32, toInt_toInt32] at h
  have hv := v.toNat_lt
  have hw := w.toNat_lt
  apply UInt32.toNat_inj.mp
  split at h <;> split at h <;> omega

/-- The strings of `n` bytes that are read to their end. -/
def readable (n : Nat) : Set (List UInt8) :=
  {bytes | bytes.length = n ∧ ∃ v, parse bytes = (.ok v, [])}

/-- **Up to four bytes**, strings and numbers correspond one to one. -/
theorem bijOn_signedOf {n : Nat} (hpos : 1 ≤ n) (hn : n ≤ 4) :
    Set.BijOn signedOf (readable n) (Set.Ico (-(2 ^ (7 * n - 2))) (3 * 2 ^ (7 * n - 2))) := by
  obtain ⟨k, rfl⟩ : ∃ k, n = k + 1 := ⟨n - 1, by omega⟩
  have hk : k ≤ 3 := by omega
  refine ⟨?_, ?_, ?_⟩
  · -- the numbers are in the interval
    rintro bytes ⟨hlength, v, hread⟩
    obtain ⟨-, hfits⟩ := fits_of_parse hread (hlength.trans_le hn)
    rw [hlength, fits_iff] at hfits
    rw [signedOf_of_parse hread]
    exact hfits
  · -- a number gives the word, and the word its groups
    rintro bytes ⟨hlength, v, hread⟩ others ⟨hothers, w, hreadOthers⟩ hsame
    rw [signedOf_of_parse hread, signedOf_of_parse hreadOthers] at hsame
    obtain rfl := toInt_toInt32_inj hsame
    rw [eq_groupsFrom_of_parse hread hlength hk, eq_groupsFrom_of_parse hreadOthers hothers hk]
  · -- the groups of a number in the interval are read as that number
    rintro s ⟨hlow, hhigh⟩
    have hsigned : (UInt32.ofInt s).toInt32.toInt = s := by
      have hword := toNat_ofInt s
      rw [toInt_toInt32]
      interval_cases k <;> split <;> omega
    have hfits : Fits (k + 1) (UInt32.ofInt s) := by
      rw [fits_iff, hsigned]
      exact ⟨hlow, hhigh⟩
    have hread := parse_groupsFrom (Or.inr ⟨hk, hfits⟩) []
    rw [List.append_nil] at hread
    refine ⟨groupsFrom (UInt32.ofInt s) k, ⟨length_groupsFrom _ k, _, hread⟩, ?_⟩
    rw [signedOf_of_parse hread, hsigned]

/-! ## Five groups -/

/-- Spelling `j` of a word in five bytes: `j` stands in the bits that are lost. -/
def spelling (v : UInt32) (j : Nat) : List UInt8 :=
  UInt8.ofNat (128 + 16 * j + v.toNat / 128 ^ 4) :: groupsFrom v 3

theorem toNat_spelling_head {v : UInt32} {j : Nat} (h : j < 8) :
    (UInt8.ofNat (128 + 16 * j + v.toNat / 128 ^ 4)).toNat = 128 + 16 * j + v.toNat / 128 ^ 4 := by
  have hlt := v.toNat_lt
  rw [UInt8.toNat_ofNat']
  omega

theorem length_spelling (v : UInt32) (j : Nat) : (spelling v j).length = 5 := by
  rw [spelling, List.length_cons, length_groupsFrom]

theorem parse_spelling {v : UInt32} {j : Nat} (h : j < 8) :
    parse (spelling v j) = (.ok v, []) := by
  have hhead := toNat_spelling_head (v := v) h
  have hwhole : Whole (spelling v j) := by
    refine .next _ _ ?_ (whole_groupsFrom v 3)
    rw [continues, hhead, decide_eq_true_iff]
    omega
  have hvalue : UInt32.ofInt (number (spelling v j)) = v := by
    have hword := toNat_ofInt (number (spelling v j))
    have hlt := v.toNat_lt
    apply UInt32.toNat_inj.mp
    generalize (UInt32.ofInt (number (spelling v j))).toNat = x at hword ⊢
    rw [spelling, number, firstDigit_eq, hhead, length_groupsFrom, base128_groupsFrom] at hword
    split at hword <;> omega
  have hread := parse_whole hwhole []
  rw [List.append_nil, hvalue] at hread
  exact hread

/-- **The spellings of five bytes** are the eight that differ in the lost bits. -/
theorem parse_five_iff {v : UInt32} {bytes : List UInt8} :
    bytes.length = 5 ∧ parse bytes = (.ok v, []) ↔ ∃ j < 8, bytes = spelling v j := by
  constructor
  · rintro ⟨hlength, hread⟩
    obtain ⟨hwhole, hv⟩ := whole_of_parse hread
    cases hwhole with
    | last b hb => simp at hlength
    | next b groups hb hrest =>
        have hmore : groups.length = 4 := Nat.succ.inj hlength
        have hlt := base128_lt groups
        have hbyte := b.toNat_lt
        have hword := toNat_ofInt (number (b :: groups))
        rw [← hv, number, firstDigit_eq, hmore] at hword
        rw [hmore] at hlt
        rw [continues, decide_eq_true_iff] at hb
        -- four bits of the first byte are the top of the word, the three above them are lost
        have hlow : v.toNat % 128 ^ 4 = base128 groups := by split at hword <;> omega
        have htop : b = UInt8.ofNat (128 + 16 * (b.toNat % 128 / 16) + v.toNat / 128 ^ 4) := by
          apply UInt8.toNat_inj.mp
          rw [toNat_spelling_head (by omega)]
          split at hword <;> omega
        refine ⟨b.toNat % 128 / 16, by omega, ?_⟩
        rw [spelling, ← htop, whole_eq_groupsFrom hrest hmore hlow]
  · rintro ⟨j, hj, rfl⟩
    exact ⟨length_spelling v j, parse_spelling hj⟩

theorem spelling_inj {v : UInt32} {i j : Nat} (hi : i < 8) (hj : j < 8)
    (h : spelling v i = spelling v j) : i = j := by
  rw [spelling, spelling, List.cons.injEq] at h
  have hhead := congrArg UInt8.toNat h.1
  rw [toNat_spelling_head hi, toNat_spelling_head hj] at hhead
  omega

theorem ncard_five (v : UInt32) :
    {bytes | bytes.length = 5 ∧ parse bytes = (.ok v, [])}.ncard = 8 := by
  have himage : {bytes | bytes.length = 5 ∧ parse bytes = (.ok v, [])}
      = spelling v '' Finset.range 8 := by
    ext bytes
    refine parse_five_iff.trans ⟨?_, ?_⟩
    · rintro ⟨j, hj, rfl⟩
      exact ⟨j, Finset.mem_coe.mpr (Finset.mem_range.mpr hj), rfl⟩
    · rintro ⟨j, hj, rfl⟩
      exact ⟨j, Finset.mem_range.mp (Finset.mem_coe.mp hj), rfl⟩
  have hinj : Set.InjOn (spelling v) (Finset.range 8) := by
    intro i hi j hj h
    exact spelling_inj (Finset.mem_range.mp hi) (Finset.mem_range.mp hj) h
  rw [himage, hinj.ncard_image, Set.ncard_coe_finset, Finset.card_range]

/-- The encoding of five bytes leaves the lost bits clear. -/
theorem encode_eq_spelling {v : UInt32} (h : (encode v).length = 5) :
    encode v = spelling v 0 := by
  rw [length_encode] at h
  have hlt := v.toNat_lt
  have hhead : group v 4 + 128 = UInt8.ofNat (128 + 16 * 0 + v.toNat / 128 ^ 4) := by
    apply UInt8.toNat_inj.mp
    rw [toNat_group_add, toNat_spelling_head (by decide)]
    omega
  rw [encode, h, groupsFrom, hhead, spelling]

theorem testBit_spelling_head {v : UInt32} {j : Nat} (h : j < 8) :
    (∀ b ∈ (spelling v j).head?, ∀ i ∈ [4, 5, 6], b.toNat.testBit i = false) ↔ j = 0 := by
  have hlt := v.toNat_lt
  simp only [spelling, List.head?_cons, Option.mem_def, Option.some.injEq, forall_eq',
    List.forall_mem_cons, toNat_spelling_head h, Nat.testBit_eq_decide_div_mod_eq,
    decide_eq_false_iff_not]
  constructor
  · rintro ⟨h4, h5, h6, -⟩
    omega
  · rintro rfl
    refine ⟨by omega, by omega, by omega, by simp⟩

/-! ## The statement -/

/-- **The encoding of a word is its canonical spelling.** It has one to five bytes and is read back,
and no shorter string is. Of up to four bytes, strings and numbers correspond one to one, so an
encoding with as many is the only string of its length that is read as the word. With five bytes
there are eight, and the encoding is the one whose first byte has bits 4 to 6 clear. -/
theorem encode_canonical (v : UInt32) :
    parse (encode v) = (.ok v, [])
      ∧ 1 ≤ (encode v).length ∧ (encode v).length ≤ 5
      ∧ (∀ bytes, parse bytes = (.ok v, []) → (encode v).length ≤ bytes.length)
      ∧ (∀ n, 1 ≤ n → n ≤ 4 →
          Set.BijOn signedOf (readable n) (Set.Ico (-(2 ^ (7 * n - 2))) (3 * 2 ^ (7 * n - 2))))
      ∧ ((encode v).length ≤ 4 → ∀ bytes, bytes.length = (encode v).length →
          parse bytes = (.ok v, []) → bytes = encode v)
      ∧ ((encode v).length = 5 →
          {bytes | bytes.length = 5 ∧ parse bytes = (.ok v, [])}.ncard = 8
            ∧ ∀ bytes, bytes.length = 5 → parse bytes = (.ok v, []) →
              (bytes = encode v
                ↔ ∀ b ∈ bytes.head?, ∀ i ∈ [4, 5, 6], b.toNat.testBit i = false)) := by
  have hread : parse (encode v) = (.ok v, []) := by
    have h := parse_encode v []
    rwa [List.append_nil] at h
  have hpos := groupCount_pos v
  have hmax : groupCount v ≤ 5 := groupCount_le v
  rw [← length_encode v] at hpos hmax
  refine ⟨hread, hpos, hmax, fun bytes => length_encode_le, fun n => bijOn_signedOf, ?_, ?_⟩
  · intro hfour bytes hlength hbytes
    obtain ⟨k, hk⟩ : ∃ k, (encode v).length = k + 1 := ⟨(encode v).length - 1, by omega⟩
    rw [eq_groupsFrom_of_parse hbytes (hlength.trans hk) (by omega),
      eq_groupsFrom_of_parse hread hk (by omega)]
  · intro hfive
    refine ⟨ncard_five v, fun bytes hlength hbytes => ?_⟩
    obtain ⟨j, hj, rfl⟩ := parse_five_iff.mp ⟨hlength, hbytes⟩
    rw [encode_eq_spelling hfive, testBit_spelling_head hj]
    constructor
    · exact spelling_inj hj (by decide)
    · rintro rfl
      rfl

/-- The second spelling of the least number: bit 4 of the first byte is lost. -/
example : parse [0x98, 0x80, 0x80, 0x80, 0x00] = (.ok 0x80000000, []) := by decide

end WeighScale.Wire.Integer
