import WeighScale.Proofs.Range
import WeighScale.Proofs.Registers
import WeighScale.Proofs.Waveform

set_option autoImplicit false

/-! # Frames fed with levels

A frame by itself goes on for as long as it is fed with levels, past the length that any gain gives
it. Whatever their number, the levels at the odd places below 48 are its bits, in their order, and
no other level leaves a trace (`bits_feed`). The clock line goes up and down all the while.

Finishing a frame takes its sample and begins the next one, so in a series of frames each sample is
that of its own levels (`series_start`). Registers do the same, as long as no frame of the series
has more levels than they can count (`series?_start`, `feed?_eq_none`).
-/

namespace WeighScale

/-- The sample of an inverted device is the exact negative. -/
theorem Polarity.toInt_sampleOf_inverted (word : BitVec 24) :
    (inverted.sampleOf word).toInt = -(normal.sampleOf word).toInt := by
  have hnormal : normal.sign.toInt = 1 := rfl
  have hinverted : inverted.sign.toInt = -1 := rfl
  rw [toInt_sampleOf, toInt_sampleOf, hnormal, hinverted]
  omega

namespace Frame

/-! ## One frame -/

/-- The half-cycles with these levels on the data line: the levels that the clock line is driven
to, and the frame after them. -/
def feed (frame : Frame) : List Level → List Level × Frame
  | [] => ([], frame)
  | high :: levels =>
      let fed := (frame.advance high).feed levels
      (frame.clockLevel :: fed.1, fed.2)

/-- The end of a frame: its sample, and the next frame. -/
def finish (frame : Frame) (polarity : Polarity) : Int32 × Frame := (frame.value polarity, start)

theorem feed_append (frame : Frame) (levels more : List Level) :
    frame.feed (levels ++ more)
      = ((frame.feed levels).1 ++ ((frame.feed levels).2.feed more).1,
          ((frame.feed levels).2.feed more).2) := by
  induction levels generalizing frame with
  | nil => rfl
  | cons high levels ih =>
      rw [List.cons_append, feed, ih]
      rfl

theorem feed_concat (frame : Frame) (levels : List Level) (high : Level) :
    frame.feed (levels ++ [high])
      = ((frame.feed levels).1 ++ [(frame.feed levels).2.clockLevel],
          (frame.feed levels).2.advance high) := frame.feed_append levels [high]

/-- **A new frame that is fed** drives a wave, and stands partway through the word of its
levels. -/
theorem feed_start (levels : List Level) :
    start.feed levels = (wave levels.length, partway (dataWord levels) levels.length) := by
  induction levels using List.reverseRecOn with
  | nil =>
      rw [List.length_nil, partway_zero]
      rfl
  | append_singleton levels high ih =>
      rw [feed_concat, ih, List.length_append, List.length_singleton, wave_succ,
        advance_partway_dataWord]
      rfl

@[simp] theorem halfCycles_feed (levels : List Level) :
    (start.feed levels).2.halfCycles = levels.length := by rw [feed_start, halfCycles_partway]

/-- A bit that was not fed yet is clear in the word as it is in the frame. -/
theorem topBits_dataWord (levels : List Level) :
    topBits (dataWord levels) (levels.length / 2) = topBits (dataWord levels) 24 := by
  apply BitVec.eq_of_getMsbD_eq
  intro i _
  rw [getMsbD_topBits, getMsbD_topBits]
  by_cases hword : i < 24
  · by_cases hfed : i < levels.length / 2
    · simp [hword, hfed]
    · have hle : levels.length ≤ 2 * i + 1 := by omega
      simp [getMsbD_dataWord _ hword, hle]
  · rw [BitVec.getMsbD_of_ge _ _ (Nat.not_lt.mp hword), Bool.and_false, Bool.and_false]

/-- **The bits of a frame** are the word of its levels, above eight bits that are clear. -/
theorem bits_feed (levels : List Level) :
    (start.feed levels).2.bits = dataWord levels ++ 0#8 := by
  rw [feed_start, partway, topBits_dataWord, topBits_of_le _ le_rfl]

theorem getLsbD_feed (levels : List Level) {i : Nat} (h : i < 32) :
    (start.feed levels).2.bits.getLsbD i
      = (decide (8 ≤ i) && levels.getD (2 * (31 - i) + 1) false) := by
  rw [bits_feed, BitVec.getLsbD_append]
  by_cases hlow : i < 8
  · simp [hlow]
  · have hplace : 31 - i < 24 := by omega
    have hmirror : i - 8 = 24 - 1 - (31 - i) := by omega
    rw [if_neg hlow, hmirror, ← getMsbD_dataWord _ hplace, BitVec.getMsbD_eq_getLsbD]
    simp [hplace, Nat.not_lt.mp hlow]

theorem getLsbD_feed_iff (levels : List Level) {k : Nat} (h : k < 24) :
    (start.feed levels).2.bits.getLsbD (31 - k) = true ↔ levels[2 * k + 1]? = some true := by
  have hplace : 31 - (31 - k) = k := by omega
  have hdata : 8 ≤ 31 - k := by omega
  rw [getLsbD_feed levels (by omega), hplace, List.getD_eq_getElem?_getD]
  cases levels[2 * k + 1]? <;> simp [hdata]

/-- The bits still to come are clear, and so are those below them. -/
theorem getLsbD_feed_of_lt (levels : List Level) {i : Nat}
    (h : i < 32 - min (levels.length / 2) 24) : (start.feed levels).2.bits.getLsbD i = false := by
  rw [getLsbD_feed levels (by omega)]
  by_cases hlow : i < 8
  · simp [hlow]
  · -- the level of this bit was not fed yet
    have hle : levels.length ≤ 2 * (31 - i) + 1 := by omega
    simp [hle]

theorem value_feed (levels : List Level) (polarity : Polarity) :
    (start.feed levels).2.value polarity = polarity.sampleOf (dataWord levels) := by
  rw [← Polarity.value_eq_sampleOf polarity (dataWord levels) (Nat.le_refl dataHalfCycles), value,
    value, bits_feed, partway, topBits_of_le _ (by decide)]

/-! ## A series of frames -/

/-- Frames that are each fed with levels and then finished: their samples, and the frame after
them. -/
def series (frame : Frame) : List (List Level × Polarity) → List Int32 × Frame
  | [] => ([], frame)
  | (levels, polarity) :: rounds =>
      let ended := (frame.feed levels).2.finish polarity
      let others := ended.2.series rounds
      (ended.1 :: others.1, others.2)

/-- **No frame of a series has a part in the samples of the others.** -/
theorem series_start (rounds : List (List Level × Polarity)) :
    start.series rounds = (rounds.map fun round => round.2.sampleOf (dataWord round.1), start) := by
  induction rounds with
  | nil => rfl
  | cons round rounds ih =>
      obtain ⟨levels, polarity⟩ := round
      rw [series, finish, ih, value_feed]
      rfl

end Frame

/-! ## The same in registers -/

namespace Registers

/-- The half-cycles with these levels on the data line. -/
def feed? (registers : Registers) : List Level → Option (List Level × Registers)
  | [] => some ([], registers)
  | high :: levels => do
      let (level, next) ← registers.advance? high
      let (others, last) ← next.feed? levels
      return (level :: others, last)

/-- Frames that are each fed with levels and then finished. -/
def series? (registers : Registers) :
    List (List Level × Polarity) → Option (List Int32 × Registers)
  | [] => some ([], registers)
  | (levels, polarity) :: rounds => do
      let (_, fed) ← registers.feed? levels
      let (value, next) ← fed.finish? polarity
      let (others, last) ← next.series? rounds
      return (value :: others, last)

theorem feed?_registers {frame : Frame} {levels : List Level}
    (h : frame.halfCycles + levels.length < UInt32.size) :
    frame.registers.feed? levels
      = some ((frame.feed levels).1, (frame.feed levels).2.registers) := by
  induction levels generalizing frame with
  | nil => rfl
  | cons high levels ih =>
      rw [List.length_cons] at h
      have hroom : (frame.advance high).halfCycles + levels.length < UInt32.size := by
        rw [Frame.halfCycles_advance]
        omega
      rw [feed?, Frame.advance?_registers (by omega) high]
      show ((frame.advance high).registers.feed? levels >>= _) = _
      rw [ih hroom]
      rfl

/-- There is no room for as many levels as that. -/
theorem feed?_eq_none {frame : Frame} {levels : List Level} (hsize : frame.halfCycles < UInt32.size)
    (h : UInt32.size ≤ frame.halfCycles + levels.length) :
    frame.registers.feed? levels = none := by
  induction levels generalizing frame with
  | nil => exact absurd hsize (Nat.not_lt.mpr h)
  | cons high levels ih =>
      rw [List.length_cons] at h
      rcases Nat.lt_or_eq_of_le (Nat.succ_le_of_lt hsize) with hroom | hfull
      · have hothers : UInt32.size ≤ (frame.advance high).halfCycles + levels.length := by
          rw [Frame.halfCycles_advance]
          omega
        rw [feed?, Frame.advance?_registers hroom high]
        show ((frame.advance high).registers.feed? levels >>= _) = _
        rw [ih hroom hothers]
        rfl
      · rw [feed?, Frame.advance?_full hfull high]
        rfl

theorem feed?_start {levels : List Level} (h : levels.length < UInt32.size) :
    start.feed? levels = some (wave levels.length, (Frame.start.feed levels).2.registers) := by
  have hroom : Frame.start.halfCycles + levels.length < UInt32.size := by
    rwa [Frame.start, Nat.zero_add]
  rw [← Frame.registers_start, feed?_registers hroom, Frame.feed_start]

theorem series?_start {rounds : List (List Level × Polarity)}
    (h : ∀ round ∈ rounds, round.1.length < UInt32.size) :
    start.series? rounds = some ((Frame.start.series rounds).1, start) := by
  induction rounds with
  | nil => rfl
  | cons round rounds ih =>
      obtain ⟨levels, polarity⟩ := round
      obtain ⟨hfirst, hothers⟩ := List.forall_mem_cons.mp h
      rw [series?, feed?_start hfirst]
      show ((Frame.start.feed levels).2.registers.finish? polarity >>= _) = _
      rw [Frame.finish?_registers]
      show (start.series? rounds >>= _) = _
      rw [ih hothers]
      rfl

end Registers

/-! ## The statement -/

namespace Frame

/-- What a new frame makes of these levels, by itself and in registers. -/
structure ExactFeed (levels : List Level) : Prop where
  /-- The clock line goes up and down. -/
  clock : (start.feed levels).1 = wave levels.length
  count : (start.feed levels).2.halfCycles = levels.length
  /-- The bits that are set are those of the high levels at the odd places below 48. -/
  bit : ∀ k < 24, (start.feed levels).2.bits.getLsbD (31 - k) = true
    ↔ levels[2 * k + 1]? = some true
  margin : ∀ i < 8, (start.feed levels).2.bits.getLsbD i = false
  word : (start.feed levels).2.bits = dataWord levels ++ 0#8
  /-- The frame ends with the signed number of its bits, times the sign, and with a new frame. -/
  finish : ∀ polarity, (start.feed levels).2.finish polarity
    = (polarity.sampleOf (dataWord levels), start)
  sample : ∀ polarity : Polarity,
    (polarity.sampleOf (dataWord levels)).toInt = polarity.sign.toInt * (dataWord levels).toInt
  negative : ((start.feed levels).2.finish .inverted).1.toInt
    = -((start.feed levels).2.finish .normal).1.toInt
  /-- No operation of the registers goes past its bounds. -/
  fed : Registers.start.feed? levels
    = some ((start.feed levels).1, (start.feed levels).2.registers)
  counted : (start.feed levels).2.registers.count.toNat = levels.length
  finished : ∀ polarity, (start.feed levels).2.registers.finish? polarity
    = some (((start.feed levels).2.finish polarity).1, Registers.start)
  /-- There the count ends: of more levels than that the registers make nothing. -/
  full : ∀ more : List Level, 2 ^ 32 ≤ levels.length + more.length →
    (start.feed levels).2.registers.feed? more = none
  /-- The frames that follow give the samples of their own levels. -/
  followed : ∀ polarity rounds, (((start.feed levels).2.finish polarity).2.series rounds).1
    = rounds.map fun round => round.2.sampleOf (dataWord round.1)
  followed_registers : ∀ rounds : List (List Level × Polarity),
    (∀ round ∈ rounds, round.1.length < 2 ^ 32) →
      Registers.start.series? rounds
        = some (rounds.map fun round => round.2.sampleOf (dataWord round.1), Registers.start)

/-- **A frame is exact however long it is fed**, as long as its registers can count the levels. -/
theorem feed_exact (levels : List Level) (h : levels.length < 2 ^ 32) : ExactFeed levels := by
  have hcount : (start.feed levels).2.halfCycles = levels.length := halfCycles_feed levels
  have hfinish (polarity : Polarity) :
      (start.feed levels).2.finish polarity = (polarity.sampleOf (dataWord levels), start) := by
    rw [finish, value_feed]
  refine
    { clock := congrArg Prod.fst (feed_start levels)
      count := hcount
      bit := fun k => getLsbD_feed_iff levels
      margin := fun i hi => getLsbD_feed_of_lt levels (by omega)
      word := bits_feed levels
      finish := hfinish
      sample := fun polarity => polarity.toInt_sampleOf (dataWord levels)
      negative := ?_
      fed := ?_
      counted := ?_
      finished := (start.feed levels).2.finish?_registers
      full := fun more hmore => Registers.feed?_eq_none (hcount ▸ h) (hcount ▸ hmore)
      followed := fun polarity rounds => ?_
      followed_registers := fun rounds hrounds => ?_ }
  · rw [hfinish, hfinish]
    exact Polarity.toInt_sampleOf_inverted (dataWord levels)
  · rw [Registers.feed?_start h, feed_start]
  · rw [toNat_count (hcount ▸ h), hcount]
  · rw [hfinish, series_start]
  · rw [Registers.series?_start hrounds, series_start]

/-- Sixty levels, in which the data bits are low but for the first. All levels at even places are
high, and so are those after the data bits. -/
def overlong : List Level := (List.range 60).map fun i => i == 1 || i % 2 == 0 || decide (48 ≤ i)

/-- The frame is fed more levels than any gain asks for. Others have none, or the same ones. -/
theorem feed_exact_overlong :
    overlong.length < 2 ^ 32
      ∧ (start.feed overlong).2 = ⟨60, 0x80000000⟩
      ∧ (start.feed overlong).2.finish .inverted = (8388608, start)
      ∧ (Registers.start.feed? overlong).isSome = true
      ∧ Registers.start.series? [(overlong, .normal), ([], .inverted), (overlong, .inverted)]
          = some ([-8388608, 0, 8388608], Registers.start) := by
  have hlength : overlong.length < 2 ^ 32 := by decide
  have hword : dataWord overlong = leastWord := by decide +kernel
  have hexact : ExactFeed overlong := feed_exact overlong hlength
  refine ⟨hlength, ?_, ?_, ?_, ?_⟩
  · rw [Frame.mk.injEq, hexact.count, hexact.word, hword]
    decide +kernel
  · rw [hexact.finish, hword]
    decide +kernel
  · rw [hexact.fed]
    rfl
  · rw [hexact.followed_registers _ (by decide +kernel)]
    decide +kernel

end Frame

end WeighScale
