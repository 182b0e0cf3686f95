import WeighScale.Proofs.Conformance

set_option autoImplicit false

/-! # The range of samples

A sample is the word that its frame has read, with the sign of the polarity. The numbers that 24
bits stand for go from `sampleMinimum` to `sampleMaximum`, and the least of them is the only one
whose negative is not among them. So every sample is in that range, unless the device is inverted
and the frame has read the least word; the sample is then one more than the greatest number.

Nothing has to be known of the course for this: queries come at any time, the lines take any levels,
and calls of the board fail whenever they like. What the frames read is told apart from the counter
and the register of the device, as the levels taken so far and the words of earlier frames
(`Intake`). No event separates the two (`HasRead.step`).
-/

namespace WeighScale

/-! ## The numbers of 24 bits -/

/-- The number is one that 24 bits stand for. -/
def InRange (value : Int32) : Prop := sampleMinimum ≤ value ∧ value ≤ sampleMaximum

instance (value : Int32) : Decidable (InRange value) := inferInstanceAs (Decidable (_ ∧ _))

/-- The word of the least number. -/
def leastWord : BitVec 24 := 0x800000

namespace Polarity

/-- The sample of a frame that has read this word. -/
def sampleOf (polarity : Polarity) (word : BitVec 24) : Int32 :=
  Int32.ofInt (polarity.sign.toInt * word.toInt)

theorem value_eq_sampleOf (polarity : Polarity) (word : BitVec 24) {halfCycles : Nat}
    (h : dataHalfCycles ≤ halfCycles) :
    (Frame.partway word halfCycles).value polarity = polarity.sampleOf word :=
  Frame.value_partway word h polarity

theorem toInt_sampleOf (polarity : Polarity) (word : BitVec 24) :
    (polarity.sampleOf word).toInt = polarity.sign.toInt * word.toInt := by
  rw [← value_eq_sampleOf polarity word le_rfl, Frame.toInt_value_partway word le_rfl]

theorem toInt_eq_least_iff (word : BitVec 24) : word.toInt = -8388608 ↔ word = leastWord := by
  have hleast : leastWord.toInt = -8388608 := by decide
  rw [← hleast, BitVec.toInt_inj]

/-- **One number has no negative**: only an inverted device leaves the range, and only with the
least word. -/
theorem inRange_sampleOf_iff (polarity : Polarity) (word : BitVec 24) :
    InRange (polarity.sampleOf word) ↔ ¬(polarity = .inverted ∧ word = leastWord) := by
  have hlow := word.le_toInt
  have hhigh := word.toInt_lt
  have hminimum : sampleMinimum.toInt = -8388608 := by decide
  have hmaximum : sampleMaximum.toInt = 8388607 := by decide
  rw [InRange, Int32.le_iff_toInt_le, Int32.le_iff_toInt_le, toInt_sampleOf, hminimum, hmaximum,
    ← toInt_eq_least_iff]
  cases polarity with
  | normal =>
      have hsign : normal.sign.toInt = 1 := rfl
      rw [hsign]
      simp only [reduceCtorEq, false_and, not_false_eq_true, iff_true]
      omega
  | inverted =>
      have hsign : inverted.sign.toInt = -1 := rfl
      rw [hsign]
      simp only [true_and]
      omega

theorem sampleOf_of_not_inRange {polarity : Polarity} {word : BitVec 24}
    (h : ¬InRange (polarity.sampleOf word)) : polarity.sampleOf word = sampleMaximum + 1 := by
  rw [inRange_sampleOf_iff, not_not] at h
  obtain ⟨rfl, rfl⟩ := h
  decide

end Polarity

namespace Device

variable {β : Type} [Board β]

/-! ## What frames read -/

/-- What the frames of a device have read. -/
structure Intake where
  /-- The levels that the frame in flight has taken. -/
  levels : List Level
  /-- The words of the frames that came to their ends, the earliest first. -/
  words : List (BitVec 24)

namespace Intake

/-- Nothing was read yet. -/
def empty : Intake := ⟨[], []⟩

/-- One more level was found on the data line. A high one before a frame is no part of it. -/
def take (intake : Intake) (gain : Gain) (high : Level) : Intake :=
  if intake.levels = [] ∧ high = true then intake
  else if intake.levels.length + 1 < gain.frameLength then
    { intake with levels := intake.levels ++ [high] }
  else ⟨[], intake.words ++ [dataWord (intake.levels ++ [high])]⟩

/-- The intake after an event. What the frame in flight has taken is lost with an enable request,
and with that only. -/
def next (intake : Intake) (device : Device) (rig : Rig β) : Event β → Intake
  | .query enable _ _ => if enable then { intake with levels := [] } else intake
  | .callback _ _ =>
      match (rig.read device.dout).1 with
      | .ok high => intake.take device.gain high
      | .error _ => intake
  | .arrange _ => intake

variable {intake : Intake} {gain : Gain} {high : Level}

theorem take_of_ready (hready : intake.levels = [] → high = false)
    (hlast : intake.levels.length + 1 < gain.frameLength) :
    intake.take gain high = { intake with levels := intake.levels ++ [high] } := by
  have hbegun : ¬(intake.levels = [] ∧ high = true) := fun h =>
    Bool.false_ne_true ((hready h.1).symm.trans h.2)
  rw [take, if_neg hbegun, if_pos hlast]

theorem take_last (hready : intake.levels = [] → high = false)
    (hlast : gain.frameLength ≤ intake.levels.length + 1) :
    intake.take gain high = ⟨[], intake.words ++ [dataWord (intake.levels ++ [high])]⟩ := by
  have hbegun : ¬(intake.levels = [] ∧ high = true) := fun h =>
    Bool.false_ne_true ((hready h.1).symm.trans h.2)
  rw [take, if_neg hbegun, if_neg (Nat.not_lt.mpr hlast)]

end Intake

/-- The intake at the end of a course. -/
def intake (device : Device) (rig : Rig β) (before : Intake) : List (Event β) → Intake
  | [] => before
  | event :: events =>
      (device.step rig event).device.intake (device.step rig event).rig
        (before.next device rig event) events

theorem intake_concat (device : Device) (rig : Rig β) (before : Intake) (events : List (Event β))
    (last : Event β) :
    device.intake rig before (events ++ [last])
      = (device.intake rig before events).next (device.after rig events).1
          (device.after rig events).2 last := by
  induction events generalizing device rig before with
  | nil => rfl
  | cons event events ih => exact ih ..

/-- The samples that an operation hands over. -/
def Outcome.samples {α : Type} (outcome : Outcome α β) : List Sample :=
  outcome.rig.effects.filterMap Effect.woken?

omit [Board β] in
theorem woken_log (rig : Rig β) (line : LogLine) :
    (rig.log line).effects.filterMap Effect.woken? = rig.effects.filterMap Effect.woken? := by
  rw [Rig.effects, Rig.log, Rig.trace_note, List.reverse_cons, List.filterMap_append]
  exact List.append_nil _

/-! ## A device and its intake -/

/-- The device has this intake: the levels are in its frame, and the last word is its latest
sample. -/
structure HasRead (device : Device) (intake : Intake) : Prop where
  frame : device.frame = .partway (dataWord intake.levels) intake.levels.length
  unfinished : intake.levels.length < device.gain.frameLength
  latest : device.latest = (intake.words.map device.polarity.sampleOf).getLastD 0

namespace HasRead

variable {device : Device} {intake : Intake} {rig : Rig β} {high : Level}

omit [Board β] in
theorem renewed (device : Device) : HasRead device.renewed .empty where
  frame := (Frame.partway_zero _).symm
  unfinished := Nat.lt_of_le_of_lt (Nat.zero_le _) device.gain.dataHalfCycles_lt_frameLength
  latest := rfl

omit [Board β] in
theorem halfCycles (h : HasRead device intake) :
    device.frame.halfCycles = intake.levels.length := by rw [h.frame, Frame.halfCycles_partway]

omit [Board β] in
theorem ready (h : HasRead device intake) (hready : device.frame.halfCycles = 0 → high = false) :
    intake.levels = [] → high = false := by
  intro hlevels
  apply hready
  rw [h.halfCycles, hlevels, List.length_nil]

omit [Board β] in
theorem frame_advance (h : HasRead device intake) (high : Level) :
    device.frame.advance high
      = .partway (dataWord (intake.levels ++ [high])) (intake.levels.length + 1) := by
  rw [h.frame]
  exact Frame.advance_partway_dataWord _ _

omit [Board β] in
/-- The frame in flight is dropped. -/
theorem restarted (h : HasRead device intake) {after : Device} (hframe : after.frame = .start)
    (hpolarity : after.polarity = device.polarity) (hlatest : after.latest = device.latest) :
    HasRead after { intake with levels := [] } where
  frame := hframe.trans (Frame.partway_zero _).symm
  unfinished := Nat.lt_of_le_of_lt (Nat.zero_le _) after.gain.dataHalfCycles_lt_frameLength
  latest := by rw [hlatest, h.latest, hpolarity]

omit [Board β] in
/-- The frame in flight takes one more level. -/
theorem advanced (h : HasRead device intake) (hready : device.frame.halfCycles = 0 → high = false)
    (hover : (device.frame.advance high).isOver device.gain = false) {after : Device}
    (hframe : after.frame = device.frame.advance high) (hgain : after.gain = device.gain)
    (hpolarity : after.polarity = device.polarity) (hlatest : after.latest = device.latest) :
    HasRead after (intake.take device.gain high) := by
  have hlast : intake.levels.length + 1 < device.gain.frameLength := by
    rw [Frame.isOver, Frame.halfCycles_advance, h.halfCycles] at hover
    exact Nat.not_le.mp (of_decide_eq_false hover)
  rw [Intake.take_of_ready (h.ready hready) hlast]
  refine ⟨?_, ?_, ?_⟩
  · rw [hframe, h.frame_advance, List.length_append, List.length_singleton]
  · rw [hgain, List.length_append, List.length_singleton]
    exact hlast
  · rw [hlatest, h.latest, hpolarity]

omit [Board β] in
/-- The frame in flight takes its last level and gives a sample. -/
theorem ended (h : HasRead device intake) (hready : device.frame.halfCycles = 0 → high = false)
    (hover : (device.frame.advance high).isOver device.gain = true) {after : Device}
    (hframe : after.frame = .start) (hpolarity : after.polarity = device.polarity)
    (hlatest : after.latest = (device.frame.advance high).value device.polarity) :
    HasRead after (intake.take device.gain high)
      ∧ ∃ word, (intake.take device.gain high).words = intake.words ++ [word]
        ∧ after.latest = device.polarity.sampleOf word := by
  have hlast : device.gain.frameLength ≤ intake.levels.length + 1 := by
    rw [Frame.isOver, Frame.halfCycles_advance, h.halfCycles] at hover
    exact of_decide_eq_true hover
  have hdata : dataHalfCycles ≤ intake.levels.length + 1 :=
    (Nat.le_of_lt device.gain.dataHalfCycles_lt_frameLength).trans hlast
  have hvalue : after.latest
      = device.polarity.sampleOf (dataWord (intake.levels ++ [high])) := by
    rw [hlatest, h.frame_advance, Polarity.value_eq_sampleOf _ _ hdata]
  rw [Intake.take_last (h.ready hready) hlast]
  refine ⟨⟨hframe.trans (Frame.partway_zero _).symm, ?_, ?_⟩, _, rfl, hvalue⟩
  · exact Nat.lt_of_le_of_lt (Nat.zero_le _) after.gain.dataHalfCycles_lt_frameLength
  · rw [hvalue, hpolarity, List.map_append, List.map_singleton, List.getLastD_concat]

/-- **One callback** reads what the intake says, and hands over no sample but that of the word that
it completes. -/
theorem callback (h : HasRead device intake) (now : Clock) (rig : Rig β) (guarded : Bool) :
    let called := device.callback now rig.forget
    let next := intake.next device rig (.callback now guarded)
    HasRead called.device next
      ∧ ∀ sample ∈ called.samples, ∃ word, next.words = intake.words ++ [word]
          ∧ sample.value = device.polarity.sampleOf word := by
  intro called next
  have hway : Called device now rig.forget called := device.called_callback now rig.forget
  have hnext : next = match (rig.forget.read device.dout).1 with
    | .ok high => intake.take device.gain high
    | .error _ => intake := rfl
  generalize called = outcome at hway ⊢
  generalize next = after at hnext ⊢
  cases hway with
  | unread fault hread =>
      rw [hread] at hnext
      subst hnext
      exact ⟨h, fun _ hmem => absurd hmem List.not_mem_nil⟩
  | waited hread hframe =>
      -- the device reads a high level before a frame, and so does the intake
      have hlevels : intake.levels = [] :=
        List.eq_nil_of_length_eq_zero (h.halfCycles.symm.trans hframe)
      rw [hread] at hnext
      dsimp only at hnext
      rw [Intake.take, if_pos ⟨hlevels, rfl⟩] at hnext
      subst hnext
      exact ⟨⟨h.frame, h.unfinished, h.latest⟩, fun _ hmem => absurd hmem List.not_mem_nil⟩
  | clocked high hread hready hover | stuck high fault hread hready hover =>
      -- the level is in the frame, whether or not the clock line could be driven
      rw [hread] at hnext
      subst hnext
      exact ⟨h.advanced hready hover rfl rfl rfl rfl,
        fun _ hmem => absurd hmem List.not_mem_nil⟩
  | delivered high hread hready hover hdrive =>
      have hpolarity : (device.finished high now).polarity = device.polarity :=
        (renewed_eq_iff.mp (renewed_finished device high now)).2.2.2.2.1
      have hlatest : (device.finished high now).latest
          = (device.frame.advance high).value device.polarity :=
        congrArg Sample.value (device.sample_finished high now)
      rw [hread] at hnext
      subst hnext
      obtain ⟨hread, word, hwords, hvalue⟩ :=
        h.ended hready hover (device.frame_finished high now) hpolarity hlatest
      refine ⟨hread, fun sample hmem => ?_⟩
      obtain rfl : sample = (device.finished high now).sample := List.mem_singleton.mp hmem
      exact ⟨word, hwords, hvalue⟩
  | withheld high fault hread hready hover =>
      -- the word is read, but its sample stays with the device
      have hended : HasRead (device.completed ((device.frame.advance high).value device.polarity))
          (intake.take device.gain high) ∧ _ := h.ended hready hover rfl rfl rfl
      rw [hread] at hnext
      subst hnext
      exact ⟨hended.1, fun _ hmem => absurd hmem List.not_mem_nil⟩

/-- **One event**, of any kind. -/
theorem step (h : HasRead device intake) (event : Event β) :
    HasRead (device.step rig event).device (intake.next device rig event)
      ∧ ∀ sample ∈ (device.step rig event).samples,
          ∃ word, (intake.next device rig event).words = intake.words ++ [word]
            ∧ sample.value = device.polarity.sampleOf word := by
  cases event with
  | query enable endstop now =>
      cases enable with
      | false =>
          exact ⟨⟨h.frame, h.unfinished, h.latest⟩, fun _ hmem => absurd hmem List.not_mem_nil⟩
      | true =>
          have hway := device.enabled_enable endstop now rig.forget
          show HasRead (device.enable endstop now rig.forget).device _
            ∧ ∀ sample ∈ (device.enable endstop now rig.forget).samples, _
          generalize device.enable endstop now rig.forget = outcome at hway ⊢
          cases hway with
          | armed | refused =>
              exact ⟨h.restarted rfl rfl rfl, fun _ hmem => absurd hmem List.not_mem_nil⟩
  | callback now guarded =>
      obtain ⟨hread, hsamples⟩ := h.callback now rig guarded
      rw [Device.step]
      split
      · exact ⟨hread, hsamples⟩
      · split
        · -- the device is stopped and the fault is logged, neither of which counts here
          refine ⟨⟨hread.frame, hread.unfinished, hread.latest⟩, fun sample hmem => ?_⟩
          rw [Outcome.samples, woken_log] at hmem
          exact hsamples sample hmem
        · exact ⟨hread, hsamples⟩
  | arrange change => exact ⟨h, fun _ hmem => absurd hmem List.not_mem_nil⟩

/-- **A whole course.** -/
theorem after (h : HasRead device intake) (events : List (Event β)) :
    HasRead (device.after rig events).1 (device.intake rig intake events) := by
  induction events generalizing device rig intake with
  | nil => exact h
  | cons event events ih => exact ih (h.step event).1

end HasRead

/-! ## The statement -/

/-- **Samples are in the range of 24 bits, but for one.** In every course of a new device, whatever
its gain, its polarity, the queries, the levels of the data line and the faults of the board: the
latest sample is that of the last word that was read, or zero, and is out of the range exactly if
the device is inverted and that word is the least one. The same is true of each sample that is
handed over and the word that it completes. Out of the range there is only the number that follows
the greatest. -/
theorem samples_in_range (device : Device) (rig : Rig β) (events : List (Event β)) :
    let now := device.renewed.after rig events
    let words := (device.renewed.intake rig .empty events).words
    now.1.latest = (words.map device.polarity.sampleOf).getLastD 0
      ∧ (InRange now.1.latest
          ↔ ¬(device.polarity = .inverted ∧ words.getLast? = some leastWord))
      ∧ (¬InRange now.1.latest → now.1.latest = sampleMaximum + 1)
      ∧ ∀ event, ∀ sample ∈ (now.1.step now.2 event).samples,
          ∃ word, (device.renewed.intake rig .empty (events ++ [event])).words = words ++ [word]
            ∧ sample.value = device.polarity.sampleOf word
            ∧ (InRange sample.value ↔ ¬(device.polarity = .inverted ∧ word = leastWord))
            ∧ (¬InRange sample.value → sample.value = sampleMaximum + 1) := by
  intro now words
  have hread : HasRead now.1 (device.renewed.intake rig .empty events) :=
    (HasRead.renewed device).after events
  have hpolarity : now.1.polarity = device.polarity :=
    (renewed_eq_iff.mp (device.renewed.renewed_after rig events)).2.2.2.2.1
  have hlatest : now.1.latest = (words.map device.polarity.sampleOf).getLastD 0 := by
    rw [hread.latest, hpolarity]
  have hrange : (InRange now.1.latest
        ↔ ¬(device.polarity = .inverted ∧ words.getLast? = some leastWord))
      ∧ (¬InRange now.1.latest → now.1.latest = sampleMaximum + 1) := by
    rw [hlatest]
    rcases List.eq_nil_or_concat words with hnone | ⟨others, word, hwords⟩
    · have hzero : InRange 0 := by decide
      simp [hnone, hzero]
    · rw [hwords, List.concat_eq_append, List.map_append, List.map_singleton, List.getLastD_concat,
        List.getLast?_concat, Option.some.injEq]
      exact ⟨device.polarity.inRange_sampleOf_iff word, Polarity.sampleOf_of_not_inRange⟩
  refine ⟨hlatest, hrange.1, hrange.2, fun event sample hmem => ?_⟩
  obtain ⟨word, hwords, hvalue⟩ := (hread.step event).2 sample hmem
  rw [hpolarity] at hvalue
  rw [intake_concat, hvalue]
  exact ⟨word, hwords, rfl, device.polarity.inRange_sampleOf_iff word,
    Polarity.sampleOf_of_not_inRange⟩

/-- A frame in which only the first data bit is high. -/
def leastFrame : List (Event Bench) :=
  .query true none 5 :: (List.range 50).flatMap fun i => Event.callAt (i == 1) 30

/-- A new inverted device has read the least word, and neither its latest sample nor the one that
it has handed over is in the range. -/
theorem least_inverted_leaves_range :
    let rig := Rig.start Bench.empty 1
    let handed := (inverse.transcript rig leastFrame).flatMap fun entry =>
      entry.2.filterMap Effect.woken?
    inverse.renewed = inverse
      ∧ (inverse.after rig leastFrame).1.latest = 8388608
      ∧ handed.map Sample.value = [8388608]
      ∧ ¬InRange (inverse.after rig leastFrame).1.latest
      ∧ ¬∀ sample ∈ handed, InRange sample.value := by
  decide +kernel

end Device

end WeighScale
