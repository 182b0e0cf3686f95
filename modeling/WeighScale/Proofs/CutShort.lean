import WeighScale.Proofs.EndToEnd

set_option autoImplicit false

/-! # Frames that are cut short

Enabling a device in the middle of a frame clears the frame, but there is no telling the chip:
it stays where it is, and the next frame begins there. The rising edges of the frame that was
cut short are lost for good (`Scale.lostIn`). From then on each reading holds the end of one
conversion and the beginning of the next, until the edges lost make up whole conversions again.

This settles every reading of every run (`readings_after_cuts`): if the edges that its device
has lost by then are a multiple of those of a conversion, it is one of the conversions, and in
any case it is the word that the line gives from the place on where the chip is.
-/

namespace WeighScale

namespace Rack

/-- Whether a run can be made: no circuit is configured twice. -/
def Runs (rack : Rack) (ids : Wire.Ids) (probe : Bool) : Scale Bench → List Move → Prop
  | _, [] => True
  | scale, move :: moves =>
      rack.Permits scale move ∧ rack.Runs ids probe (scale.after (move.operations ids probe)) moves

instance (rack : Rack) (scale : Scale Bench) : DecidablePred (rack.Permits scale)
  | .configure circuit _ =>
      inferInstanceAs (Decidable (circuit ∈ rack.circuits ∧ scale.device? circuit.oid = none))
  | .query _ _ => .isTrue trivial
  | .callback _ _ => .isTrue trivial

instance decidableRuns (rack : Rack) (ids : Wire.Ids) (probe : Bool) :
    ∀ (scale : Scale Bench) (moves : List Move), Decidable (rack.Runs ids probe scale moves)
  | _, [] => .isTrue trivial
  | scale, move :: moves =>
      have := decidableRuns rack ids probe (scale.after (move.operations ids probe)) moves
      inferInstanceAs (Decidable (rack.Permits scale move
        ∧ rack.Runs ids probe (scale.after (move.operations ids probe)) moves))

theorem runs_concat {rack : Rack} {ids : Wire.Ids} {probe : Bool} {scale : Scale Bench}
    {moves : List Move} {move : Move} :
    rack.Runs ids probe scale (moves ++ [move])
      ↔ rack.Runs ids probe scale moves
        ∧ rack.Permits (scale.after (moves.flatMap (·.operations ids probe))) move := by
  induction moves generalizing scale with
  | nil =>
      rw [List.nil_append, Runs]
      exact and_comm
  | cons first others ih =>
      rw [List.cons_append, Runs, Runs, ih, List.flatMap_cons, Scale.after_append, and_assoc]

end Rack

namespace Scale

variable {rack : Rack} {ids : Wire.Ids} {lost : UInt8 → Nat} {scale : Scale Bench}
  {chips : Circuit → Chip} {readings : List Wire.Reading}

/-- The rising edges that a run makes a device lose. -/
def lostIn (ids : Wire.Ids) (probe : Bool) (scale : Scale Bench) : List Move → UInt8 → Nat
  | [], _ => 0
  | move :: moves, oid =>
      scale.lostBy move oid + (scale.after (move.operations ids probe)).lostIn ids probe moves oid

theorem lostIn_concat (ids : Wire.Ids) (probe : Bool) (scale : Scale Bench) (moves : List Move)
    (move : Move) (oid : UInt8) :
    scale.lostIn ids probe (moves ++ [move]) oid
      = scale.lostIn ids probe moves oid
        + (scale.after (moves.flatMap (·.operations ids probe))).lostBy move oid := by
  induction moves generalizing scale with
  | nil => exact Nat.add_comm _ 0
  | cons first others ih =>
      rw [List.cons_append, lostIn, lostIn, ih, List.flatMap_cons, after_append, Nat.add_assoc]

/-- **A whole run keeps the invariant**, and the edges lost add up. -/
theorem Tracked.run (probe : Bool) {moves : List Move}
    (h : Tracked rack ids lost scale chips readings) (hmoves : rack.Runs ids probe scale moves) :
    ∃ chips readings,
      Tracked rack ids (fun oid => lost oid + scale.lostIn ids probe moves oid)
        (scale.after (moves.flatMap (·.operations ids probe))) chips readings := by
  induction moves generalizing lost scale chips readings with
  | nil => exact ⟨chips, readings, h⟩
  | cons move moves ih =>
      obtain ⟨hmove, hothers⟩ := hmoves
      obtain ⟨chips, more, hnext, -⟩ := h.step probe hmove
      obtain ⟨chips, readings, hend⟩ := ih hnext hothers
      rw [List.flatMap_cons, after_append]
      simp only [Nat.add_assoc] at hend
      exact ⟨chips, readings, hend⟩

/-- The host reads what was sent. -/
theorem Tracked.decoded (h : Tracked rack ids lost scale chips readings) :
    scale.rig.sent.map (Wire.Reading.decode ids) = readings.map Except.ok := by
  rw [h.sent, List.map_map]
  refine List.map_congr_left fun reading _ => ?_
  have hdecode := reading.decode_body_append ids []
  rw [List.append_nil] at hdecode
  exact hdecode

end Scale

/-- The samples of a circuit come round. -/
theorem Circuit.sample_mod (circuit : Circuit) (i : Nat) :
    circuit.sample i = circuit.sample (i % circuit.plan.conversions.length) := by
  have hconversion : circuit.plan.conversion i
      = circuit.plan.conversion (i % circuit.plan.conversions.length) := by
    simp only [ChipPlan.conversion, Nat.mod_mod]
  rw [sample, sample, ChipPlan.word, ChipPlan.word, hconversion]

/-- After whole conversions that were lost, a frame begins between two conversions. -/
theorem Circuit.sampleAt_of_dvd (circuit : Circuit) (n : Nat) {lost : Nat}
    (h : circuit.plan.period ∣ lost) :
    circuit.sampleAt (n * circuit.plan.period + lost)
      = circuit.sample (n + lost / circuit.plan.period) := by
  obtain ⟨skipped, rfl⟩ := h
  rw [Nat.mul_div_cancel_left _ ChipPlan.period_pos, Nat.mul_comm circuit.plan.period skipped,
    ← Nat.add_mul, sampleAt_mul]

namespace Scale

/-- What the last move of a run adds to the readings, in any run in which no circuit is
configured twice, whatever is enabled and disabled and when: nothing, or one reading of a
circuit. If its device has sent `n` readings before and has lost some rising edges by then, the
reading is the word on the line from as many edges on. If the edges lost make up whole
conversions, that is one of the conversions. -/
theorem readings_after_cuts (rack : Rack) (delays : Delays) (capacity : Nat) (ids : Wire.Ids)
    (probe : Bool) (moves : List Move) (move : Move)
    (hmoves : rack.Runs ids probe (start rack.start delays capacity) (moves ++ [move])) :
    let begun := start rack.start delays capacity
    let before := begun.after (moves.flatMap (·.operations ids probe))
    let next := before.after (move.operations ids probe)
    ∃ readings, ∃ more : Option Wire.Reading,
      before.rig.sent.map (Wire.Reading.decode ids) = readings.map Except.ok
        ∧ next.rig.sent.map (Wire.Reading.decode ids)
          = (readings ++ more.toList).map Except.ok
        ∧ ∀ reading ∈ more, ∃ circuit ∈ rack.circuits, reading.oid = circuit.oid
          ∧ let n := (readingsOf circuit.oid readings).length
            let lost := begun.lostIn ids probe (moves ++ [move]) circuit.oid
            reading.value.toInt = circuit.sampleAt (n * circuit.plan.period + lost)
              ∧ (circuit.plan.period ∣ lost →
                  reading.value.toInt = circuit.sample (n + lost / circuit.plan.period)) := by
  intro begun before next
  obtain ⟨hbegun, hmove⟩ := Rack.runs_concat.mp hmoves
  obtain ⟨chips, readings, hbefore⟩ :=
    (tracked_start rack delays capacity ids).run probe hbegun
  obtain ⟨chips, more, hnext, hmore⟩ := hbefore.step probe hmove
  refine ⟨readings, more, hbefore.decoded, hnext.decoded, fun reading hreading => ?_⟩
  obtain ⟨circuit, hmem, hoid, hvalue⟩ := hmore reading hreading
  dsimp only at hvalue
  rw [Nat.zero_add, ← lostIn_concat] at hvalue
  refine ⟨circuit, hmem, hoid, hvalue, fun hwhole => ?_⟩
  rw [← circuit.sampleAt_of_dvd _ hwhole]
  exact hvalue

/-- A circuit whose chip has one conversion. -/
def lone : Circuit := ⟨0, 4, 5, .a128, .normal, 0x1234, [], 3⟩

/-- A rack with this circuit only. -/
def loneRack : Rack where
  circuits := [lone]
  oids_nodup := by decide
  douts_nodup := by decide
  scks_nodup := by decide

/-- Its device on a scale, before it is configured. -/
def loneStart : Scale Bench := start loneRack.start ⟨12500, 40, 200⟩ 4

/-- The device is enabled. -/
def enableAt (now : Clock) : Move := .query ⟨0, true, some 7⟩ now

/-- So many callbacks of the device, one every `delay` ticks from a clock on. -/
def callbacksFrom (clock delay : Clock) (count : Nat) : List Move :=
  (List.range count).map fun i =>
    let now := clock + delay * UInt32.ofNat i
    Move.callback ⟨0, now⟩ now

/-- The first frame is cut short after 10 half-cycles and the second one after 40. The third one
lacks its last half-cycle. -/
def twiceCut : List Move :=
  [Move.configure lone 0, enableAt 0] ++ callbacksFrom 200 40 10
    ++ [enableAt 560] ++ callbacksFrom 760 40 40
    ++ [enableAt 2320] ++ callbacksFrom 2520 200 2 ++ callbacksFrom 2920 40 49

/-- The edges lost make up one conversion, so the reading is the conversion after it. -/
theorem readings_after_cuts_twiceCut :
    let before := loneStart.after (twiceCut.flatMap (·.operations .standard true))
    let next := before.after (Move.operations .standard true (.callback ⟨0, 4880⟩ 4880))
    loneRack.Runs .standard true loneStart (twiceCut ++ [.callback ⟨0, 4880⟩ 4880])
      ∧ loneStart.lostIn .standard true (twiceCut ++ [.callback ⟨0, 4880⟩ 4880]) 0 = 25
      ∧ before.rig.sent = []
      ∧ ∃ reading, next.rig.sent.map (Wire.Reading.decode .standard) = [.ok reading]
          ∧ reading.value.toInt = lone.sample 1 := by
  intro before next
  have hruns : loneRack.Runs .standard true loneStart
      (twiceCut ++ [.callback ⟨0, 4880⟩ 4880]) := by decide +kernel
  have hlost : loneStart.lostIn .standard true (twiceCut ++ [.callback ⟨0, 4880⟩ 4880]) 0 = 25 := by
    decide +kernel
  have hnone : before.rig.sent = [] := by decide +kernel
  have hone : next.rig.sent.length = 1 := by decide +kernel
  obtain ⟨readings, more, hbefore, hnext, hmore⟩ :=
    readings_after_cuts loneRack ⟨12500, 40, 200⟩ 4 .standard true twiceCut
      (.callback ⟨0, 4880⟩ 4880) hruns
  change before.rig.sent.map _ = _ at hbefore
  change next.rig.sent.map _ = _ at hnext
  rw [hnone] at hbefore
  obtain rfl : readings = [] := List.map_eq_nil_iff.mp hbefore.symm
  cases more with
  | none =>
      rw [List.eq_nil_of_map_eq_nil hnext] at hone
      cases hone
  | some reading =>
      obtain ⟨circuit, hmem, -, -, hvalue⟩ := hmore reading rfl
      obtain rfl : circuit = lone := List.mem_singleton.mp hmem
      have hperiod : lone.plan.period = 25 := rfl
      have hoid : lone.oid = 0 := rfl
      rw [← loneStart, hoid, hlost, hperiod] at hvalue
      exact ⟨hruns, hlost, hnone, reading, hnext, hvalue (Nat.dvd_refl 25)⟩

/-- The first frame is cut short after 10 half-cycles, and the second one is completed. -/
def onceCut : List Move :=
  [Move.configure lone 0, enableAt 0] ++ callbacksFrom 200 40 10
    ++ [enableAt 560] ++ callbacksFrom 760 40 50

/-- The reading after a frame that was cut short need not be any of the conversions. -/
theorem reading_after_cut_is_shifted :
    loneRack.Runs .standard true loneStart onceCut
      ∧ (loneStart.after (onceCut.flatMap (·.operations .standard true))).rig.sent.map
          (Wire.Reading.decode .standard) = [.ok ⟨0, 15220, 149144⟩]
      ∧ ∀ i, lone.sample i ≠ 149144 := by
  refine ⟨by decide +kernel, by decide +kernel, fun i => ?_⟩
  have hone : i % lone.plan.conversions.length = 0 := Nat.mod_one i
  rw [Circuit.sample_mod, hone]
  decide +kernel

end Scale

end WeighScale
