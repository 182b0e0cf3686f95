import WeighScale.Proofs.Acquisition

set_option autoImplicit false

/-! # Acquisition from end to end

A run on the bench of a rack, from the chips to the messages that the host receives. The moves
of a run (`Move`) are those of a host, and of a main loop that delivers after every callback:
circuits are configured, their devices are enabled and disabled, and callbacks are made in any
order and at any clock. A run is orderly (`Rack.Orderly`) if no circuit is configured twice and
no device is enabled in the middle of a frame, where its chip would be left behind.

Whatever the order of the moves, every message that is sent can be read by the host, and the
readings of a circuit are the conversions of its chip, from the first one on, none left out and
none doubled (`readings_in_order`).
-/

namespace WeighScale

/-- A move of a run. -/
inductive Move
  /-- The host configures the device of a circuit. -/
  | configure (circuit : Circuit) (now : Clock)
  /-- The host starts or stops a device. -/
  | query (request : Wire.Query) (now : Clock)
  /-- A callback is made, and the main loop delivers what came of it. -/
  | callback (timer : Timer) (now : Clock)
  deriving DecidableEq, Repr

/-- The operations of a move. -/
def Move.operations (ids : Wire.Ids) (probe : Bool) : Move → List Scale.Operation
  | configure circuit now => [.request (.configure circuit.request) now]
  | query request now => [.request (.query request) now]
  | callback timer now => [.serve timer now, .deliver ids probe]

namespace Rack

/-- Whether a move is in order. A device can be disabled at any time. -/
def Allows (rack : Rack) (scale : Scale Bench) : Move → Prop
  | .configure circuit _ => circuit ∈ rack.circuits ∧ scale.device? circuit.oid = none
  | .query request _ => request.enable = true →
      ∀ device ∈ scale.device? request.oid, device.frame.halfCycles = 0
  | .callback _ _ => True

/-- Whether all moves of a run are in order, each where it is made. -/
def Orderly (rack : Rack) (ids : Wire.Ids) (probe : Bool) : Scale Bench → List Move → Prop
  | _, [] => True
  | scale, move :: moves =>
      rack.Allows scale move
        ∧ rack.Orderly ids probe (scale.after (move.operations ids probe)) moves

instance (rack : Rack) (scale : Scale Bench) : DecidablePred (rack.Allows scale)
  | .configure circuit _ =>
      inferInstanceAs (Decidable (circuit ∈ rack.circuits ∧ scale.device? circuit.oid = none))
  | .query request _ =>
      inferInstanceAs (Decidable (request.enable = true →
        ∀ device ∈ scale.device? request.oid, device.frame.halfCycles = 0))
  | .callback _ _ => .isTrue trivial

instance decidableOrderly (rack : Rack) (ids : Wire.Ids) (probe : Bool) :
    ∀ (scale : Scale Bench) (moves : List Move), Decidable (rack.Orderly ids probe scale moves)
  | _, [] => .isTrue trivial
  | scale, move :: moves =>
      have := decidableOrderly rack ids probe (scale.after (move.operations ids probe)) moves
      inferInstanceAs (Decidable (rack.Allows scale move
        ∧ rack.Orderly ids probe (scale.after (move.operations ids probe)) moves))

/-- Whether a move can be made at all: no circuit is configured twice. -/
def Permits (rack : Rack) (scale : Scale Bench) : Move → Prop
  | .configure circuit _ => circuit ∈ rack.circuits ∧ scale.device? circuit.oid = none
  | .query _ _ => True
  | .callback _ _ => True

theorem Allows.permits {rack : Rack} {scale : Scale Bench} {move : Move}
    (h : rack.Allows scale move) : rack.Permits scale move := by
  cases move with
  | configure => exact h
  | query | callback => trivial

end Rack

namespace Scale

variable {rack : Rack} {ids : Wire.Ids} {lost : UInt8 → Nat} {scale : Scale Bench}
  {chips : Circuit → Chip} {readings : List Wire.Reading}

/-! ## Moves and the invariant -/

/-- The rising edges that a move makes a device lose. -/
def lostBy (scale : Scale Bench) : Move → UInt8 → Nat
  | .query request _ => scale.lostTo request
  | .configure _ _ => fun _ => 0
  | .callback _ _ => fun _ => 0

/-- **Each move keeps the invariant.** -/
theorem Tracked.step (h : Tracked rack ids lost scale chips readings) (probe : Bool) {move : Move}
    (hmove : rack.Permits scale move) :
    Continued rack ids (fun oid => lost oid + scale.lostBy move oid)
      (scale.after (move.operations ids probe)) readings := by
  cases move with
  | configure circuit now =>
      obtain ⟨chips, hnext⟩ := h.configure hmove.1 hmove.2
      exact hnext.continued
  | query request now =>
      obtain ⟨chips, hnext⟩ := h.query request now
      exact hnext.continued
  | callback timer now => exact h.callback timer now probe

/-- A move that is in order loses nothing. -/
theorem lostBy_of_allows {move : Move} (h : rack.Allows scale move) (oid : UInt8) :
    scale.lostBy move oid = 0 := by
  cases move with
  | configure | callback => rfl
  | query request now =>
      show scale.lostTo request oid = 0
      cases henable : request.enable with
      | false => exact scale.lostTo_of_disable henable oid
      | true =>
          by_cases hoid : oid = request.oid
          · subst hoid
            cases hfound : scale.device? request.oid with
            | none => exact lostTo_of_none hfound request.oid
            | some device =>
                have hframe : device.frame.halfCycles = 0 := h henable device hfound
                rw [lostTo_of_enable henable hfound, Frame.edges, hframe]
          · exact scale.lostTo_of_ne hoid

/-! ## Orderly runs -/

/-- A scale that has lost nothing, and the samples that it has sent. -/
structure Sampled (rack : Rack) (ids : Wire.Ids) (scale : Scale Bench) (chips : Circuit → Chip)
    (readings : List Wire.Reading) : Prop
    extends Tracked rack ids (fun _ => 0) scale chips readings where
  reported : Reported rack readings

theorem sampled_start (rack : Rack) (delays : Delays) (capacity : Nat) (ids : Wire.Ids) :
    Sampled rack ids (start rack.start delays capacity) (fun circuit => .start circuit.plan)
      [] where
  toTracked := tracked_start rack delays capacity ids
  reported := ⟨fun _ h => absurd h List.not_mem_nil, fun _ _ _ _ h => by cases h⟩

/-- Each move that is in order sends the next sample of a circuit or nothing. -/
theorem Sampled.allowed (h : Sampled rack ids scale chips readings) (probe : Bool) {move : Move}
    (hmove : rack.Allows scale move) :
    ∃ chips readings,
      Sampled rack ids (scale.after (move.operations ids probe)) chips readings := by
  obtain ⟨chips, more, hnext, hmore⟩ := h.toTracked.step probe hmove.permits
  simp only [lostBy_of_allows hmove] at hnext hmore
  refine ⟨chips, readings ++ more.toList, hnext, ?_⟩
  cases more with
  | none =>
      rw [Option.toList_none, List.append_nil]
      exact h.reported
  | some reading =>
      obtain ⟨circuit, hmem, hreading⟩ := hmore reading rfl
      refine h.reported.append hmem fun other hother => ?_
      obtain rfl : reading = other := Option.some.inj hother
      exact hreading

theorem Sampled.orderly (probe : Bool) {moves : List Move}
    (h : Sampled rack ids scale chips readings) (hmoves : rack.Orderly ids probe scale moves) :
    ∃ chips readings,
      Sampled rack ids (scale.after (moves.flatMap (·.operations ids probe))) chips readings := by
  induction moves generalizing scale chips readings with
  | nil => exact ⟨chips, readings, h⟩
  | cons move moves ih =>
      obtain ⟨hmove, hothers⟩ := hmoves
      obtain ⟨chips, readings, hnext⟩ := h.allowed probe hmove
      rw [List.flatMap_cons, after_append]
      exact ih hnext hothers

/-- **Samples arrive as they were converted.** In an orderly run of any rack, with any delays and
room for any number of devices, whatever callbacks are made in whatever order,

* every message sent is a reading that the host decodes, and is one of a circuit of the rack;
* reading `i` of a circuit has the value of conversion `i` of its chip;
* no conversion is left out: the chip has handed out as many as there are readings, or is in
  the last pulse of the frame of one more. -/
theorem readings_in_order (rack : Rack) (delays : Delays) (capacity : Nat) (ids : Wire.Ids)
    (probe : Bool) (moves : List Move)
    (horderly : rack.Orderly ids probe (start rack.start delays capacity) moves) :
    ∃ readings chips inputs outputs,
      ((start rack.start delays capacity).after
          (moves.flatMap (·.operations ids probe))).rig.sent.map (Wire.Reading.decode ids)
        = readings.map Except.ok
      ∧ ((start rack.start delays capacity).after
          (moves.flatMap (·.operations ids probe))).rig.board = rack.bench chips inputs outputs
      ∧ (∀ reading ∈ readings, ∃ circuit ∈ rack.circuits, circuit.oid = reading.oid)
      ∧ ∀ circuit ∈ rack.circuits,
          (∀ i reading, (readingsOf circuit.oid readings)[i]? = some reading →
            reading.value.toInt = circuit.sample i)
          ∧ (readingsOf circuit.oid readings).length ≤ (chips circuit).served
          ∧ (chips circuit).served ≤ (readingsOf circuit.oid readings).length + 1 := by
  obtain ⟨chips, readings, hend⟩ := (sampled_start rack delays capacity ids).orderly probe horderly
  obtain ⟨inputs, outputs, hboard⟩ := hend.board
  refine ⟨readings, chips, inputs, outputs, ?_, hboard, hend.reported.known,
    fun circuit hmem => ⟨hend.reported.values circuit hmem, (hend.linked circuit hmem).served⟩⟩
  rw [hend.sent, List.map_map]
  exact List.map_congr_left fun reading _ => reading.decode_body_self ids

/-- Two circuits with different gains and polarities. -/
def pair : Rack where
  circuits :=
    [⟨4, 2, 3, .a128, .normal, 0x800000, [0x1234], 1⟩,
      ⟨9, 6, 7, .a64, .inverted, 0xff0001, [], 3⟩]
  oids_nodup := by decide
  douts_nodup := by decide
  scks_nodup := by decide

/-- Both are configured and enabled and then called in turn; the first is disabled in the middle
of its frame. -/
def pairMoves : List Move :=
  pair.circuits.map (fun circuit => .configure circuit 0)
    ++ [.query ⟨4, true, none⟩ 0, .query ⟨9, true, none⟩ 0]
    ++ (List.replicate 30 [.callback ⟨9, 0⟩ 0, .callback ⟨4, 0⟩ 0]).flatten
    ++ [.query ⟨4, false, none⟩ 0]
    ++ (List.replicate 30 [.callback ⟨9, 0⟩ 0, .callback ⟨4, 0⟩ 0]).flatten

/-- The run is orderly, and each of the two circuits has sent a reading. -/
theorem readings_in_order_pair :
    pair.Orderly .standard false (start pair.start ⟨0, 0, 0⟩ 2) pairMoves
      ∧ ∃ readings,
          ((start pair.start ⟨0, 0, 0⟩ 2).after
              (pairMoves.flatMap (·.operations .standard false))).rig.sent.map
                (Wire.Reading.decode .standard)
            = readings.map Except.ok
          ∧ readings.length = 2
          ∧ ∀ circuit ∈ pair.circuits, ∀ i reading,
              (readingsOf circuit.oid readings)[i]? = some reading →
                reading.value.toInt = circuit.sample i := by
  have horderly : pair.Orderly .standard false (start pair.start ⟨0, 0, 0⟩ 2) pairMoves := by
    decide +kernel
  have hcount : ((start pair.start ⟨0, 0, 0⟩ 2).after
      (pairMoves.flatMap (·.operations .standard false))).rig.sent.length = 2 := by
    decide +kernel
  obtain ⟨readings, _, _, _, hsent, -, -, hvalues⟩ :=
    readings_in_order pair ⟨0, 0, 0⟩ 2 .standard false pairMoves horderly
  refine ⟨horderly, readings, hsent, ?_, fun circuit hmem => (hvalues circuit hmem).1⟩
  have hlength := congrArg List.length hsent
  rw [List.length_map, List.length_map, hcount] at hlength
  exact hlength.symm

end Scale

end WeighScale
