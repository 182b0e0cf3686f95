import WeighScale.Delivery
import WeighScale.Proofs.Wire.Codec

set_option autoImplicit false

/-! # What a delivery sends

There is room in a message for every reading, so a delivery sends all samples that it finds,
in order, and drops none. The messages that went out are read off the trace (`Rig.sent`).
-/

namespace WeighScale

namespace Handoff

theorem samples_clear (capacity : Nat) : (clear capacity).samples = [] :=
  List.filterMap_replicate_of_none rfl

theorem samples_wake_clear {capacity slot : Nat} {sample : Sample} (h : slot < capacity) :
    ((clear capacity).wake slot sample).samples = [sample] := by
  have hlength : slot < (List.replicate capacity (none : Option Sample)).length := by
    rw [List.length_replicate]
    exact h
  -- the slots before and after the one that was woken are clear
  rw [samples, wake, clear, List.set_eq_take_append_cons_drop, if_pos hlength,
    List.take_replicate, List.drop_replicate, List.filterMap_append,
    List.filterMap_replicate_of_none rfl, List.nil_append, List.filterMap_cons,
    List.filterMap_replicate_of_none rfl]
  rfl

end Handoff

namespace Rig

variable {β : Type}

/-- The messages sent so far, the earliest first. -/
def sent (rig : Rig β) : List (List UInt8) := rig.effects.filterMap Effect.sent?

theorem sent_note (rig : Rig β) (effect : Effect) :
    (rig.note effect).sent = rig.sent ++ effect.sent?.toList := by
  rw [sent, effects, trace_note, List.reverse_cons, List.filterMap_append, sent, effects]
  cases h : effect.sent? <;> simp [h]

theorem sent_note_of_none (rig : Rig β) {effect : Effect} (h : effect.sent? = none) :
    (rig.note effect).sent = rig.sent := by
  rw [sent_note, h, Option.toList_none, List.append_nil]

/-! ## Nothing but a delivery sends -/

section Silent

theorem sent_cancel (rig : Rig β) (oid : UInt8) : (rig.cancel oid).sent = rig.sent :=
  sent_note_of_none _ rfl

theorem sent_schedule (rig : Rig β) (oid : UInt8) (clock : Clock) :
    (rig.schedule oid clock).sent = rig.sent := sent_note_of_none _ rfl

theorem sent_wake (rig : Rig β) (slot : Nat) (sample : Sample) :
    (rig.wake slot sample).sent = rig.sent := sent_note_of_none _ rfl

theorem sent_log (rig : Rig β) (line : LogLine) : (rig.log line).sent = rig.sent :=
  sent_note_of_none _ rfl

variable [Board β]

theorem sent_setupInput (rig : Rig β) (pin : Pin) (pull : Pull) :
    (rig.setupInput pin pull).2.sent = rig.sent := sent_note_of_none _ rfl

theorem sent_setupOutput (rig : Rig β) (pin : Pin) (high : Level) :
    (rig.setupOutput pin high).2.sent = rig.sent := sent_note_of_none _ rfl

theorem sent_read (rig : Rig β) (pin : Pin) : (rig.read pin).2.sent = rig.sent :=
  sent_note_of_none _ rfl

theorem sent_drive (rig : Rig β) (pin : Pin) (high : Level) :
    (rig.drive pin high).2.sent = rig.sent := sent_note_of_none _ rfl

end Silent

/-! ## A delivery sends everything -/

/-- The message of a reading always goes out. -/
theorem send_eq (rig : Rig β) (ids : Wire.Ids) (reading : Wire.Reading) :
    rig.send ids reading
      = (true, (rig.log (.sending reading)).note (.send (reading.body ids))) := by
  rw [send, reading.encode_eq_body ids]

end Rig

/-- The sample is shown to its endstop, if it has one and there is a probe. -/
def Sample.shown (sample : Sample) (probe : Bool) : List Effect :=
  if probe then sample.endstop.toList.map fun endstop => .probe endstop sample.value sample.clock
  else []

/-- What is done about a sample when it is delivered: it is shown to its endstop, then sent. -/
def Sample.announced (sample : Sample) (ids : Wire.Ids) (probe : Bool) : List Effect :=
  sample.shown probe ++ [.log (.sending sample.reading), .send (sample.reading.body ids)]

/-- The oid of the device, if the effect is that its reading was dropped. -/
def Effect.dropped? : Effect → Option UInt8
  | log (.dropped oid _) => some oid
  | _ => none

theorem Sample.dropped_announced (sample : Sample) (ids : Wire.Ids) (probe : Bool) :
    (sample.announced ids probe).filterMap Effect.dropped? = [] := by
  have hshown : (sample.shown probe).filterMap Effect.dropped? = [] := by
    unfold shown
    cases probe <;> cases sample.endstop <;> rfl
  rw [announced, List.filterMap_append, hshown]
  rfl

theorem Sample.sent_announced (sample : Sample) (ids : Wire.Ids) (probe : Bool) :
    (sample.announced ids probe).filterMap Effect.sent? = [sample.reading.body ids] := by
  have hshown : (sample.shown probe).filterMap Effect.sent? = [] := by
    unfold shown
    cases probe <;> cases sample.endstop <;> rfl
  rw [announced, List.filterMap_append, hshown]
  rfl

namespace Rig

variable {β : Type}

theorem showSample_eq (rig : Rig β) (probe : Bool) (sample : Sample) :
    rig.showSample probe sample
      = { rig with trace := (sample.shown probe).reverse ++ rig.trace } := by
  unfold showSample Sample.shown
  cases probe <;> cases sample.endstop <;> rfl

/-- **No sample is dropped.** A delivery announces the samples in order, and changes nothing but
the trace. -/
theorem deliverSamples_eq (ids : Wire.Ids) (probe : Bool) (samples : List Sample)
    (rig : Rig β) :
    deliverSamples ids probe samples rig
      = (samples.length,
          { rig with
            trace := (samples.flatMap (·.announced ids probe)).reverse ++ rig.trace }) := by
  induction samples generalizing rig with
  | nil => rfl
  | cons sample samples ih =>
      rw [deliverSamples, send_eq, showSample_eq, ih, List.flatMap_cons, List.reverse_append,
        List.append_assoc, Sample.announced, List.reverse_append]
      rfl

theorem deliver_eq (rig : Rig β) (ids : Wire.Ids) (probe : Bool) :
    rig.deliver ids probe
      = (rig.handoff.samples.length,
          { rig with
            handoff := .clear rig.handoff.capacity
            trace := (rig.handoff.samples.flatMap (·.announced ids probe)).reverse
              ++ rig.trace }) :=
  deliverSamples_eq ..

/-- A delivery sends each sample as the message of its reading. -/
theorem sent_deliver (rig : Rig β) (ids : Wire.Ids) (probe : Bool) :
    (rig.deliver ids probe).2.sent
      = rig.sent ++ rig.handoff.samples.map fun sample => sample.reading.body ids := by
  have hbodies : (rig.handoff.samples.flatMap (·.announced ids probe)).filterMap Effect.sent?
      = rig.handoff.samples.map fun sample => sample.reading.body ids := by
    simp only [List.filterMap_flatMap, Sample.sent_announced]
    exact List.map_eq_flatMap.symm
  rw [deliver_eq, sent, effects, List.reverse_append, List.reverse_reverse,
    List.filterMap_append, hbodies]
  rfl

/-- With every slot clear there is nothing to send. -/
theorem sent_deliver_of_clear {rig : Rig β} {capacity : Nat}
    (h : rig.handoff = .clear capacity) (ids : Wire.Ids) (probe : Bool) :
    (rig.deliver ids probe).2.sent = rig.sent := by
  rw [sent_deliver, h, Handoff.samples_clear, List.map_nil, List.append_nil]

/-- A sample in one slot is sent, and nothing else is. -/
theorem sent_deliver_of_wake {rig : Rig β} {capacity slot : Nat} {sample : Sample}
    (h : rig.handoff = (Handoff.clear capacity).wake slot sample) (hslot : slot < capacity)
    (ids : Wire.Ids) (probe : Bool) :
    (rig.deliver ids probe).2.sent = rig.sent ++ [sample.reading.body ids] := by
  rw [sent_deliver, h, Handoff.samples_wake_clear hslot, List.map_singleton]

theorem timers_deliver (rig : Rig β) (ids : Wire.Ids) (probe : Bool) :
    (rig.deliver ids probe).2.timers = rig.timers := by rw [deliver_eq]

theorem board_deliver (rig : Rig β) (ids : Wire.Ids) (probe : Bool) :
    (rig.deliver ids probe).2.board = rig.board := by rw [deliver_eq]

/-- Every slot is clear after a delivery. -/
theorem handoff_deliver (rig : Rig β) (ids : Wire.Ids) (probe : Bool) :
    (rig.deliver ids probe).2.handoff = .clear rig.handoff.capacity := by rw [deliver_eq]

/-- Nothing is dropped in a delivery. -/
theorem dropped_deliver (rig : Rig β) (ids : Wire.Ids) (probe : Bool) :
    (rig.deliver ids probe).2.effects.filterMap Effect.dropped?
      = rig.effects.filterMap Effect.dropped? := by
  have hnone : (rig.handoff.samples.flatMap (·.announced ids probe)).filterMap Effect.dropped?
      = [] := by
    simp only [List.filterMap_flatMap, Sample.dropped_announced]
    exact List.flatMap_eq_nil_iff.mpr fun _ _ => rfl
  rw [deliver_eq, effects, List.reverse_append, List.reverse_reverse, List.filterMap_append, hnone,
    List.append_nil, effects]

/-- **A reading arrives as it was sent.** There is always room for its message, which has
seventeen bytes at most, so the message goes out, and no delivery ever drops one. A host that knows
the message by the same id reads the same reading, whatever follows the message, and one that knows
it by another id reports the id that the message has. No other reading has the same message. -/
theorem reading_arrives (reading : Wire.Reading) (ids : Wire.Ids) :
    ∃ body, reading.encode ids = .ok body ∧ body.length ≤ 17
      ∧ (∀ others trailing, Wire.Reading.decode others (body ++ trailing)
          = if others.reading = ids.reading then .ok reading
            else .error (.unknownMessage ids.reading))
      ∧ (∀ other others, Wire.Reading.encode other others = .ok body
          ↔ other = reading ∧ others.reading = ids.reading)
      ∧ ∀ (β : Type) (rig : Rig β) (probe : Bool),
          rig.send ids reading = (true, (rig.log (.sending reading)).note (.send body))
            ∧ (rig.deliver ids probe).1 = rig.handoff.samples.length
            ∧ (rig.deliver ids probe).2.effects.filterMap Effect.dropped?
              = rig.effects.filterMap Effect.dropped? := by
  refine ⟨reading.body ids, reading.encode_eq_body ids, reading.length_body_le_seventeen ids,
    reading.decode_body ids, ?_, ?_⟩
  · intro other others
    rw [other.encode_eq_body others, Except.ok.injEq]
    exact Wire.Reading.body_eq_iff
  · intro β rig probe
    exact ⟨rig.send_eq ids reading, congrArg Prod.fst (rig.deliver_eq ids probe),
      rig.dropped_deliver ids probe⟩

end Rig

end WeighScale
