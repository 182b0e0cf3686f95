import WeighScale.Proofs.Turns

set_option autoImplicit false

/-! # The course of a device

What happens to a device after it was configured: queries, callbacks, and changes of the lines
that come from their other ends (`Event`). A course is any sequence of these on any board, so
the data line takes whatever levels one likes and the calls of the board fail whenever one
likes. What can be seen of a course is its transcript: for each event, what came of it and the
effects it had.

* `renewed_after`: no event changes what the device is set up for.
* `latest_step`: the latest sample changes only where a frame comes to its end.
* `calm_callback`: the ways through a callback in which no call of the board fails, with what is
  read, driven and handed over in each.
-/

namespace WeighScale

/-- The fault of a call of the board, if it failed. -/
def Effect.fault? : Effect → Option PinFault
  | setupInput _ _ fault => fault
  | setupOutput _ _ fault => fault
  | read _ _ fault => fault
  | drive _ _ fault => fault
  | _ => none

namespace Device

variable {β : Type}

/-- Something that happens to a device, or to the lines it is on. -/
inductive Event (β : Type)
  /-- Sampling is started or stopped. -/
  | query (enable : Bool) (endstop : Option UInt8) (now : Clock)
  /-- A callback is made. If it is guarded, a fault stops the device. -/
  | callback (now : Clock) (guarded : Bool)
  /-- Something else happens to the lines. -/
  | arrange (change : β → β)

/-- Whether the event is a query that starts sampling. -/
def Event.enables : Event β → Bool
  | query enable _ _ => enable
  | _ => false

/-- Whether the event is a query that stops sampling. -/
def Event.disables : Event β → Bool
  | query enable _ _ => !enable
  | _ => false

variable [Board β]

/-- What comes of an event, with the trace begun anew. A query asks for no callback itself. -/
def step (device : Device) (rig : Rig β) : Event β → Outcome (Option Next) β
  | .query enable endstop now =>
      let outcome := device.query enable endstop now rig.forget
      ⟨outcome.result.map fun _ => none, outcome.device, outcome.rig⟩
  | .callback now guarded =>
      let outcome := device.callback now rig.forget
      match outcome.result with
      | .ok next => ⟨.ok (some next), outcome.device, outcome.rig⟩
      | .error fault =>
          if guarded then
            ⟨.ok (some .done), outcome.device.stop, outcome.rig.log (.stopped device.oid fault)⟩
          else ⟨.error fault, outcome.device, outcome.rig⟩
  | .arrange change => ⟨.ok none, device, { rig.forget with board := change rig.board }⟩

/-- The device and the rig after one event after another. -/
def after (device : Device) (rig : Rig β) : List (Event β) → Device × Rig β
  | [] => (device, rig)
  | event :: events =>
      (device.step rig event).device.after (device.step rig event).rig events

/-- What came of one event after another, and the effects of each. -/
def transcript (device : Device) (rig : Rig β) :
    List (Event β) → List (Except PinFault (Option Next) × List Effect)
  | [] => []
  | event :: events =>
      ((device.step rig event).result, (device.step rig event).rig.effects)
        :: (device.step rig event).device.transcript (device.step rig event).rig events

theorem after_append (device : Device) (rig : Rig β) (before later : List (Event β)) :
    device.after rig (before ++ later)
      = (device.after rig before).1.after (device.after rig before).2 later := by
  induction before generalizing device rig with
  | nil => rfl
  | cons event before ih =>
      rw [List.cons_append, after, ih]
      rfl

theorem after_concat (device : Device) (rig : Rig β) (events : List (Event β)) (last : Event β) :
    device.after rig (events ++ [last])
      = (((device.after rig events).1.step (device.after rig events).2 last).device,
          ((device.after rig events).1.step (device.after rig events).2 last).rig) :=
  device.after_append rig events [last]

/-! ## Settings -/

omit [Board β] in
/-- The device as it was when it was configured. Two devices are set up for the same if they
agree in this. -/
def renewed (device : Device) : Device :=
  { device with
    frame := .start, latest := 0, endstop := none, active := false, running := false,
    waketime := 0 }

omit [Board β] in
theorem renewed_eq_iff {device other : Device} :
    device.renewed = other.renewed
      ↔ device.oid = other.oid ∧ device.dout = other.dout ∧ device.sck = other.sck
        ∧ device.gain = other.gain ∧ device.polarity = other.polarity
        ∧ device.delays = other.delays ∧ device.slot = other.slot := by
  simp [renewed]

omit [Board β] in
theorem renewed_finished (device : Device) (high : Level) (now : Clock) :
    (device.finished high now).renewed = device.renewed := by
  unfold finished settle
  split <;> rfl

theorem renewed_callback (device : Device) (now : Clock) (rig : Rig β) :
    (device.callback now rig).device.renewed = device.renewed := by
  have hway := device.called_callback now rig
  generalize device.callback now rig = outcome at hway ⊢
  cases hway with
  | delivered high => exact renewed_finished device high now
  | unread | waited | clocked | stuck | withheld => rfl

theorem renewed_query (device : Device) (enable : Bool) (endstop : Option UInt8) (now : Clock)
    (rig : Rig β) : (device.query enable endstop now rig).device.renewed = device.renewed := by
  cases enable with
  | false => rfl
  | true =>
      have hway := device.enabled_enable endstop now rig
      show (device.enable endstop now rig).device.renewed = _
      generalize device.enable endstop now rig = outcome at hway ⊢
      cases hway with
      | armed | refused => rfl

theorem renewed_step (device : Device) (rig : Rig β) (event : Event β) :
    (device.step rig event).device.renewed = device.renewed := by
  cases event with
  | query enable endstop now => exact device.renewed_query enable endstop now rig.forget
  | callback now guarded =>
      have hcallback := device.renewed_callback now rig.forget
      rw [step]
      split
      · exact hcallback
      · split <;> exact hcallback
  | arrange change => rfl

/-- **No event changes what a device is set up for.** -/
theorem renewed_after (device : Device) (rig : Rig β) (events : List (Event β)) :
    (device.after rig events).1.renewed = device.renewed := by
  induction events generalizing device rig with
  | nil => rfl
  | cons event events ih => exact (ih _ _).trans (device.renewed_step rig event)

/-- A device that was enabled begins anew. -/
theorem started_of_step {device : Device} {rig : Rig β} {endstop : Option UInt8} {now : Clock}
    (h : (device.step rig (.query true endstop now)).result = .ok none) :
    (device.step rig (.query true endstop now)).device = device.started endstop now := by
  have hway := device.enabled_enable endstop now rig.forget
  change ((device.enable endstop now rig.forget).result.map fun _ => none) = .ok none at h
  show (device.enable endstop now rig.forget).device = _
  generalize device.enable endstop now rig.forget = outcome at h hway ⊢
  cases hway with
  | armed => rfl
  | refused => cases h

/-! ## The latest sample -/

/-- Whether the event brings a frame to its end. -/
def completes (device : Device) (rig : Rig β) : Event β → Bool
  | .callback _ _ =>
      match (rig.read device.dout).1 with
      | .ok high => (device.frame.advance high).isOver device.gain
      | .error _ => false
  | _ => false

omit [Board β] in
/-- No frame ends with its first half-cycle. -/
theorem isOver_advance_of_start {frame : Frame} (h : frame.halfCycles = 0) (high : Level)
    (gain : Gain) : (frame.advance high).isOver gain = false := by
  have hlength := gain.dataHalfCycles_lt_frameLength
  rw [Frame.isOver, Frame.halfCycles_advance, h, decide_eq_false_iff_not, Nat.not_le]
  exact Nat.lt_of_le_of_lt (by decide) hlength

theorem completes_of_read {device : Device} {rig : Rig β} {high : Level}
    (hread : (rig.read device.dout).1 = .ok high) (now : Clock) (guarded : Bool) :
    device.completes rig (.callback now guarded)
      = (device.frame.advance high).isOver device.gain := by
  rw [completes, hread]

/-- Whether any of the events brings a frame to its end. -/
def completesIn (device : Device) (rig : Rig β) : List (Event β) → Bool
  | [] => false
  | event :: events =>
      device.completes rig event
        || (device.step rig event).device.completesIn (device.step rig event).rig events

theorem latest_callback {device : Device} {now : Clock} {rig : Rig β} {guarded : Bool}
    (h : device.completes rig (.callback now guarded) = false) :
    (device.callback now rig).device.latest = device.latest := by
  have hway := device.called_callback now rig
  generalize device.callback now rig = outcome at hway ⊢
  cases hway with
  | unread | waited | clocked | stuck => rfl
  | delivered high hread _ hover | withheld high _ hread _ hover =>
      rw [completes_of_read hread, hover] at h
      exact Bool.noConfusion h

theorem latest_query (device : Device) (enable : Bool) (endstop : Option UInt8) (now : Clock)
    (rig : Rig β) : (device.query enable endstop now rig).device.latest = device.latest := by
  cases enable with
  | false => rfl
  | true =>
      have hway := device.enabled_enable endstop now rig
      show (device.enable endstop now rig).device.latest = device.latest
      generalize device.enable endstop now rig = outcome at hway ⊢
      cases hway with
      | armed | refused => rfl

theorem latest_step {device : Device} {rig : Rig β} {event : Event β}
    (h : device.completes rig event = false) :
    (device.step rig event).device.latest = device.latest := by
  cases event with
  | query enable endstop now => exact device.latest_query enable endstop now rig.forget
  | callback now guarded =>
      have hforget : device.completes rig.forget (.callback now guarded) = false := h
      have hcallback := latest_callback hforget
      rw [step]
      split
      · exact hcallback
      · split <;> exact hcallback
  | arrange change => rfl

end Device

/-! ## Calls that succeed -/

namespace Rig

variable {β : Type} [Board β] {rig : Rig β} {pin : Pin} {high : Level} {fault : PinFault}

theorem read_of_ok (h : (rig.read pin).1 = .ok high) :
    (Board.read rig.board pin).1 = high
      ∧ (rig.read pin).2.trace = .read pin high none :: rig.trace := by
  rw [read] at h ⊢
  dsimp only at h ⊢
  cases hfault : (Board.read rig.board pin).2.fault with
  | none =>
      rw [hfault] at h
      obtain rfl : (Board.read rig.board pin).1 = high := Except.ok.inj h
      exact ⟨rfl, by rw [trace_note]⟩
  | some fault =>
      rw [hfault] at h
      cases h

theorem read_of_error (h : (rig.read pin).1 = .error fault) :
    .read pin (Board.read rig.board pin).1 (some fault) ∈ (rig.read pin).2.trace := by
  rw [read] at h ⊢
  dsimp only at h ⊢
  cases hfault : (Board.read rig.board pin).2.fault with
  | none =>
      rw [hfault] at h
      cases h
  | some other =>
      rw [hfault] at h
      obtain rfl : other = fault := Except.error.inj h
      exact List.mem_cons_self

theorem drive_of_ok (h : (rig.drive pin high).1 = .ok ()) :
    (rig.drive pin high).2.trace = .drive pin high none :: rig.trace := by
  rw [drive] at h ⊢
  dsimp only at h ⊢
  cases hfault : (Board.drive rig.board pin high).fault with
  | none => rw [trace_note]
  | some fault =>
      rw [hfault] at h
      cases h

theorem drive_of_error (h : (rig.drive pin high).1 = .error fault) :
    .drive pin high (some fault) ∈ (rig.drive pin high).2.trace := by
  rw [drive] at h ⊢
  dsimp only at h ⊢
  cases hfault : (Board.drive rig.board pin high).fault with
  | none =>
      rw [hfault] at h
      cases h
  | some other =>
      rw [hfault] at h
      obtain rfl : other = fault := Except.error.inj h
      exact List.mem_cons_self

end Rig

namespace Device

variable {β : Type} [Board β]

/-- No call of the board fails in what comes of an event. -/
def Outcome.Calm {α : Type} (outcome : Outcome α β) : Prop :=
  ∀ effect ∈ outcome.rig.effects, effect.fault? = none

/-- The ways through a callback in which no call of the board fails and the data line is at
`high`. -/
inductive Calmly (device : Device) (now : Clock) (high : Level) :
    Outcome (Option Next) β → Prop
  /-- No conversion is ready. -/
  | waited (rig : Rig β) (hhigh : high = true) (hframe : device.frame.halfCycles = 0)
      (heffects : rig.effects = [.read device.dout high none]) :
      Calmly device now high
        ⟨.ok (some (.again (now + device.delays.retry))),
          device.wakeAfter now device.delays.retry, rig⟩
  /-- The frame goes on by a half-cycle. -/
  | clocked (rig : Rig β) (hready : device.frame.halfCycles = 0 → high = false)
      (hover : (device.frame.advance high).isOver device.gain = false)
      (heffects : rig.effects
        = [.read device.dout high none, .drive device.sck device.frame.clockLevel none]) :
      Calmly device now high
        ⟨.ok (some (.again (now + device.delays.edge))),
          { device with frame := device.frame.advance high }.wakeAfter now device.delays.edge,
          rig⟩
  /-- The frame comes to its end and the sample is handed over. -/
  | delivered (rig : Rig β) (hready : device.frame.halfCycles = 0 → high = false)
      (hover : (device.frame.advance high).isOver device.gain = true)
      (heffects : rig.effects
        = [.read device.dout high none, .drive device.sck false none,
            .wake (device.finished high now).slot (device.finished high now).sample]) :
      Calmly device now high
        ⟨.ok (some (device.finished high now).afterFrame), device.finished high now, rig⟩

/-- A callback that fails leaves the fault in the trace. -/
theorem fault_of_callback {device : Device} {now : Clock} {rig : Rig β} {fault : PinFault}
    (h : (device.callback now rig).result = .error fault) :
    ∃ effect ∈ (device.callback now rig).rig.trace, effect.fault? = some fault := by
  have hway := device.called_callback now rig
  generalize device.callback now rig = outcome at h hway ⊢
  cases hway with
  | unread other hread =>
      obtain rfl : other = fault := Except.error.inj h
      exact ⟨_, Rig.read_of_error hread, rfl⟩
  | stuck high other _ _ _ hdrive | withheld high other _ _ _ hdrive =>
      obtain rfl : other = fault := Except.error.inj h
      exact ⟨_, Rig.drive_of_error hdrive, rfl⟩
  | waited | clocked | delivered => cases h

theorem step_callback_of_ok {device : Device} {now : Clock} {rig : Rig β} {next : Next}
    (h : (device.callback now rig.forget).result = .ok next) (guarded : Bool) :
    device.step rig (.callback now guarded)
      = ⟨.ok (some next), (device.callback now rig.forget).device,
          (device.callback now rig.forget).rig⟩ := by
  rw [step, h]

/-- If nothing fails, it makes no difference whether the callback is guarded. -/
theorem ok_of_calm {device : Device} {now : Clock} {rig : Rig β} {guarded : Bool}
    (hcalm : (device.step rig (.callback now guarded)).Calm) :
    ∃ next, (device.callback now rig.forget).result = .ok next := by
  cases hresult : (device.callback now rig.forget).result with
  | ok next => exact ⟨next, rfl⟩
  | error fault =>
      obtain ⟨effect, hmem, hfault⟩ := fault_of_callback hresult
      have hnone : effect.fault? = none := by
        refine hcalm effect (List.mem_reverse.mpr ?_)
        rw [step, hresult]
        cases guarded with
        | true => exact List.mem_cons_of_mem _ hmem
        | false => exact hmem
      rw [hfault] at hnone
      cases hnone

/-- **A callback in which nothing fails** depends on the device and on the level alone. -/
theorem calm_callback {device : Device} {now : Clock} {rig : Rig β} {guarded : Bool}
    (hcalm : (device.step rig (.callback now guarded)).Calm) :
    Calmly device now (Board.read rig.board device.dout).1
      (device.step rig (.callback now guarded)) := by
  obtain ⟨next, hok⟩ := ok_of_calm hcalm
  have hway := device.called_callback now rig.forget
  rw [step_callback_of_ok hok]
  generalize device.callback now rig.forget = outcome at hok hway ⊢
  cases hway with
  | unread | stuck | withheld => cases hok
  | waited hread hframe =>
      obtain rfl := Except.ok.inj hok
      obtain ⟨hhigh, htrace⟩ := Rig.read_of_ok hread
      refine .waited _ hhigh hframe ?_
      rw [Rig.effects, seen, htrace, ← hhigh]
      rfl
  | clocked high hread hready hover hdrive =>
      obtain rfl := Except.ok.inj hok
      obtain ⟨rfl, htrace⟩ := Rig.read_of_ok hread
      refine .clocked _ hready hover ?_
      rw [Rig.effects, Rig.drive_of_ok hdrive, seen, htrace]
      rfl
  | delivered high hread hready hover hdrive =>
      obtain rfl := Except.ok.inj hok
      obtain ⟨rfl, htrace⟩ := Rig.read_of_ok hread
      refine .delivered _ hready hover ?_
      rw [Rig.effects, Rig.wake, Rig.trace_note, Rig.drive_of_ok hdrive, seen, htrace]
      rfl

end Device

end WeighScale
