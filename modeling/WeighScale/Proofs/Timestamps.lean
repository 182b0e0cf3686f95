import WeighScale.Proofs.Waveform

set_option autoImplicit false

/-! # The clocks in samples

A sample is stamped with the clock of the next callback, or with that of the last one if the
device has stopped. If every callback comes at the clock that was asked for, this clock is the
one at which the device was enabled and all the delays since: one delay for each ready check,
one for each half-cycle of a frame but the last, and one after each frame unless it was the last
(`sample_clock`).

A device that is running has its next callback at the clock that these delays add up to
(`Timed`). Each callback adds one delay, which one is told by its way through the device.
-/

namespace WeighScale

/-! ## Delays that add up -/

namespace Delays

/-- The ticks in so many delays of each kind. -/
def ticks (delays : Delays) (checks edges pauses : Nat) : Nat :=
  delays.retry.toNat * checks + delays.edge.toNat * edges + delays.sample.toNat * pauses

/-- The clock after so many delays of each kind, modulo `2 ^ 32`. -/
def clock (delays : Delays) (start : Clock) (checks edges pauses : Nat) : Clock :=
  start + .ofNat (delays.ticks checks edges pauses)

variable (delays : Delays) (start : Clock) (checks edges pauses : Nat)

theorem clock_add {delay : UInt32} {ticks : Nat} (h : ticks = delays.ticks checks edges pauses
    + delay.toNat) : delays.clock start checks edges pauses + delay = start + .ofNat ticks := by
  rw [h, UInt32.ofNat_add, UInt32.ofNat_toNat, ← UInt32.add_assoc]
  rfl

theorem clock_check :
    delays.clock start checks edges pauses + delays.retry
      = delays.clock start (checks + 1) edges pauses := by
  refine delays.clock_add start checks edges pauses ?_
  rw [ticks, ticks, Nat.mul_succ]
  omega

theorem clock_edge :
    delays.clock start checks edges pauses + delays.edge
      = delays.clock start checks (edges + 1) pauses := by
  refine delays.clock_add start checks edges pauses ?_
  rw [ticks, ticks, Nat.mul_succ]
  omega

theorem clock_pause :
    delays.clock start checks edges pauses + delays.sample
      = delays.clock start checks edges (pauses + 1) := by
  refine delays.clock_add start checks edges pauses ?_
  rw [ticks, ticks, Nat.mul_succ]
  omega

end Delays

namespace Device

variable {β : Type}

/-! ## Counting callbacks -/

/-- The callback has found no conversion ready: it did nothing but read. -/
def Response.waits (response : Response) : Bool := response.effects.all Effect.reads

/-- The callback has handed a sample over. -/
def Response.hands (response : Response) : Bool :=
  response.effects.any fun effect => effect.woken?.isSome

theorem Response.waits_of_hands {response : Response} (h : response.hands = true) :
    ¬response.waits = true := by
  obtain ⟨effect, hmem, hwoken⟩ := List.any_eq_true.mp h
  intro hwaits
  have hreads : effect.reads = true := List.all_eq_true.mp hwaits effect hmem
  cases effect with
  | read => cases hwoken
  | _ => cases hreads

/-- The samples that callbacks have handed over, in number. -/
def framesIn (exchanges : List (Call × Response)) : Nat :=
  exchanges.countP fun exchange => exchange.2.hands

/-- The waits among callbacks. -/
def waitsIn (exchanges : List (Call × Response)) : Nat :=
  exchanges.countP fun exchange => exchange.2.waits

theorem framesIn_append (before later : List (Call × Response)) :
    framesIn (before ++ later) = framesIn before + framesIn later := List.countP_append

theorem waitsIn_append (before later : List (Call × Response)) :
    waitsIn (before ++ later) = waitsIn before + waitsIn later := List.countP_append

theorem framesIn_singleton (exchange : Call × Response) :
    framesIn [exchange] = if exchange.2.hands then 1 else 0 := List.countP_singleton

theorem waitsIn_singleton (exchange : Call × Response) :
    waitsIn [exchange] = if exchange.2.waits then 1 else 0 := List.countP_singleton

/-- The waits before frame number `frame`, counted from zero: those after so many samples. -/
def waitsBefore : List (Call × Response) → Nat → Nat
  | [], _ => 0
  | exchange :: exchanges, 0 =>
      if exchange.2.hands then 0
      else (if exchange.2.waits then 1 else 0) + waitsBefore exchanges 0
  | exchange :: exchanges, frame + 1 =>
      waitsBefore exchanges (if exchange.2.hands then frame else frame + 1)

/-- Every wait is before one of the frames, the one that may be in flight among them. -/
theorem sum_waitsBefore (exchanges : List (Call × Response)) :
    ∑ frame ∈ Finset.range (framesIn exchanges + 1), waitsBefore exchanges frame
      = waitsIn exchanges := by
  induction exchanges with
  | nil => rfl
  | cons exchange exchanges ih =>
      rw [Finset.sum_range_succ']
      by_cases hhands : exchange.2.hands = true
      · -- the first frame ends here, and the others are those of the rest
        have hframes : framesIn (exchange :: exchanges) = framesIn exchanges + 1 :=
          List.countP_cons_of_pos hhands
        have hwaits : waitsIn (exchange :: exchanges) = waitsIn exchanges :=
          List.countP_cons_of_neg (Response.waits_of_hands hhands)
        rw [hframes, hwaits, ← ih]
        simp [waitsBefore, hhands]
      · have hframes : framesIn (exchange :: exchanges) = framesIn exchanges :=
          List.countP_cons_of_neg hhands
        have hwaits : waitsIn (exchange :: exchanges)
            = waitsIn exchanges + if exchange.2.waits = true then 1 else 0 := List.countP_cons ..
        rw [hframes, hwaits, ← ih, Finset.sum_range_succ']
        simp only [waitsBefore, if_neg hhands]
        omega

/-! ## Punctual callbacks -/

variable [Board β]

omit [Board β] in
/-- The event is not a callback, or it comes while the device is waiting for one and at the clock
that the device has asked for. -/
def meetsOnTime (device : Device) : Event β → Bool
  | .callback now _ => device.running && now == device.waketime
  | _ => true

/-- Every callback of the course comes when the device has asked for it. -/
def punctual (device : Device) (rig : Rig β) : List (Event β) → Bool
  | [] => true
  | event :: events =>
      device.meetsOnTime event
        && (device.step rig event).device.punctual (device.step rig event).rig events

omit [Board β] in
/-- A device that was set up like another one and enabled at `start`, after so many waits and
frames. Its next callback is to come when all its delays are over. -/
structure Timed (device : Device) (start : Clock) (waits frames : Nat) (current : Device) :
    Prop where
  renewed : current.renewed = device.renewed
  place : current.frame.halfCycles < device.gain.frameLength
  waketime : current.running = true →
    current.waketime
      = device.delays.clock start (1 + waits)
          (frames * (device.gain.frameLength - 1) + current.frame.halfCycles) frames

/-- The clock in the sample of frame number `frame`, counted from zero, for a device that was
enabled at `start` and has found no conversion ready so many times since. -/
def stamp (device : Device) (start : Clock) (waits frame : Nat) (active : Bool) : Clock :=
  device.delays.clock start (1 + waits) ((frame + 1) * (device.gain.frameLength - 1))
    (if active then frame + 1 else frame)

/-- A sample that is handed over bears this clock. The device remembers it, and asks for it if it is
to go on. -/
def Stamps (outcome : Outcome (Option Next) β) (active : Bool) (clock : Clock) : Prop :=
  ∀ sample ∈ outcome.rig.effects.filterMap Effect.woken?,
    sample.clock = clock ∧ outcome.device.waketime = clock
      ∧ outcome.result = .ok (some (if active then .again clock else .done))

namespace Timed

variable {device current : Device} {start : Clock} {waits frames : Nat} {high : Level}
  {outcome : Outcome (Option Next) β}

omit [Board β] in
/-- A device that has just been enabled asks for its first ready check. -/
theorem started (device : Device) (endstop : Option UInt8) (start : Clock) :
    Timed device start 0 0 (device.started endstop start) where
  renewed := rfl
  place := Nat.lt_of_le_of_lt (Nat.zero_le _) device.gain.dataHalfCycles_lt_frameLength
  waketime _ := by
    have hnone : device.delays.clock start 0 0 0 = start := UInt32.add_zero start
    calc start + device.delays.retry
        = device.delays.clock start 0 0 0 + device.delays.retry := by rw [hnone]
      _ = device.delays.clock start 1 0 0 := device.delays.clock_check start 0 0 0
      _ = _ := by rw [Nat.zero_mul]; rfl

omit [Board β] in
theorem of_same (h : Timed device start waits frames current) {next : Device}
    (hrenewed : next.renewed = current.renewed) (hframe : next.frame = current.frame)
    (hrunning : next.running = current.running) (hwaketime : next.waketime = current.waketime) :
    Timed device start waits frames next where
  renewed := hrenewed.trans h.renewed
  place := by
    rw [hframe]
    exact h.place
  waketime hnext := by
    rw [hwaketime, hframe]
    exact h.waketime (hrunning.symm.trans hnext)

omit [Board β] in
theorem settings (h : Timed device start waits frames current) :
    current.gain = device.gain ∧ current.delays = device.delays := by
  obtain ⟨-, -, -, hgain, -, hdelays, -⟩ := renewed_eq_iff.mp h.renewed
  exact ⟨hgain, hdelays⟩

omit [Board β] in
/-- At the end of a frame, all its half-cycles but the last have added a delay. -/
theorem waketime_last (h : Timed device start waits frames current)
    (hrunning : current.running = true)
    (hover : (current.frame.advance high).isOver current.gain = true) :
    current.waketime
      = device.delays.clock start (1 + waits) ((frames + 1) * (device.gain.frameLength - 1))
          frames := by
  rw [Frame.isOver, decide_eq_true_iff, Frame.halfCycles_advance, h.settings.1] at hover
  have hplace := h.place
  have hlast : current.frame.halfCycles = device.gain.frameLength - 1 := by omega
  rw [h.waketime hrunning, hlast, Nat.succ_mul]

omit [Board β] in
/-- **One callback** adds one delay. -/
theorem callback (h : Timed device start waits frames current)
    (hrunning : current.running = true) (hway : Calmly current current.waketime high outcome) :
    Timed device start (waits + if outcome.response.waits then 1 else 0)
      (frames + if outcome.response.hands then 1 else 0) outcome.device := by
  obtain ⟨hgain, hdelays⟩ := h.settings
  have hwaketime := h.waketime hrunning
  cases hway with
  | waited rig _ _ heffects =>
      rw [Response.waits, Response.hands, Outcome.response, heffects]
      refine ⟨h.renewed, h.place, fun _ => ?_⟩
      show current.waketime + current.delays.retry = _
      rw [hdelays, hwaketime, Delays.clock_check]
      rfl
  | clocked rig _ hover heffects =>
      rw [Response.waits, Response.hands, Outcome.response, heffects]
      have hplace : current.frame.halfCycles + 1 < device.gain.frameLength := by
        rw [← hgain]
        exact Nat.not_le.mp (of_decide_eq_false hover)
      refine ⟨h.renewed, hplace, fun _ => ?_⟩
      show current.waketime + current.delays.edge = _
      rw [hdelays, hwaketime, Delays.clock_edge]
      rfl
  | delivered rig _ hover heffects =>
      rw [Response.waits, Response.hands, Outcome.response, heffects]
      have hlast := h.waketime_last hrunning hover
      refine ⟨(renewed_finished current high _).trans h.renewed, ?_, fun hgoes => ?_⟩
      · rw [frame_finished]
        exact Nat.lt_of_le_of_lt (Nat.zero_le _) device.gain.dataHalfCycles_lt_frameLength
      · cases hactive : current.active with
        | false =>
            rw [finished_of_not_active high _ hactive] at hgoes
            cases hgoes
        | true =>
            rw [finished_of_active high _ hactive]
            show current.waketime + current.delays.sample = _
            rw [hdelays, hlast, Delays.clock_pause]
            rfl

omit [Board β] in
/-- **What a sample is stamped with.** -/
theorem sample (h : Timed device start waits frames current)
    (hrunning : current.running = true) (hway : Calmly current current.waketime high outcome) :
    Stamps outcome current.active (device.stamp start waits frames current.active) := by
  obtain ⟨-, hdelays⟩ := h.settings
  intro sample hsample
  cases hway with
  | waited rig _ _ heffects | clocked rig _ _ heffects =>
      rw [heffects] at hsample
      cases hsample
  | delivered rig _ hover heffects =>
      have hlast := h.waketime_last hrunning hover
      have hstamp : (if current.active then current.waketime + current.delays.sample
          else current.waketime) = device.stamp start waits frames current.active := by
        rw [hdelays, hlast, Delays.clock_pause, stamp]
        split <;> rfl
      have hclock : (current.finished high current.waketime).sample.clock
          = device.stamp start waits frames current.active := by
        rw [sample_finished, ← hstamp]
      rw [heffects] at hsample
      obtain rfl : sample = (current.finished high current.waketime).sample :=
        List.mem_singleton.mp hsample
      refine ⟨hclock, hclock, ?_⟩
      rw [afterFrame_eq, ← hstamp]
      split <;> rfl

/-- **One event.** -/
theorem step (h : Timed device start waits frames current) {rig : Rig β} {event : Event β}
    (hsteady : event.enables = false) (hcalm : (current.step rig event).Calm)
    (hpunctual : current.meetsOnTime event = true) :
    Timed device start (waits + waitsIn (current.exchange? rig event).toList)
      (frames + framesIn (current.exchange? rig event).toList) (current.step rig event).device := by
  cases event with
  | query enable endstop now =>
      obtain rfl : enable = false := hsteady
      exact h.of_same rfl rfl rfl rfl
  | arrange change => exact h.of_same rfl rfl rfl rfl
  | callback now guarded =>
      obtain ⟨hrunning, hclock⟩ := Bool.and_eq_true_iff.mp hpunctual
      obtain rfl := beq_iff_eq.mp hclock
      have hone := h.callback hrunning (calm_callback hcalm)
      rw [exchange?, Option.toList_some, waitsIn_singleton, framesIn_singleton]
      exact hone

/-- **A whole course**, up to a callback that may hand a sample over. -/
theorem sample_after (h : Timed device start waits frames current) {rig : Rig β}
    {before : List (Event β)} {now : Clock} {guarded : Bool}
    (hsteady : ∀ event ∈ before, event.enables = false)
    (hcalm : CalmIn current rig (before ++ [.callback now guarded]))
    (hpunctual : current.punctual rig (before ++ [.callback now guarded]) = true) :
    let exchanges := current.exchanges rig before
    let last := (current.after rig before).1
    Stamps (last.step (current.after rig before).2 (.callback now guarded)) last.active
      (device.stamp start (waits + waitsIn exchanges) (frames + framesIn exchanges)
        last.active) := by
  induction before generalizing waits frames current rig with
  | nil =>
      obtain ⟨hnow, -⟩ := List.forall_mem_cons.mp hcalm
      have hready : current.meetsOnTime (.callback now guarded : Event β) = true :=
        (Bool.and_eq_true_iff.mp hpunctual).1
      obtain ⟨hrunning, hclock⟩ := Bool.and_eq_true_iff.mp hready
      obtain rfl := beq_iff_eq.mp hclock
      exact h.sample hrunning (calm_callback hnow)
  | cons event before ih =>
      obtain ⟨hevent, hothers⟩ := List.forall_mem_cons.mp hsteady
      obtain ⟨hnow, hlater⟩ := List.forall_mem_cons.mp hcalm
      obtain ⟨hready, hrest⟩ := Bool.and_eq_true_iff.mp hpunctual
      have hlast := ih (h.step hevent hnow hready) hothers hlater hrest
      dsimp only at hlast ⊢
      rw [exchanges, waitsIn_append, framesIn_append, ← Nat.add_assoc, ← Nat.add_assoc]
      exact hlast

end Timed

/-! ## The statement -/

theorem frameLength_sub_one (device : Device) :
    device.gain.frameLength - 1 = 47 + 2 * device.gain.pulses := by
  rw [Gain.frameLength, dataHalfCycles]
  omega

/-- The clock in the sample of frame `i`, counted from zero, for a device that was enabled at
`start`. It is the delay of a ready check for the first one and for each wait before one of the
frames up to this one, the delay of an edge for each of their half-cycles but the last of each, and
the delay between samples for each frame that was to be followed by another. Nothing must fail, and
every callback must come at the clock that the device has asked for; sampling may be stopped at any
time, but not begun again. The clock is the one that the device remembers, and the one that it asks
for if it goes on. -/
theorem sample_clock (device : Device) (rig : Rig β) (endstop : Option UInt8) (start : Clock)
    (before : List (Event β)) (now : Clock) (guarded : Bool)
    (henabled : (device.step rig (.query true endstop start)).result = .ok none)
    (hsteady : ∀ event ∈ before, event.enables = false)
    (hcalm : CalmIn (device.step rig (.query true endstop start)).device
      (device.step rig (.query true endstop start)).rig (before ++ [.callback now guarded]))
    (hpunctual : (device.step rig (.query true endstop start)).device.punctual
      (device.step rig (.query true endstop start)).rig (before ++ [.callback now guarded])
        = true) :
    let enabled := device.step rig (.query true endstop start)
    let exchanges := enabled.device.exchanges enabled.rig before
    let last := (enabled.device.after enabled.rig before).1
    let outcome := last.step (enabled.device.after enabled.rig before).2 (.callback now guarded)
    let i := framesIn exchanges
    let clock : Clock := start + .ofNat
      (device.delays.retry.toNat * (1 + ∑ j ∈ Finset.range (i + 1), waitsBefore exchanges j)
        + device.delays.edge.toNat * ((i + 1) * (47 + 2 * device.gain.pulses))
        + device.delays.sample.toNat * (if last.active then i + 1 else i))
    ∀ sample ∈ outcome.rig.effects.filterMap Effect.woken?,
      sample.clock = clock ∧ outcome.device.waketime = clock
        ∧ outcome.result = .ok (some (if last.active then .again clock else .done)) := by
  intro enabled exchanges last outcome i clock
  have hstarted : enabled.device = device.started endstop start := started_of_step henabled
  have htimed : Timed device start 0 0 enabled.device := by
    rw [hstarted]
    exact .started device endstop start
  have hstamps := htimed.sample_after hsteady hcalm hpunctual
  have hclock : device.stamp start (0 + waitsIn exchanges) (0 + framesIn exchanges) last.active
      = clock := by
    rw [stamp, Delays.clock, Delays.ticks, frameLength_sub_one, Nat.zero_add, Nat.zero_add,
      ← sum_waitsBefore]
  rw [← hclock]
  exact hstamps

/-- Two waits and a frame, a wait and another frame but for its last callback. Sampling is stopped
before that frame begins. -/
def twoFrames (start : Clock) : List (Event Bench) :=
  Event.callAt true (start + 20) ++ Event.callAt true (start + 40)
    ++ (List.range 50).flatMap (fun i => Event.callAt (i % 4 == 3) (start + 60 + 4 * .ofNat i))
    ++ Event.callAt true (start + 1156) ++ [.query false (some 1) 8]
    ++ (List.range 49).flatMap (fun i => Event.callAt (i % 4 == 2) (start + 1176 + 4 * .ofNat i))

/-- The clock wraps in the first frame. -/
theorem sample_clock_twoFrames :
    let enabled := inverse.step (.start Bench.empty 1) (.query true none 0xFFFFFFA0)
    let exchanges := enabled.device.exchanges enabled.rig (twoFrames 0xFFFFFFA0)
    let last := (enabled.device.after enabled.rig (twoFrames 0xFFFFFFA0)).1
    let outcome := last.step (enabled.device.after enabled.rig (twoFrames 0xFFFFFFA0)).2
      (.callback 1276 false)
    framesIn exchanges = 1 ∧ waitsBefore exchanges 0 = 2 ∧ waitsBefore exchanges 1 = 1
      ∧ ∃ sample ∈ outcome.rig.effects.filterMap Effect.woken?,
          sample.clock = 1276 ∧ outcome.device.waketime = 1276
            ∧ outcome.result = .ok (some .done) := by
  intro enabled exchanges last outcome
  have henabled : enabled.result = .ok none := by decide +kernel
  have hsteady : ∀ event ∈ twoFrames 0xFFFFFFA0, event.enables = false := by decide +kernel
  have hcalm : CalmIn enabled.device enabled.rig (twoFrames 0xFFFFFFA0 ++ [.callback 1276 false])
    := by
    unfold CalmIn
    decide +kernel
  have hpunctual : enabled.device.punctual enabled.rig
      (twoFrames 0xFFFFFFA0 ++ [.callback 1276 false]) = true := by decide +kernel
  have hframes : framesIn exchanges = 1 := by decide +kernel
  have hfirst : waitsBefore exchanges 0 = 2 := by decide +kernel
  have hsecond : waitsBefore exchanges 1 = 1 := by decide +kernel
  have hstopped : ((inverse.step (.start Bench.empty 1) (.query true none 0xFFFFFFA0)).device.after
      (inverse.step (.start Bench.empty 1) (.query true none 0xFFFFFFA0)).rig
        (twoFrames 0xFFFFFFA0)).1.active = false := by decide +kernel
  have hhanded : (outcome.rig.effects.filterMap Effect.woken?).length = 1 := by decide +kernel
  obtain ⟨sample, hsample⟩ := List.length_eq_one_iff.mp hhanded
  have hmem : sample ∈ outcome.rig.effects.filterMap Effect.woken? := by
    rw [hsample]
    exact List.mem_singleton_self sample
  have hclock := sample_clock inverse (.start Bench.empty 1) none 0xFFFFFFA0 (twoFrames 0xFFFFFFA0)
    1276 false henabled hsteady hcalm hpunctual sample hmem
  refine ⟨hframes, hfirst, hsecond, sample, hmem, ?_⟩
  have hvalue : (0xFFFFFFA0 : Clock) + .ofNat
      (inverse.delays.retry.toNat * (1 + (2 + 1))
        + inverse.delays.edge.toNat * ((1 + 1) * (47 + 2 * inverse.gain.pulses))
        + inverse.delays.sample.toNat * 1) = 1276 := by decide +kernel
  rw [hframes, Finset.sum_range_succ, Finset.sum_range_one, hfirst, hsecond, hstopped,
    if_neg Bool.false_ne_true, if_neg Bool.false_ne_true, hvalue] at hclock
  exact ⟨hclock.1, by decide +kernel, by decide +kernel⟩

end Device

end WeighScale
