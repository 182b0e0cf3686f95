import WeighScale.Proofs.Forgetting

set_option autoImplicit false

/-! # The same course at later clocks

A device adds delays to the clocks that it is given and passes the sums on, and that is all it
does with clocks: none is compared with another. So a course whose clocks are all moved on by
some ticks is the same course, with all its clocks moved on by these ticks, wherever the sums
wrap (`transcript_later`, `after_later`). Everything that has clocks in it has a form with later
clocks, and each operation commutes with `later`.

The one clock that a device has not been given is its waketime from before. Enabling replaces it,
so what comes of a course that begins by enabling the device depends on its clocks in this way
only (`later_course`).
-/

namespace WeighScale

/-! ## Later clocks -/

/-- The same thing asked for, some ticks later. -/
def Next.later (next : Next) (ticks : Clock) : Next :=
  match next with
  | .again clock => .again (clock + ticks)
  | .done => .done

/-- The sample as it is if it is completed some ticks later. -/
def Sample.later (sample : Sample) (ticks : Clock) : Sample :=
  { sample with clock := sample.clock + ticks }

/-- The callback, some ticks later. -/
def Timer.later (timer : Timer) (ticks : Clock) : Timer :=
  { timer with clock := timer.clock + ticks }

/-- The callbacks, all some ticks later. -/
def Timers.later (timers : Timers) (ticks : Clock) : Timers :=
  ⟨timers.pending.map (·.later ticks)⟩

/-- The slots, with samples from some ticks later. -/
def Handoff.later (handoff : Handoff) (ticks : Clock) : Handoff :=
  ⟨handoff.slots.map (Option.map (·.later ticks))⟩

/-- The same effect, some ticks later. The body of a message is left as it is: what is said here
is about devices, which send none. -/
def Effect.later (effect : Effect) (ticks : Clock) : Effect :=
  match effect with
  | .schedule oid clock => .schedule oid (clock + ticks)
  | .wake slot sample => .wake slot (sample.later ticks)
  | .probe endstop value clock => .probe endstop value (clock + ticks)
  | other => other

theorem Timers.cancel_later (timers : Timers) (oid : UInt8) (ticks : Clock) :
    (timers.later ticks).cancel oid = (timers.cancel oid).later ticks := by
  rw [cancel, later, List.filter_map]
  rfl

theorem Timers.schedule_later (timers : Timers) (oid : UInt8) (clock ticks : Clock) :
    (timers.later ticks).schedule oid (clock + ticks)
      = (timers.schedule oid clock).later ticks := by
  show _ = Timers.mk ((timers.pending ++ [Timer.mk oid clock]).map (Timer.later · ticks))
  rw [List.map_append]
  rfl

theorem Handoff.wake_later (handoff : Handoff) (slot : Nat) (sample : Sample) (ticks : Clock) :
    (handoff.later ticks).wake slot (sample.later ticks)
      = (handoff.wake slot sample).later ticks := by
  show _ = Handoff.mk ((handoff.slots.set slot (some sample)).map (Option.map (·.later ticks)))
  rw [List.map_set]
  rfl

namespace Rig

variable {β : Type}

/-- The rig as it is if everything on it has happened some ticks later. The board knows of no
clocks. -/
def later (rig : Rig β) (ticks : Clock) : Rig β where
  board := rig.board
  timers := rig.timers.later ticks
  handoff := rig.handoff.later ticks
  trace := rig.trace.map (·.later ticks)

theorem forget_later (rig : Rig β) (ticks : Clock) :
    (rig.later ticks).forget = rig.forget.later ticks := rfl

theorem effects_later (rig : Rig β) (ticks : Clock) :
    (rig.later ticks).effects = rig.effects.map (·.later ticks) := List.map_reverse.symm

theorem cancel_later (rig : Rig β) (oid : UInt8) (ticks : Clock) :
    (rig.later ticks).cancel oid = (rig.cancel oid).later ticks := by
  rw [cancel, later, rig.timers.cancel_later]
  rfl

theorem schedule_later (rig : Rig β) (oid : UInt8) (clock ticks : Clock) :
    (rig.later ticks).schedule oid (clock + ticks) = (rig.schedule oid clock).later ticks := by
  rw [schedule, later, rig.timers.schedule_later]
  rfl

theorem wake_later (rig : Rig β) (slot : Nat) (sample : Sample) (ticks : Clock) :
    (rig.later ticks).wake slot (sample.later ticks) = (rig.wake slot sample).later ticks := by
  rw [wake, later, rig.handoff.wake_later]
  rfl

variable [Board β]

theorem read_later (rig : Rig β) (pin : Pin) (ticks : Clock) :
    (rig.later ticks).read pin = ((rig.read pin).1, (rig.read pin).2.later ticks) := rfl

theorem drive_later (rig : Rig β) (pin : Pin) (high : Level) (ticks : Clock) :
    (rig.later ticks).drive pin high
      = ((rig.drive pin high).1, (rig.drive pin high).2.later ticks) := rfl

end Rig

namespace Device

variable {β : Type}

/-! ## One operation -/

/-- The device as it is if everything has happened to it some ticks later. -/
def later (device : Device) (ticks : Clock) : Device :=
  { device with waketime := device.waketime + ticks }

theorem waketime_later (device : Device) (ticks : Clock) :
    (device.later ticks).waketime = device.waketime + ticks := rfl

/-- What comes of an operation, some ticks later. -/
def Outcome.later {α : Type} (outcome : Outcome α β) (onResult : α → α) (ticks : Clock) :
    Outcome α β :=
  ⟨outcome.result.map onResult, outcome.device.later ticks, outcome.rig.later ticks⟩

theorem wakeAfter_later (device : Device) (now delay ticks : Clock) :
    (device.later ticks).wakeAfter (now + ticks) delay
      = (device.wakeAfter now delay).later ticks := by
  have hclock : now + ticks + delay = now + delay + ticks := by
    rw [UInt32.add_assoc, UInt32.add_comm ticks, ← UInt32.add_assoc]
  rw [wakeAfter, wakeAfter, hclock]
  rfl

/-- A device that asks for the callback it is waiting for. -/
def asking (device : Device) (rig : Rig β) : Outcome Next β :=
  ⟨.ok (.again device.waketime), device, rig⟩

theorem asking_later (device : Device) (rig : Rig β) (ticks : Clock) :
    (device.later ticks).asking (rig.later ticks)
      = (device.asking rig).later (·.later ticks) ticks := rfl

/-- A device that has been enabled and asks for its first callback. -/
def arming (device : Device) (rig : Rig β) : Outcome Unit β :=
  ⟨.ok (), device, rig.schedule device.oid device.waketime⟩

theorem arming_later (device : Device) (rig : Rig β) (ticks : Clock) :
    (device.later ticks).arming (rig.later ticks) = (device.arming rig).later id ticks :=
  congrArg (Outcome.mk _ _) (rig.schedule_later device.oid device.waketime ticks)

theorem settle_later (device : Device) (now ticks : Clock) :
    (device.later ticks).settle (now + ticks) = (device.settle now).later ticks := by
  have hactive : (device.later ticks).active = device.active := rfl
  rw [settle, settle, hactive]
  cases device.active with
  | true => exact device.wakeAfter_later now device.delays.sample ticks
  | false => rfl

theorem afterFrame_later (device : Device) (ticks : Clock) :
    (device.later ticks).afterFrame = device.afterFrame.later ticks := by
  have hactive : (device.later ticks).active = device.active := rfl
  rw [afterFrame, afterFrame, hactive]
  cases device.active <;> rfl

variable [Board β]

theorem driveThen_later {α : Type} (device : Device) (high : Level) (rig : Rig β)
    {next following : Rig β → Outcome α β} {onResult : α → α} {ticks : Clock}
    (hnext : ∀ rig, following (rig.later ticks) = (next rig).later onResult ticks) :
    (device.later ticks).driveThen high (rig.later ticks) following
      = (device.driveThen high rig next).later onResult ticks := by
  have hdrive := rig.drive_later device.sck high ticks
  cases hresult : (rig.drive device.sck high).1 with
  | error fault =>
      rw [hresult] at hdrive
      rw [driveThen_error device next hresult]
      exact driveThen_error (device.later ticks) following (congrArg Prod.fst hdrive)
  | ok _ =>
      rw [hresult] at hdrive
      rw [driveThen_ok device next hresult, ← hnext]
      exact driveThen_ok (device.later ticks) following (congrArg Prod.fst hdrive)

theorem act_later (device : Device) (now : Clock) (rig : Rig β) (turn : Turn) (ticks : Clock) :
    (device.later ticks).act (now + ticks) (rig.later ticks) turn
      = (device.act now rig turn).later (·.later ticks) ticks := by
  cases turn with
  | wait =>
      show ((device.later ticks).wakeAfter (now + ticks) device.delays.retry).asking _ = _
      rw [wakeAfter_later]
      exact asking_later ..
  | clock high frame =>
      refine driveThen_later { device with frame } high rig fun rig => ?_
      show (({ device with frame }.later ticks).wakeAfter (now + ticks) device.delays.edge).asking _
        = _
      rw [wakeAfter_later]
      exact asking_later ..
  | complete value =>
      rw [act_complete, act_complete]
      refine driveThen_later (device.completed value) false rig fun rig => ?_
      have hsettled : ((device.later ticks).completed value).settle (now + ticks)
          = ((device.completed value).settle now).later ticks :=
        (device.completed value).settle_later now ticks
      rw [hsettled, afterFrame_later]
      generalize (device.completed value).settle now = settled
      exact congrArg (Outcome.mk _ _) (rig.wake_later settled.slot settled.sample ticks)

/-- **A callback at a later clock.** -/
theorem callback_later (device : Device) (now : Clock) (rig : Rig β) (ticks : Clock) :
    (device.later ticks).callback (now + ticks) (rig.later ticks)
      = (device.callback now rig).later (·.later ticks) ticks := by
  have hread := rig.read_later device.dout ticks
  rw [callback, callback, ← Prod.mk.eta (p := rig.read device.dout)]
  rw [show (device.later ticks).dout = device.dout from rfl, hread]
  cases (rig.read device.dout).1 with
  | error fault => rfl
  | ok high => exact device.act_later now _ (device.turn high) ticks

/-- **A query at a later clock.** -/
theorem query_later (device : Device) (enable : Bool) (endstop : Option UInt8) (now : Clock)
    (rig : Rig β) (ticks : Clock) :
    (device.later ticks).query enable endstop (now + ticks) (rig.later ticks)
      = (device.query enable endstop now rig).later id ticks := by
  cases enable with
  | false => rfl
  | true =>
      have hcancel : (rig.later ticks).cancel (device.later ticks).oid
          = (rig.cancel device.oid).later ticks := rig.cancel_later device.oid ticks
      have hsck : (device.later ticks).sck = device.sck := rfl
      show (device.later ticks).enable endstop (now + ticks) (rig.later ticks)
        = (device.enable endstop now rig).later id ticks
      unfold enable
      dsimp only
      rw [hcancel, Rig.drive_later, hsck,
        ← Prod.mk.eta (p := (rig.cancel device.oid).drive device.sck false)]
      cases ((rig.cancel device.oid).drive device.sck false).1 with
      | error fault => rfl
      | ok _ =>
          show (({ device with frame := .start, endstop, active := true, running := true }.later
            ticks).wakeAfter (now + ticks) device.delays.retry).arming _ = _
          rw [wakeAfter_later]
          exact arming_later ..

/-! ## Courses -/

/-- The same event, some ticks later. -/
def Event.later (event : Event β) (ticks : Clock) : Event β :=
  match event with
  | .query enable endstop now => .query enable endstop (now + ticks)
  | .callback now guarded => .callback (now + ticks) guarded
  | .arrange change => .arrange change

theorem step_later (device : Device) (rig : Rig β) (event : Event β) (ticks : Clock) :
    (device.later ticks).step (rig.later ticks) (event.later ticks)
      = (device.step rig event).later (Option.map (·.later ticks)) ticks := by
  cases event with
  | query enable endstop now =>
      have hquery := device.query_later enable endstop now rig.forget ticks
      rw [Event.later, step, step, Rig.forget_later, hquery]
      dsimp only [Outcome.later]
      cases (device.query enable endstop now rig.forget).result <;> rfl
  | callback now guarded =>
      have hcallback := device.callback_later now rig.forget ticks
      rw [Event.later, step, step, Rig.forget_later, hcallback]
      dsimp only [Outcome.later]
      cases (device.callback now rig.forget).result with
      | ok next => rfl
      | error fault =>
          cases guarded <;> rfl
  | arrange change => rfl

theorem after_later (device : Device) (rig : Rig β) (events : List (Event β)) (ticks : Clock) :
    (device.later ticks).after (rig.later ticks) (events.map (·.later ticks))
      = ((device.after rig events).1.later ticks, (device.after rig events).2.later ticks) := by
  induction events generalizing device rig with
  | nil => rfl
  | cons event events ih =>
      rw [List.map_cons, after, step_later]
      exact ih (device.step rig event).device (device.step rig event).rig

/-- What came of an event and its effects, some ticks later. -/
def entryLater (entry : Except PinFault (Option Next) × List Effect) (ticks : Clock) :
    Except PinFault (Option Next) × List Effect :=
  (entry.1.map (Option.map (·.later ticks)), entry.2.map (·.later ticks))

theorem transcript_later (device : Device) (rig : Rig β) (events : List (Event β))
    (ticks : Clock) :
    (device.later ticks).transcript (rig.later ticks) (events.map (·.later ticks))
      = (device.transcript rig events).map (entryLater · ticks) := by
  induction events generalizing device rig with
  | nil => rfl
  | cons event events ih =>
      rw [List.map_cons, transcript, step_later, transcript, List.map_cons]
      refine congrArg₂ List.cons ?_ (ih (device.step rig event).device (device.step rig event).rig)
      exact congrArg (Prod.mk _) (Rig.effects_later ..)

/-! ## Courses that begin by enabling the device -/

theorem started_later (device : Device) (endstop : Option UInt8) (now ticks : Clock) :
    device.started endstop (now + ticks) = (device.started endstop now).later ticks :=
  wakeAfter_later
    { device with frame := .start, endstop, active := true, running := true } now
    device.delays.retry ticks

/-- What comes of enabling a device does not depend on the clock, nor does the board after it. -/
theorem enable_clock (device : Device) (endstop : Option UInt8) (now : Clock) (rig : Rig β) :
    (device.enable endstop now rig).result = ((rig.cancel device.oid).drive device.sck false).1
      ∧ (device.enable endstop now rig).rig.board
        = ((rig.cancel device.oid).drive device.sck false).2.board := by
  have hway := device.enabled_enable endstop now rig
  generalize device.enable endstop now rig = outcome at hway ⊢
  cases hway with
  | armed hdrive => exact ⟨hdrive.symm, rfl⟩
  | refused fault hdrive => exact ⟨hdrive.symm, rfl⟩

/-- **Enabling a device later.** Its waketime from before takes no part in this, so it is the same
device in both cases. -/
theorem enable_later {device : Device} {rig : Rig β} {endstop : Option UInt8} {now : Clock}
    (h : (device.step rig (.query true endstop now)).result = .ok none) (ticks : Clock) :
    let enabled := device.step rig (.query true endstop now)
    let shifted := device.step rig (.query true endstop (now + ticks))
    shifted.result = .ok none ∧ shifted.device = enabled.device.later ticks
      ∧ shifted.rig.effects = enabled.rig.effects.map (·.later ticks)
      ∧ shifted.rig.board = enabled.rig.board := by
  intro enabled shifted
  obtain ⟨hfirst, hfirstBoard⟩ := device.enable_clock endstop now rig.forget
  obtain ⟨hlater, hlaterBoard⟩ := device.enable_clock endstop (now + ticks) rig.forget
  have hresult : shifted.result = .ok none := by
    rw [← h]
    exact congrArg (Except.map fun _ => none) (hlater.trans hfirst.symm)
  have hdevice : enabled.device = device.started endstop now := started_of_step h
  have heffects : enabled.rig.effects = _ := effects_enabled h
  refine ⟨hresult, ?_, ?_, hlaterBoard.trans hfirstBoard.symm⟩
  · rw [hdevice, ← started_later]
    exact started_of_step hresult
  · have hclock : now + ticks + device.delays.retry = now + device.delays.retry + ticks :=
      congrArg waketime (device.started_later endstop now ticks)
    rw [heffects, effects_enabled hresult, hclock]
    rfl

/-- **A course that begins by enabling the device**, with all its clocks moved on by some ticks.
Whatever the board does, every event comes to the same and has the same effects, with the clocks
in them moved on by these ticks modulo `2 ^ 32`, and the device is the same but for its waketime,
which is moved on as well. -/
theorem later_course (device : Device) (rig : Rig β) (endstop : Option UInt8) (now ticks : Clock)
    (events : List (Event β))
    (henabled : (device.step rig (.query true endstop now)).result = .ok none) :
    let course := .query true endstop now :: events
    let shifted := course.map (·.later ticks)
    device.transcript rig shifted = (device.transcript rig course).map (entryLater · ticks)
      ∧ (device.after rig shifted).1 = (device.after rig course).1.later ticks
      ∧ (device.after rig shifted).2.board = (device.after rig course).2.board := by
  intro course shifted
  let enabled := device.step rig (.query true endstop now)
  let late := device.step rig (.query true endstop (now + ticks))
  obtain ⟨hresult, hdevice, heffects, hboard⟩ := enable_later henabled ticks
  have hsame : late.rig.board = (enabled.rig.later ticks).board := hboard
  -- from here on the device has been given all the clocks that it knows
  obtain ⟨htranscript, hafter, hafterBoard⟩ :=
    (enabled.device.later ticks).course_of_board (events.map (·.later ticks)) hsame
  rw [transcript_later] at htranscript
  rw [after_later] at hafter hafterBoard
  have hentry : (late.result, late.rig.effects)
      = entryLater (enabled.result, enabled.rig.effects) ticks := by
    rw [entryLater, henabled, hresult, heffects]
    rfl
  have hcourse : device.after rig shifted
      = (enabled.device.later ticks).after late.rig (events.map (·.later ticks)) :=
    congrArg (Device.after · late.rig _) hdevice
  refine ⟨?_, ?_, ?_⟩
  · calc device.transcript rig shifted
        = (late.result, late.rig.effects)
            :: late.device.transcript late.rig (events.map (·.later ticks)) := rfl
      _ = entryLater (enabled.result, enabled.rig.effects) ticks
            :: (enabled.device.transcript enabled.rig events).map (entryLater · ticks) := by
          rw [hentry, hdevice, htranscript]
      _ = (device.transcript rig course).map (entryLater · ticks) := rfl
  · rw [hcourse, hafter]
    rfl
  · rw [hcourse, hafterBoard]
    rfl

/-- A device that fails, is stopped and goes on, at clocks that wrap in the middle. -/
theorem later_course_troubled :
    let rig := Rig.start Bench.empty 1
    let course := .query true (some 1) 5 :: troubled.tail
    let shifted := course.map (·.later 0xFFFFFFD8)
    (plain.step rig (.query true (some 1) 5)).result = .ok none
      ∧ plain.transcript rig shifted
        = (plain.transcript rig course).map (entryLater · 0xFFFFFFD8)
      ∧ (plain.after rig course).1.waketime = 54
      ∧ (plain.after rig shifted).1.waketime = 14 := by
  intro rig course shifted
  have henabled : (plain.step rig (.query true (some 1) 5)).result = .ok none := by decide +kernel
  have hwaketime : (plain.after rig course).1.waketime = 54 := by decide +kernel
  obtain ⟨htranscript, hafter, -⟩ :=
    later_course plain rig (some 1) 5 0xFFFFFFD8 troubled.tail henabled
  have hlate : (plain.after rig shifted).1 = (plain.after rig course).1.later 0xFFFFFFD8 := hafter
  refine ⟨henabled, htranscript, hwaketime, ?_⟩
  rw [hlate, waketime_later, hwaketime]
  decide

end Device

end WeighScale
