import WeighScale.Bench
import WeighScale.Proofs.Conformance

set_option autoImplicit false

/-! # The waveform of the clock line

The levels that a device has driven its clock line to, one after another, are a part of its
history (`driven`). A converter counts the rising edges among them and nothing else, so each one
too many or too few shifts what it sends.

While nothing fails, the place of the device in its frame tells which level comes next
(`Paced`): an even half-cycle raises the line and an odd one lowers it, and the length of a
frame is even. So the levels of a device that is not enabled in between go up and down without
end, across frames as within them (`wave_after`). A failure stops the device, after which its
place says nothing about the line until it is enabled, which lowers the line and begins a frame.
-/

namespace WeighScale

/-! ## Levels and edges -/

/-- The level that the line was driven to, if that is the effect and it did not fail. -/
def Effect.driven? (pin : Pin) : Effect → Option Level
  | drive other high none => if other = pin then some high else none
  | _ => none

/-- The levels that the line was driven to, one after another. -/
def driven (pin : Pin) (effects : List Effect) : List Level :=
  effects.filterMap (Effect.driven? pin)

theorem driven_append (pin : Pin) (before later : List Effect) :
    driven pin (before ++ later) = driven pin before ++ driven pin later :=
  List.filterMap_append

theorem driven_drive_self (pin : Pin) (high : Level) (more : List Effect) :
    driven pin (.drive pin high none :: more) = high :: driven pin more :=
  List.filterMap_cons_some (if_pos rfl)

/-- The rising edges of a line that was at `level`. -/
def risingEdges (level : Level) : List Level → Nat
  | [] => 0
  | high :: levels => (if level = false ∧ high = true then 1 else 0) + risingEdges high levels

/-- So many levels, of which every other one is high, the first among them. -/
def wave (count : Nat) : List Level := (List.range count).map fun i => i % 2 == 0

theorem odd_eq_not_even (place : Nat) : (place % 2 == 1) = !(place % 2 == 0) := by
  rcases Nat.mod_two_eq_zero_or_one place with h | h <;> rw [h] <;> rfl

theorem wave_succ (count : Nat) : wave (count + 1) = wave count ++ [count % 2 == 0] := by
  rw [wave, List.range_succ, List.map_append]
  rfl

/-- Two levels of a wave are one pulse. -/
theorem wave_two_mul (pulses : Nat) :
    wave (2 * pulses) = (List.replicate pulses [true, false]).flatten := by
  induction pulses with
  | zero => rfl
  | succ pulses ih =>
      have heven : 2 * pulses % 2 = 0 := Nat.mul_mod_right 2 pulses
      have hodd : (2 * pulses + 1) % 2 = 1 := by omega
      rw [Nat.mul_succ, wave_succ, wave_succ, ih, heven, hodd, List.replicate_succ',
        List.flatten_append, List.append_assoc]
      rfl

theorem risingEdges_pulses (pulses : Nat) :
    risingEdges false (List.replicate pulses [true, false]).flatten = pulses := by
  induction pulses with
  | zero => rfl
  | succ pulses ih =>
      show 1 + (0 + risingEdges false (List.replicate pulses [true, false]).flatten) = _
      rw [ih]
      omega

theorem getLast?_pulses (pulses : Nat) :
    (List.replicate (pulses + 1) [true, false]).flatten.getLast? = some false := by
  rw [List.replicate_succ', List.flatten_append, List.getLast?_append]
  rfl

namespace Device

variable {β : Type}

/-! ## One event -/

/-- The levels that an event drives the clock line to and the number of samples that it hands
over, with the places in the frame before and after it. The frame has `length` half-cycles. -/
inductive Paced (length : Nat) : Bool → Nat → List Level → Nat → Nat → Prop
  /-- The device is enabled. -/
  | restarted (place : Nat) : Paced length true place [false] 0 0
  /-- The clock line stays as it is. -/
  | still (place : Nat) : Paced length false place [] 0 place
  /-- The frame goes on. -/
  | edge (place : Nat) (h : place + 1 < length) :
      Paced length false place [place % 2 == 0] 0 (place + 1)
  /-- The frame ends. -/
  | last (place : Nat) (h : place + 1 = length) : Paced length false place [false] 1 0

namespace Paced

variable {gain : Gain} {enables : Bool} {place after samples : Nat} {writes : List Level}

/-- At most one level is driven, and the place tells which it is. -/
theorem writes_eq (h : Paced gain.frameLength false place writes samples after) :
    writes = [] ∨ writes = [place % 2 == 0] := by
  cases h with
  | still => exact Or.inl rfl
  | edge => exact Or.inr rfl
  | last _ hlast =>
      -- the last half-cycle of a frame is an odd one
      have hodd : place % 2 = 1 := by
        rw [gain.frameLength_eq_two_mul] at hlast
        omega
      rw [hodd]
      exact Or.inr rfl

/-- The line is high in the middle of a pulse, and then only. -/
theorem getLast?_writes {level : Option Level}
    (h : Paced gain.frameLength enables place writes samples after)
    (hlevel : enables = false → level = some (place % 2 == 1)) :
    writes.getLast?.or level = some (after % 2 == 1) := by
  cases h with
  | restarted | last => rfl
  | still => exact hlevel rfl
  | edge =>
      have hparity : (place % 2 == 0) = ((place + 1) % 2 == 1) := by
        rw [Bool.eq_iff_iff, beq_iff_eq, beq_iff_eq]
        omega
      rw [← hparity]
      rfl

/-- An event that does not enable goes on with the wave. -/
theorem wave_eq (h : Paced gain.frameLength false place writes samples after) :
    wave (samples * gain.frameLength + after) = wave place ++ writes := by
  cases h with
  | still => rw [Nat.zero_mul, Nat.zero_add, List.append_nil]
  | edge => rw [Nat.zero_mul, Nat.zero_add, wave_succ]
  | last _ hlast =>
      have hodd : place % 2 = 1 := by
        rw [gain.frameLength_eq_two_mul] at hlast
        omega
      rw [Nat.one_mul, Nat.add_zero, ← hlast, wave_succ, hodd]
      rfl

end Paced

variable [Board β] {device : Device} {rig : Rig β}

/-- The number of samples that are handed over. -/
def handed (effects : List Effect) : Nat := (effects.filterMap Effect.woken?).length

/-- No event brings a frame past its end. -/
theorem halfCycles_step_lt (h : device.frame.halfCycles < device.gain.frameLength)
    (event : Event β) :
    (device.step rig event).device.frame.halfCycles < device.gain.frameLength := by
  have hstart : Frame.start.halfCycles < device.gain.frameLength :=
    Nat.lt_of_le_of_lt (Nat.zero_le _) h
  cases event with
  | query enable endstop now =>
      cases enable with
      | false => exact h
      | true =>
          have hway := device.enabled_enable endstop now rig.forget
          show (device.enable endstop now rig.forget).device.frame.halfCycles < _
          generalize device.enable endstop now rig.forget = outcome at hway ⊢
          cases hway <;> exact hstart
  | callback now guarded =>
      have hcallback : (device.callback now rig.forget).device.frame.halfCycles
          < device.gain.frameLength := by
        have hway := device.called_callback now rig.forget
        generalize device.callback now rig.forget = outcome at hway ⊢
        cases hway with
        | unread | waited => exact h
        | clocked high _ _ hover | stuck high _ _ _ hover =>
            exact Nat.not_le.mp (of_decide_eq_false hover)
        | delivered high =>
            rw [frame_finished]
            exact hstart
        | withheld => exact hstart
      rw [step]
      split
      · exact hcallback
      · split <;> exact hcallback
  | arrange change => exact h

omit [Board β] in
/-- A callback in which nothing fails keeps pace. -/
theorem Calmly.paced {now : Clock} {high : Level} {outcome : Outcome (Option Next) β}
    (h : Calmly device now high outcome)
    (hframe : device.frame.halfCycles < device.gain.frameLength) :
    Paced device.gain.frameLength false device.frame.halfCycles
      (driven device.sck outcome.rig.effects) (handed outcome.rig.effects)
      outcome.device.frame.halfCycles := by
  cases h with
  | waited rig _ _ heffects =>
      rw [heffects]
      exact .still _
  | clocked rig _ hover heffects =>
      have hplace : device.frame.halfCycles + 1 < device.gain.frameLength :=
        Nat.not_le.mp (of_decide_eq_false hover)
      rw [heffects]
      show Paced _ _ _ (driven device.sck [_]) 0 _
      rw [driven_drive_self]
      exact .edge _ hplace
  | delivered rig _ hover heffects =>
      have hplace : device.gain.frameLength ≤ device.frame.halfCycles + 1 :=
        of_decide_eq_true hover
      rw [heffects, frame_finished]
      show Paced _ _ _ (driven device.sck [_, _]) 1 0
      rw [driven_drive_self]
      exact .last _ (Nat.le_antisymm hframe hplace)

/-- A callback that does not fail is one in which nothing fails. -/
theorem calm_of_ok {now : Clock} {next : Next}
    (h : (device.callback now rig.forget).result = .ok next) :
    (device.callback now rig.forget).Calm := by
  have hway := device.called_callback now rig.forget
  unfold Outcome.Calm Rig.effects
  generalize device.callback now rig.forget = outcome at h hway ⊢
  cases hway with
  | unread | stuck | withheld => cases h
  | waited hread =>
      obtain ⟨-, htrace⟩ := Rig.read_of_ok hread
      rw [seen, htrace]
      simp [Rig.forget, Effect.fault?]
  | clocked high hread _ _ hdrive =>
      obtain ⟨-, htrace⟩ := Rig.read_of_ok hread
      rw [Rig.drive_of_ok hdrive, seen, htrace]
      simp [Rig.forget, Effect.fault?]
  | delivered high hread _ _ hdrive =>
      obtain ⟨-, htrace⟩ := Rig.read_of_ok hread
      rw [Rig.wake, Rig.trace_note, Rig.drive_of_ok hdrive, seen, htrace]
      simp [Rig.forget, Effect.fault?]

/-- Whether a fault in the event stops the device. Queries see to that themselves. -/
def Event.guards : Event β → Bool
  | callback _ guarded => guarded
  | _ => true

/-- **A device that is running after an event** has been enabled by it or was running before,
and nothing has failed. -/
theorem calm_of_running {event : Event β} (hguarded : event.guards = true)
    (h : (device.step rig event).device.running = true) :
    (device.step rig event).Calm ∧ (event.enables = false → device.running = true) := by
  cases event with
  | query enable endstop now =>
      cases enable with
      | false => exact ⟨fun _ hmem => absurd hmem List.not_mem_nil, fun _ => h⟩
      | true =>
          refine ⟨?_, fun henables => by cases henables⟩
          have hway := device.enabled_enable endstop now rig.forget
          change (device.enable endstop now rig.forget).device.running = true at h
          show ∀ effect ∈ (device.enable endstop now rig.forget).rig.effects, _
          unfold Rig.effects
          generalize device.enable endstop now rig.forget = outcome at h hway ⊢
          cases hway with
          | armed hdrive =>
              rw [Rig.schedule, Rig.trace_note, Rig.drive_of_ok hdrive]
              simp [Rig.cancel, Rig.forget, Effect.fault?]
          | refused => cases h
  | callback now guarded =>
      obtain rfl : guarded = true := hguarded
      cases hresult : (device.callback now rig.forget).result with
      | error fault =>
          rw [step, hresult] at h
          cases h
      | ok next =>
          rw [step_callback_of_ok hresult] at h ⊢
          refine ⟨calm_of_ok hresult, fun _ => ?_⟩
          -- a callback may stop the device, but never starts it
          have hkept := device.result_callback now rig.forget
          rw [hresult] at hkept
          cases next with
          | again clock => exact hkept.2.symm.trans h
          | done => cases hkept.symm.trans h
  | arrange change => exact ⟨fun _ hmem => absurd hmem List.not_mem_nil, fun _ => h⟩

/-- **An event in which nothing fails** keeps pace. -/
theorem paced_step {event : Event β} (hcalm : (device.step rig event).Calm)
    (hframe : device.frame.halfCycles < device.gain.frameLength) :
    Paced device.gain.frameLength event.enables device.frame.halfCycles
      (driven device.sck (device.step rig event).rig.effects)
      (handed (device.step rig event).rig.effects)
      (device.step rig event).device.frame.halfCycles := by
  cases event with
  | query enable endstop now =>
      cases enable with
      | false => exact .still _
      | true =>
          have hway := device.enabled_enable endstop now rig.forget
          change ∀ effect ∈ (device.enable endstop now rig.forget).rig.effects, _ at hcalm
          show Paced _ true _ (driven device.sck (device.enable endstop now rig.forget).rig.effects)
            (handed (device.enable endstop now rig.forget).rig.effects)
            (device.enable endstop now rig.forget).device.frame.halfCycles
          unfold Rig.effects at hcalm ⊢
          generalize device.enable endstop now rig.forget = outcome at hcalm hway ⊢
          cases hway with
          | armed hdrive =>
              rw [Rig.schedule, Rig.trace_note, Rig.drive_of_ok hdrive]
              show Paced _ _ _ (driven device.sck [.drive device.sck false none, _]) 0 0
              rw [driven_drive_self]
              exact .restarted _
          | refused fault hdrive =>
              have hnone := hcalm _ (List.mem_reverse.mpr (Rig.drive_of_error hdrive))
              cases hnone
  | callback now guarded => exact (calm_callback hcalm).paced hframe
  | arrange change => exact .still _

/-! ## One call -/

/-- Only a callback that nothing fails in hands a sample over. -/
theorem calm_of_handed {now : Clock} {guarded : Bool}
    (h : handed (device.step rig (.callback now guarded)).rig.effects ≠ 0) :
    (device.step rig (.callback now guarded)).Calm := by
  cases hresult : (device.callback now rig.forget).result with
  | ok next =>
      rw [step_callback_of_ok hresult]
      exact calm_of_ok hresult
  | error fault =>
      have hnone : handed (device.callback now rig.forget).rig.effects = 0 := by
        have hway := device.called_callback now rig.forget
        generalize device.callback now rig.forget = outcome at hresult hway ⊢
        cases hway with
        | unread | stuck | withheld => rfl
        | waited | clocked | delivered => cases hresult
      refine absurd ?_ h
      rw [step, hresult]
      cases guarded with
      | false => exact hnone
      | true =>
          dsimp only
          rw [if_pos rfl, handed, Rig.effects, Rig.log, Rig.trace_note, List.reverse_cons,
            List.filterMap_append, List.length_append]
          exact hnone

/-- The frame after a callback that finds the data line at `high`. -/
def frameAfter (device : Device) (high : Level) : Frame :=
  if device.frame.halfCycles = 0 ∧ high = true then device.frame
  else if (device.frame.advance high).isOver device.gain then .start
  else device.frame.advance high

end Device

/-- Whether the effect is that a line was read. -/
def Effect.reads : Effect → Bool
  | read _ _ _ => true
  | _ => false

/-- Whether the effect is that a line was driven, or was to be driven. -/
def Effect.drives : Effect → Bool
  | drive _ _ _ => true
  | _ => false

theorem Rig.fault_of_read {β : Type} [Board β] {rig : Rig β} {pin : Pin} :
    match (rig.read pin).1 with
    | .ok high => (Board.read rig.board pin).1 = high ∧ (Board.read rig.board pin).2.fault = none
    | .error fault => (Board.read rig.board pin).2.fault = some fault := by
  unfold read unlessFault
  dsimp only
  cases (Board.read rig.board pin).2.fault with
  | none => exact ⟨rfl, rfl⟩
  | some fault => rfl

namespace Device

variable {β : Type} [Board β] {device : Device} {rig : Rig β}

theorem frameAfter_of_ready {high : Level} (h : device.frame.halfCycles = 0 → high = false) :
    device.frameAfter high
      = if (device.frame.advance high).isOver device.gain then .start
        else device.frame.advance high := by
  refine if_neg fun hwait => ?_
  rw [h hwait.1] at hwait
  exact Bool.false_ne_true hwait.2

/-- **A callback reads the data line before anything else**, and only once. What it captures is
settled with that. -/
theorem reads_first (device : Device) (now : Clock) (rig : Rig β) :
    let seen := Board.read rig.board device.dout
    let called := device.callback now rig.forget
    ∃ rest, called.rig.effects = .read device.dout seen.1 seen.2.fault :: rest
      ∧ rest.countP Effect.reads = 0
      ∧ rest.countP Effect.drives ≤ 1
      ∧ (device.frame.halfCycles = 0 → seen.1 = true → rest = [])
      ∧ called.device.frame
        = if seen.2.fault = none then device.frameAfter seen.1 else device.frame := by
  intro seen called
  have hway : Called device now rig.forget called := device.called_callback now rig.forget
  have hanswer : match (rig.forget.read device.dout).1 with
      | .ok high => seen.1 = high ∧ seen.2.fault = none
      | .error fault => seen.2.fault = some fault := Rig.fault_of_read
  generalize called = outcome at hway ⊢
  cases hway with
  | unread fault hread =>
      rw [hread] at hanswer
      refine ⟨[], rfl, rfl, Nat.zero_le 1, fun _ _ => rfl, ?_⟩
      rw [hanswer, if_neg (Option.some_ne_none fault)]
  | waited hread hframe =>
      rw [hread] at hanswer
      refine ⟨[], rfl, rfl, Nat.zero_le 1, fun _ _ => rfl, ?_⟩
      rw [hanswer.2, if_pos rfl, hanswer.1, frameAfter, if_pos ⟨hframe, rfl⟩]
      rfl
  | clocked high hread hready hover | stuck high _ hread hready hover =>
      rw [hread] at hanswer
      refine ⟨[_], rfl, rfl, Nat.le_refl 1, fun hframe hhigh => ?_, ?_⟩
      · cases (hready hframe).symm.trans (hanswer.1.symm.trans hhigh)
      · rw [hanswer.2, if_pos rfl, hanswer.1, frameAfter_of_ready hready, hover]
        rfl
  | delivered high hread hready hover =>
      rw [hread] at hanswer
      refine ⟨[_, _], rfl, rfl, Nat.le_refl 1, fun hframe hhigh => ?_, ?_⟩
      · cases (hready hframe).symm.trans (hanswer.1.symm.trans hhigh)
      · rw [hanswer.2, if_pos rfl, hanswer.1, frameAfter_of_ready hready, hover, frame_finished]
        rfl
  | withheld high _ hread hready hover =>
      rw [hread] at hanswer
      refine ⟨[_], rfl, rfl, Nat.le_refl 1, fun hframe hhigh => ?_, ?_⟩
      · cases (hready hframe).symm.trans (hanswer.1.symm.trans hhigh)
      · rw [hanswer.2, if_pos rfl, hanswer.1, frameAfter_of_ready hready, hover]
        rfl

/-! ## A course -/

/-- The effects of a course, one after another. -/
def history (device : Device) (rig : Rig β) (events : List (Event β)) : List Effect :=
  (device.transcript rig events).flatMap Prod.snd

theorem history_cons (device : Device) (rig : Rig β) (event : Event β) (events : List (Event β)) :
    device.history rig (event :: events)
      = (device.step rig event).rig.effects
        ++ (device.step rig event).device.history (device.step rig event).rig events := rfl

theorem history_concat (device : Device) (rig : Rig β) (events : List (Event β))
    (last : Event β) :
    device.history rig (events ++ [last])
      = device.history rig events
        ++ ((device.after rig events).1.step (device.after rig events).2 last).rig.effects := by
  induction events generalizing device rig with
  | nil => exact List.append_nil _
  | cons event events ih => rw [List.cons_append, history_cons, ih, history_cons, after,
      List.append_assoc]

theorem handed_append (before later : List Effect) :
    handed (before ++ later) = handed before + handed later := by
  rw [handed, List.filterMap_append, List.length_append]
  rfl

theorem gain_after (device : Device) (rig : Rig β) (events : List (Event β)) :
    (device.after rig events).1.gain = device.gain :=
  (renewed_eq_iff.mp (device.renewed_after rig events)).2.2.2.1

theorem sck_after (device : Device) (rig : Rig β) (events : List (Event β)) :
    (device.after rig events).1.sck = device.sck :=
  (renewed_eq_iff.mp (device.renewed_after rig events)).2.2.1

theorem halfCycles_after_lt (h : device.frame.halfCycles < device.gain.frameLength)
    (events : List (Event β)) :
    (device.after rig events).1.frame.halfCycles < device.gain.frameLength := by
  induction events using List.reverseRecOn with
  | nil => exact h
  | append_singleton events last ih =>
      rw [after_concat, ← device.gain_after rig events]
      rw [← device.gain_after rig events] at ih
      exact halfCycles_step_lt ih last

/-- **The level of the clock line of a running device** is the one that its place in the frame
tells. Before the course the line was at `level`. -/
theorem getLast?_driven {level : Option Level} {events : List (Event β)}
    (hframe : device.frame.halfCycles < device.gain.frameLength)
    (hlevel : device.running = true → level = some (device.frame.halfCycles % 2 == 1))
    (hguarded : ∀ event ∈ events, event.guards = true)
    (hrunning : (device.after rig events).1.running = true) :
    (driven device.sck (device.history rig events)).getLast?.or level
      = some ((device.after rig events).1.frame.halfCycles % 2 == 1) := by
  induction events using List.reverseRecOn with
  | nil => exact hlevel hrunning
  | append_singleton events last ih =>
      obtain ⟨hbefore, hlast⟩ := List.forall_mem_append.mp hguarded
      rw [after_concat] at hrunning ⊢
      -- nothing has failed in the last event, and if it does not enable the device was running
      obtain ⟨hcalm, hsteady⟩ := calm_of_running (hlast last (List.mem_singleton_self last)) hrunning
      have hpaced := paced_step hcalm (by
        rw [gain_after]
        exact halfCycles_after_lt hframe events)
      rw [gain_after, sck_after] at hpaced
      rw [history_concat, driven_append, List.getLast?_append, Option.or_assoc]
      exact hpaced.getLast?_writes fun henables => ih hbefore (hsteady henables)

/-- A wave goes on after whole frames as it began. -/
theorem wave_frames (gain : Gain) (frames count : Nat) :
    wave (frames * gain.frameLength + count) = wave (frames * gain.frameLength) ++ wave count := by
  have heven (i : Nat) : (frames * gain.frameLength + i) % 2 = i % 2 := by
    rw [gain.frameLength_eq_two_mul, Nat.mul_left_comm, Nat.mul_add_mod]
  rw [wave, List.range_add, List.map_append, List.map_map, wave, wave]
  congr 1
  refine List.map_congr_left fun i _ => ?_
  show ((frames * gain.frameLength + i) % 2 == 0) = (i % 2 == 0)
  rw [heven]

/-- **The levels of a running device** that is not enabled in between are those of a wave: one
frame's worth of it for each sample that was handed over, and up to its place in the frame. -/
theorem wave_after {events : List (Event β)}
    (hframe : device.frame.halfCycles < device.gain.frameLength)
    (hguarded : ∀ event ∈ events, event.guards = true)
    (hsteady : ∀ event ∈ events, event.enables = false)
    (hrunning : (device.after rig events).1.running = true) :
    wave (handed (device.history rig events) * device.gain.frameLength
        + (device.after rig events).1.frame.halfCycles)
      = wave device.frame.halfCycles ++ driven device.sck (device.history rig events) := by
  induction events using List.reverseRecOn with
  | nil =>
      show wave (0 * _ + _) = _ ++ []
      rw [Nat.zero_mul, Nat.zero_add, List.append_nil]
      rfl
  | append_singleton events last ih =>
      obtain ⟨hbefore, hlast⟩ := List.forall_mem_append.mp hguarded
      obtain ⟨hsteadily, hstill⟩ := List.forall_mem_append.mp hsteady
      have henables := hstill last (List.mem_singleton_self last)
      rw [after_concat] at hrunning ⊢
      obtain ⟨hcalm, hran⟩ := calm_of_running (hlast last (List.mem_singleton_self last)) hrunning
      have hpaced := paced_step hcalm (by
        rw [gain_after]
        exact halfCycles_after_lt hframe events)
      rw [gain_after, sck_after, henables] at hpaced
      rw [history_concat, handed_append, Nat.add_mul, Nat.add_assoc, wave_frames, hpaced.wave_eq,
        ← List.append_assoc, ← wave_frames, ih hbefore hsteadily (hran henables), driven_append,
        List.append_assoc]

/-- A sample is handed over at the end of a frame only, where the line is lowered. -/
theorem Paced.wave_of_samples {gain : Gain} {place after samples : Nat} {writes : List Level}
    (h : Paced gain.frameLength false place writes samples after) (hsamples : samples ≠ 0) :
    wave gain.frameLength = wave place ++ writes := by
  have hwave := h.wave_eq
  cases h with
  | still | edge => exact absurd rfl hsamples
  | last =>
      rw [Nat.one_mul, Nat.add_zero] at hwave
      exact hwave

/-- **The levels of one frame**, and of the waits before it, are as many pulses as the converter
expects. -/
theorem driven_frame {events : List (Event β)} {now : Clock}
    (hplace : device.frame.halfCycles = 0)
    (hguarded : ∀ event ∈ events, event.guards = true)
    (hsteady : ∀ event ∈ events, event.enables = false)
    (hrunning : (device.after rig events).1.running = true)
    (hnone : handed (device.history rig events) = 0)
    (hlast : handed ((device.after rig events).1.step (device.after rig events).2
      (.callback now true)).rig.effects ≠ 0) :
    driven device.sck (device.history rig (events ++ [.callback now true]))
      = (List.replicate (24 + device.gain.pulses) [true, false]).flatten := by
  have hframe : device.frame.halfCycles < device.gain.frameLength := by
    rw [hplace]
    exact Nat.lt_of_le_of_lt (Nat.zero_le _) device.gain.dataHalfCycles_lt_frameLength
  have hwave := wave_after hframe hguarded hsteady hrunning
  rw [hnone, Nat.zero_mul, Nat.zero_add, hplace] at hwave
  have hpaced := paced_step (calm_of_handed hlast) (by
    rw [gain_after]
    exact halfCycles_after_lt hframe events)
  rw [gain_after, sck_after] at hpaced
  have hend := hpaced.wave_of_samples hlast
  rw [hwave] at hend
  rw [history_concat, driven_append, ← wave_two_mul, ← Gain.frameLength_eq_two_mul, hend]
  rfl

/-! ## The statement -/

/-- The clock line of a device, from the time it was configured, over any course in which a
fault in a callback stops it. Whatever fails:

* while the device is running, the line was last driven high exactly if the place in the frame
  is odd;
* a callback of a running device that does not fail drives the line to the other level, if at
  all;
* from a place between two frames on, the callbacks up to and with the one that hands over the
  next sample drive the line up and down as many times as a frame has pulses, and leave it low;
* a callback reads the data line once and before it drives the clock line, which it does once
  at most and not at all if no conversion is ready. What it captures is the level that it has
  read. -/
theorem clock_waveform (device : Device) (rig : Rig β) (events : List (Event β))
    (hguarded : ∀ event ∈ events, event.guards = true) :
    let begun := (device.renewed.powerDown rig.forget).2
    let course := device.renewed.after begun events
    let current := course.1
    let level :=
      (driven device.sck (begun.effects ++ device.renewed.history begun events)).getLast?
    (current.running = true → level = some (current.frame.halfCycles % 2 == 1))
      ∧ (∀ now next, current.running = true →
          (current.callback now course.2.forget).result = .ok next →
          ∀ high ∈ driven device.sck (current.callback now course.2.forget).rig.effects,
            level = some (!high))
      ∧ (∀ later now, current.frame.halfCycles = 0 →
          (∀ event ∈ later, event.guards = true) → (∀ event ∈ later, event.enables = false) →
          (current.after course.2 later).1.running = true → handed (current.history course.2 later) = 0 →
          handed ((current.after course.2 later).1.step (current.after course.2 later).2
            (.callback now true)).rig.effects ≠ 0 →
          let levels := driven device.sck (current.history course.2 (later ++ [.callback now true]))
          levels = (List.replicate (24 + device.gain.pulses) [true, false]).flatten
            ∧ risingEdges false levels = 24 + device.gain.pulses
            ∧ levels.getLast? = some false)
      ∧ ∀ now,
          let seen := Board.read course.2.board device.dout
          let called := current.callback now course.2.forget
          ∃ rest, called.rig.effects = .read device.dout seen.1 seen.2.fault :: rest
            ∧ rest.countP Effect.reads = 0
            ∧ rest.countP Effect.drives ≤ 1
            ∧ (current.frame.halfCycles = 0 → seen.1 = true → rest = [])
            ∧ called.device.frame
              = if seen.2.fault = none then current.frameAfter seen.1 else current.frame := by
  intro begun course current level
  have hsettings : current.renewed = device.renewed.renewed :=
    device.renewed.renewed_after begun events
  obtain ⟨-, hdout, hsck, hgain, -⟩ := renewed_eq_iff.mp hsettings
  have hstart : device.renewed.frame.halfCycles < device.renewed.gain.frameLength :=
    Nat.lt_of_le_of_lt (Nat.zero_le _) device.gain.dataHalfCycles_lt_frameLength
  have hline : current.running = true → level = some (current.frame.halfCycles % 2 == 1) := by
    intro hrunning
    have hstill : device.renewed.running = true →
        (driven device.sck begun.effects).getLast?
          = some (device.renewed.frame.halfCycles % 2 == 1) := fun h => by cases h
    have h := getLast?_driven hstart hstill hguarded hrunning
    show (driven device.sck _).getLast? = _
    rw [driven_append, List.getLast?_append]
    exact h
  refine ⟨hline, fun now next hrunning hok high hhigh => ?_,
    fun later now hplace hlater hsteady hran hnone hlast => ?_, fun now => ?_⟩
  · -- a callback in which nothing fails drives the level that its place tells
    have hcalm : (current.step course.2 (.callback now true)).Calm := by
      rw [step_callback_of_ok hok]
      exact calm_of_ok hok
    have hpaced := paced_step hcalm (hgain ▸ halfCycles_after_lt hstart events)
    rw [step_callback_of_ok hok, hsck] at hpaced
    rcases hpaced.writes_eq with hnone | hone
    · exact absurd (hnone ▸ hhigh : high ∈ []) List.not_mem_nil
    · obtain rfl := List.mem_singleton.mp (hone ▸ hhigh)
      rw [hline hrunning, odd_eq_not_even]
  · intro levels
    have hlevels : levels = (List.replicate (24 + device.gain.pulses) [true, false]).flatten := by
      have h := driven_frame hplace hlater hsteady hran hnone hlast
      rw [hsck, hgain] at h
      exact h
    refine ⟨hlevels, ?_, ?_⟩
    · rw [hlevels]
      exact risingEdges_pulses _
    · rw [hlevels, Nat.add_right_comm 23 1]
      exact getLast?_pulses _
  · have hfirst := reads_first current now course.2
    rw [hdout] at hfirst
    exact hfirst

/-- The device fails to lower its clock line in the middle of a frame and is stopped. Then it is
enabled again. -/
def stumble : List (Event Bench) :=
  [.query true none 5, .callback 30 true, .callback 34 true, .callback 38 true,
    .arrange fun bench => bench.setFault .setLow 3 true, .callback 42 true,
    .arrange fun bench => bench.setFault .setLow 3 false, .query true (some 1) 50]

/-- A wait and all callbacks of a frame but the last. The device is told to stop on the way. -/
def almost : List (Event Bench) :=
  [.arrange fun bench => bench.setLine 2 true, .callback 60 true,
      .arrange fun bench => bench.setLine 2 false]
    ++ List.replicate 20 (.callback 70 true) ++ [.query false none 71]
    ++ List.replicate 29 (.callback 80 true)

/-- The device and its rig after the stumble. -/
def stumbled : Device × Rig Bench :=
  inverse.renewed.after (inverse.renewed.powerDown (Rig.start Bench.empty 1).forget).2 stumble

/-- The frame after the stumble has all its pulses. -/
theorem clock_waveform_stumble :
    (∀ event ∈ stumble, event.guards = true)
      ∧ stumbled.1.running = true ∧ stumbled.1.frame.halfCycles = 0
      ∧ (∀ event ∈ almost, event.guards = true) ∧ (∀ event ∈ almost, event.enables = false)
      ∧ (stumbled.1.after stumbled.2 almost).1.running = true
      ∧ handed (stumbled.1.history stumbled.2 almost) = 0
      ∧ handed ((stumbled.1.after stumbled.2 almost).1.step (stumbled.1.after stumbled.2 almost).2
          (.callback 90 true)).rig.effects ≠ 0
      ∧ risingEdges false
          (driven inverse.sck (stumbled.1.history stumbled.2 (almost ++ [.callback 90 true])))
        = 24 + inverse.gain.pulses := by
  have hguarded : ∀ event ∈ stumble, event.guards = true := by decide +kernel
  have hrunning : stumbled.1.running = true := by decide +kernel
  have hplace : stumbled.1.frame.halfCycles = 0 := by decide +kernel
  have hlater : ∀ event ∈ almost, event.guards = true := by decide +kernel
  have hsteady : ∀ event ∈ almost, event.enables = false := by decide +kernel
  have hran : (stumbled.1.after stumbled.2 almost).1.running = true := by decide +kernel
  have hnone : handed (stumbled.1.history stumbled.2 almost) = 0 := by decide +kernel
  have hlast : handed ((stumbled.1.after stumbled.2 almost).1.step
      (stumbled.1.after stumbled.2 almost).2 (.callback 90 true)).rig.effects ≠ 0 := by
    decide +kernel
  have hwaveform := clock_waveform inverse (Rig.start Bench.empty 1) stumble hguarded
  -- the course is folded up, so that nothing unfolds it again
  have hcourse : inverse.renewed.after
      (inverse.renewed.powerDown (Rig.start Bench.empty 1).forget).2 stumble = stumbled := rfl
  dsimp only at hwaveform
  rw [hcourse] at hwaveform
  have hframe := hwaveform.2.2.1 almost 90 hplace hlater hsteady hran hnone hlast
  exact ⟨hguarded, hrunning, hplace, hlater, hsteady, hran, hnone, hlast, hframe.2.1⟩

end Device

end WeighScale
