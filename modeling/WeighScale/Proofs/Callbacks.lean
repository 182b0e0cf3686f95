import WeighScale.Proofs.Conformance
import WeighScale.Proofs.Strays
import WeighScale.Proofs.Twins

set_option autoImplicit false

/-! # The callbacks of a run

The callbacks that the timers make of one device in a run of a scale, in the words in which the
course of a device is told: what the device met, and what came of it (`Scale.exchanges`). What
comes of a callback is told with the trace begun anew, so it can be set against the run: the
device after it is the device that the scale has from then on (`serve_eq_step`), and the samples
that the scale wakes for a device are those of its callbacks (`wokenFor_apply`).
-/

namespace WeighScale

namespace Rig

variable {β : Type}

/-- The samples of the device with this oid that were put into slots, the earliest first. -/
def wokenFor (rig : Rig β) (oid : UInt8) : List Sample :=
  (rig.effects.filterMap Effect.woken?).filter (·.oid == oid)

theorem wokenFor_note_of_none (rig : Rig β) {effect : Effect} (h : effect.woken? = none)
    (oid : UInt8) : (rig.note effect).wokenFor oid = rig.wokenFor oid := by
  rw [wokenFor, effects, trace_note, List.reverse_cons, List.filterMap_append,
    List.filterMap_cons_none h, List.filterMap_nil, List.append_nil, wokenFor, effects]

theorem wokenFor_wake (rig : Rig β) (slot : Nat) (sample : Sample) (oid : UInt8) :
    (rig.wake slot sample).wokenFor oid
      = rig.wokenFor oid ++ if sample.oid = oid then [sample] else [] := by
  rw [wokenFor, effects, wake, trace_note, List.reverse_cons, List.filterMap_append,
    List.filter_append]
  refine congrArg (rig.wokenFor oid ++ ·) ?_
  show [sample].filter (·.oid == oid) = _
  by_cases h : sample.oid = oid <;> simp [h]

theorem Logged.wokenFor {rig after : Rig β} (h : Logged rig after) (oid : UInt8) :
    after.wokenFor oid = rig.wokenFor oid :=
  h.keeps (fun rig => rig.wokenFor oid) fun rig _ => rig.wokenFor_note_of_none rfl oid

theorem Since.wokenFor {past : List Effect} {one other : Rig β} (h : Since past one other)
    (oid : UInt8) :
    one.wokenFor oid
      = (past.reverse.filterMap Effect.woken?).filter (·.oid == oid) ++ other.wokenFor oid := by
  rw [Rig.wokenFor, effects, h.trace, List.reverse_append, List.filterMap_append,
    List.filter_append]
  rfl

/-- What is announced of samples puts none into a slot. -/
theorem wokenFor_of_announced {rig after : Rig β} {samples : List Sample} {ids : Wire.Ids}
    {probe : Bool}
    (htrace : after.trace = (samples.flatMap (·.announced ids probe)).reverse ++ rig.trace)
    (oid : UInt8) : after.wokenFor oid = rig.wokenFor oid := by
  have hnone (sample : Sample) : (sample.announced ids probe).filterMap Effect.woken? = [] := by
    rw [Sample.announced, Sample.shown]
    cases probe <;> cases sample.endstop <;> rfl
  rw [wokenFor, effects, htrace, List.reverse_append, List.reverse_reverse,
    List.filterMap_append, List.filterMap_flatMap,
    List.flatMap_eq_nil_iff.mpr fun sample _ => hnone sample, List.append_nil]
  rfl

theorem wokenFor_deliver (rig : Rig β) (ids : Wire.Ids) (probe : Bool) (oid : UInt8) :
    (rig.deliver ids probe).2.wokenFor oid = rig.wokenFor oid := by
  rw [deliver_eq]
  exact wokenFor_of_announced rfl oid

end Rig

namespace Device

variable {β : Type} [Board β]

/-- A callback hands over no samples of other devices. -/
theorem wokenFor_callback_ne (device : Device) (now : Clock) (rig : Rig β) {oid : UInt8}
    (h : oid ≠ device.oid) : (device.callback now rig).rig.wokenFor oid = rig.wokenFor oid :=
  callback_keeps (fun rig => rig.wokenFor oid) device
    (fun rig => rig.wokenFor_note_of_none rfl oid)
    (fun rig _ => rig.wokenFor_note_of_none rfl oid)
    (fun rig sample hoid => by
      rw [Rig.wokenFor_wake, hoid, if_neg (Ne.symm h), List.append_nil]) now rig

theorem wokenFor_step_ne (device : Device) (rig : Rig β) (now : Clock) {oid : UInt8}
    (h : oid ≠ device.oid) :
    (device.step rig (.callback now true)).rig.wokenFor oid = [] := by
  have hcallback : (device.callback now rig.forget).rig.wokenFor oid = [] :=
    device.wokenFor_callback_ne now rig.forget h
  rw [step]
  split
  · exact hcallback
  · exact (Rig.wokenFor_note_of_none _ rfl oid).trans hcallback

/-- What a callback hands over are samples of its device. -/
theorem wokenFor_step_self (device : Device) (rig : Rig β) (now : Clock) :
    (device.step rig (.callback now true)).rig.wokenFor device.oid
      = (device.step rig (.callback now true)).rig.effects.filterMap Effect.woken? := by
  refine List.filter_eq_self.mpr fun sample hmem => ?_
  by_contra hne
  have hnone := device.wokenFor_step_ne rig now (mt beq_iff_eq.mpr hne)
  have hsome : sample ∈ (device.step rig (.callback now true)).rig.wokenFor sample.oid :=
    List.mem_filter.mpr ⟨hmem, beq_self_eq_true _⟩
  rw [hnone] at hsome
  cases hsome

/-- The samples that callbacks have handed over. -/
def samplesOf (exchanges : List (Call × Response)) : List Sample :=
  exchanges.flatMap fun exchange => exchange.2.effects.filterMap Effect.woken?

end Device

namespace Scale

variable {β : Type} [Board β]

/-- **A callback that the timers make** is one of the course of the device. -/
theorem serve_eq_step {scale : Scale β} {timer : Timer} {device : Device} (now : Clock)
    (hfound : scale.device? timer.oid = some device) :
    let outcome := device.step scale.rig (.callback now true)
    outcome.result = .ok (some ((scale.taking timer).callback timer.oid now).1)
      ∧ (scale.serve timer now).device? timer.oid = some outcome.device
      ∧ (scale.serve timer now).rig.board = outcome.rig.board
      ∧ ∀ oid, (scale.serve timer now).rig.wokenFor oid
          = scale.rig.wokenFor oid ++ outcome.rig.wokenFor oid := by
  intro outcome
  have htaken : (scale.taking timer).device? timer.oid = some device := hfound
  obtain ⟨hnext, hself, -, hlogged⟩ := callback_of_some now htaken
  -- the timers take no part in the callback
  have hsince : Rig.Since scale.rig.trace (scale.taking timer).rig scale.rig.forget :=
    .forget scale.rig rfl rfl
  obtain ⟨hresult, hdevice, hafter⟩ := hsince.callback device now
  have hboard (scale : Scale β) (next : Next) :
      (scale.putBack timer.oid next).rig.board = scale.rig.board := by
    cases next <;> rfl
  have hwoken (scale : Scale β) (next : Next) (oid : UInt8) :
      (scale.putBack timer.oid next).rig.wokenFor oid = scale.rig.wokenFor oid := by
    cases next <;> rfl
  have houtcome : outcome = device.step scale.rig (.callback now true) := rfl
  rw [Device.step, hresult] at houtcome
  rw [serve_eq, device?_putBack, hself, hnext, hboard, hlogged.board, ← hafter.board,
    Device.timed]
  simp only [hwoken, hlogged.wokenFor, hafter.wokenFor]
  cases hcase : (device.callback now (scale.taking timer).rig).result with
  | ok next =>
      rw [hcase] at houtcome
      rw [houtcome]
      exact ⟨rfl, congrArg some hdevice.symm, rfl, fun _ => rfl⟩
  | error fault =>
      rw [hcase] at houtcome
      rw [houtcome]
      exact ⟨rfl, congrArg (some ·.stop) hdevice.symm, rfl, fun oid =>
        congrArg (_ ++ ·) (Rig.wokenFor_note_of_none _ rfl oid).symm⟩

/-! ## Runs -/

/-- The callback of the device with this oid, and what comes of it, if the operation makes one. -/
def exchange? (scale : Scale β) (oid : UInt8) :
    Operation → Option (Device.Call × Device.Response)
  | .serve timer now =>
      if timer ∈ scale.rig.timers.pending ∧ timer.oid = oid then
        (scale.device? oid).bind fun device => device.exchange? scale.rig (.callback now true)
      else none
  | _ => none

/-- The callbacks that a run makes of the device with this oid, each with what came of it. -/
def exchanges (scale : Scale β) (oid : UInt8) :
    List Operation → List (Device.Call × Device.Response)
  | [] => []
  | operation :: operations =>
      (scale.exchange? oid operation).toList ++ (scale.apply operation).exchanges oid operations

theorem exchanges_append (scale : Scale β) (oid : UInt8) (before later : List Operation) :
    scale.exchanges oid (before ++ later)
      = scale.exchanges oid before ++ (scale.after before).exchanges oid later := by
  induction before generalizing scale with
  | nil => rfl
  | cons operation before ih =>
      rw [List.cons_append, exchanges, ih, exchanges, List.append_assoc]
      rfl

theorem touchOfRequest_ne_served (scale : Scale β) (oid : UInt8) (now : Clock)
    (request : Wire.Request) (next : Next) :
    scale.touchOfRequest oid now request ≠ .served next := by
  unfold touchOfRequest
  repeat' split
  all_goals exact Touch.noConfusion

/-- **A callback of the device** is the next of its exchanges. -/
theorem apply_of_served {scale : Scale β} {oid : UInt8} {operation : Operation} {next : Next}
    {device : Device} (hfound : scale.device? oid = some device)
    (htouch : scale.touch oid operation = .served next) :
    ∃ now,
      let outcome := device.step scale.rig (.callback now true)
      scale.exchange? oid operation
          = some (device.meets now (Board.read scale.rig.board device.dout).1, outcome.response)
        ∧ outcome.result = .ok (some next)
        ∧ (scale.apply operation).device? oid = some outcome.device := by
  cases operation with
  | request request now => exact absurd htouch (scale.touchOfRequest_ne_served oid now request next)
  | message ids body now =>
      rw [touch] at htouch
      split at htouch
      · cases htouch
      · exact absurd htouch (scale.touchOfRequest_ne_served oid now _ next)
  | deliver ids probe => cases htouch
  | serve timer now =>
      rw [touch] at htouch
      split at htouch
      · next hserved =>
          obtain ⟨hmem, rfl⟩ := hserved
          obtain ⟨hresult, hself, -⟩ := serve_eq_step now hfound
          refine ⟨now, ?_, ?_, ?_⟩
          · rw [exchange?, if_pos ⟨hmem, rfl⟩, hfound]
            rfl
          · rw [hresult, Touch.served.inj htouch]
          · rw [apply, if_pos hmem]
            exact hself
      · cases htouch

theorem exchange?_of_not_served {scale : Scale β} {oid : UInt8} {operation : Operation}
    (htouch : ∀ next, scale.touch oid operation ≠ .served next) :
    scale.exchange? oid operation = none := by
  cases operation with
  | request | message | deliver => rfl
  | serve timer now => exact if_neg fun hserved => htouch _ (if_pos hserved)

/-! ## The samples of a run -/

theorem keptByRequests_wokenFor (oid : UInt8) :
    Rig.KeptByRequests fun rig : Rig β => rig.wokenFor oid where
  log rig _ := rig.wokenFor_note_of_none rfl oid
  cancel _ _ := Rig.wokenFor_note_of_none _ rfl oid
  schedule _ _ _ := Rig.wokenFor_note_of_none _ rfl oid
  setupInput _ _ _ := Rig.wokenFor_note_of_none _ rfl oid
  setupOutput _ _ _ := Rig.wokenFor_note_of_none _ rfl oid
  drive _ _ _ := Rig.wokenFor_note_of_none _ rfl oid

theorem wokenFor_perform (scale : Scale β) (request : Wire.Request) (now : Clock) (oid : UInt8) :
    (scale.perform request now).2.rig.wokenFor oid = scale.rig.wokenFor oid :=
  scale.perform_keeps (keptByRequests_wokenFor oid) request now

theorem wokenFor_serve (scale : Scale β) (timer : Timer) (now : Clock) (oid : UInt8) :
    (scale.serve timer now).rig.wokenFor oid
      = scale.rig.wokenFor oid
        ++ if timer.oid = oid then
            Device.samplesOf ((scale.device? oid).bind fun device =>
              device.exchange? scale.rig (.callback now true)).toList
          else [] := by
  cases hfound : scale.device? timer.oid with
  | none =>
      have htaken : (scale.taking timer).device? timer.oid = none := hfound
      have hsame : (scale.serve timer now).rig.wokenFor oid = scale.rig.wokenFor oid := by
        rw [serve_eq, callback_of_none now htaken]
        rfl
      split
      · next h =>
          subst h
          rw [hfound, hsame]
          exact (List.append_nil _).symm
      · rw [hsame, List.append_nil]
  | some device =>
      have hself := oid_of_device? hfound
      rw [(serve_eq_step now hfound).2.2.2 oid]
      refine congrArg (scale.rig.wokenFor oid ++ ·) ?_
      split
      · next h =>
          subst h
          rw [hfound, ← hself, Device.wokenFor_step_self]
          exact (List.append_nil _).symm
      · next h => exact device.wokenFor_step_ne _ now fun heq => h (hself.symm.trans heq.symm)

/-- **Nothing but its callbacks** hands over samples of a device. -/
theorem wokenFor_apply (scale : Scale β) (oid : UInt8) (operation : Operation) :
    (scale.apply operation).rig.wokenFor oid
      = scale.rig.wokenFor oid ++ Device.samplesOf (scale.exchange? oid operation).toList := by
  have hnil (woken : List Sample) : woken = woken ++ Device.samplesOf [] :=
    (List.append_nil woken).symm
  cases operation with
  | request request now => exact (scale.wokenFor_perform request now oid).trans (hnil _)
  | message ids body now =>
      show (scale.receive ids body now).2.rig.wokenFor oid = _
      unfold receive
      split
      · exact hnil _
      · exact (scale.wokenFor_perform _ now oid).trans (hnil _)
  | deliver ids probe => exact (scale.rig.wokenFor_deliver ids probe oid).trans (hnil _)
  | serve timer now =>
      rw [apply, exchange?]
      by_cases hmem : timer ∈ scale.rig.timers.pending
      · rw [if_pos hmem, wokenFor_serve]
        by_cases hoid : timer.oid = oid
        · rw [if_pos hoid, if_pos ⟨hmem, hoid⟩]
        · rw [if_neg hoid, if_neg fun h => hoid h.2]
          rfl
      · rw [if_neg hmem, if_neg fun h => hmem h.1]
        exact hnil _

/-- **The samples of a run** are those of its callbacks. -/
theorem wokenFor_after (scale : Scale β) (oid : UInt8) (operations : List Operation) :
    (scale.after operations).rig.wokenFor oid
      = scale.rig.wokenFor oid ++ Device.samplesOf (scale.exchanges oid operations) := by
  induction operations generalizing scale with
  | nil => exact (List.append_nil _).symm
  | cons operation operations ih =>
      rw [exchanges, Device.samplesOf, List.flatMap_append, ← List.append_assoc]
      exact (ih _).trans (congrArg (· ++ _) (scale.wokenFor_apply oid operation))

end Scale

end WeighScale
