import WeighScale.Proofs.Pending
import WeighScale.Proofs.Twins

set_option autoImplicit false

/-! # Effects recorded before

A rig records its effects and never looks at them. So what happens to a scale comes to the same
whatever was recorded before: the effects from before stay at the end of the trace, and nothing
else is different. Each operation is said to commute with putting a past under the trace
(`withPast`), the calls of the board by definition, and then a run does as well
(`through_withPast`).
-/

namespace WeighScale

namespace Rig

variable {β : Type}

/-- The rig with other effects recorded before its own, the latest first. -/
def withPast (rig : Rig β) (past : List Effect) : Rig β := { rig with trace := rig.trace ++ past }

theorem deliverSamples_withPast (ids : Wire.Ids) (probe : Bool) (samples : List Sample)
    (rig : Rig β) (past : List Effect) :
    deliverSamples ids probe samples (rig.withPast past)
      = ((deliverSamples ids probe samples rig).1,
          (deliverSamples ids probe samples rig).2.withPast past) := by
  rw [deliverSamples_eq, deliverSamples_eq]
  exact congrArg (fun trace => (samples.length, { rig with trace }))
    (List.append_assoc _ rig.trace past).symm

end Rig

namespace Device

variable {β : Type} [Board β]

theorem keeps_withPast (device : Device) (past : List Effect) :
    device.Keeps device.slot fun one other : Rig β => other = one.withPast past where
  setupInput h _ := by rw [h]; exact ⟨rfl, rfl⟩
  setupOutput h _ := by rw [h]; exact ⟨rfl, rfl⟩
  read h := by rw [h]; exact ⟨rfl, rfl⟩
  drive h _ := by rw [h]; exact ⟨rfl, rfl⟩
  cancel h := by rw [h]; rfl
  schedule h _ := by rw [h]; rfl
  wake h _ := by rw [h]; rfl

/-- What comes of an operation, with other effects recorded before. -/
def Outcome.withPast {α : Type} (outcome : Outcome α β) (past : List Effect) : Outcome α β :=
  ⟨outcome.result, outcome.device, outcome.rig.withPast past⟩

omit [Board β] in
theorem Outcome.Twins.eq_withPast {α : Type} {past : List Effect} {one other : Outcome α β}
    (h : Twins id (fun one other : Rig β => other = one.withPast past) one other) :
    other = one.withPast past := by
  obtain ⟨result, device, rig⟩ := other
  obtain ⟨rfl, rfl, rfl⟩ := h
  rfl

theorem callback_withPast (device : Device) (now : Clock) (rig : Rig β) (past : List Effect) :
    device.callback now (rig.withPast past) = (device.callback now rig).withPast past :=
  ((device.keeps_withPast past).callback_self rfl now).eq_withPast

theorem query_withPast (device : Device) (enable : Bool) (endstop : Option UInt8) (now : Clock)
    (rig : Rig β) (past : List Effect) :
    device.query enable endstop now (rig.withPast past)
      = (device.query enable endstop now rig).withPast past :=
  ((device.keeps_withPast past).query_self rfl enable endstop now).eq_withPast

theorem attach_withPast (device : Device) (rig : Rig β) (past : List Effect) :
    device.attach (rig.withPast past)
      = ((device.attach rig).1, (device.attach rig).2.withPast past) := by
  have hrig : rig.withPast past = rig.withPast past := rfl
  obtain ⟨hresult, hafter⟩ := (device.keeps_withPast past).attach hrig device.latest
  exact Prod.ext hresult hafter

end Device

namespace Scale

variable {β : Type}

/-- The scale with other effects recorded before those of its rig. -/
def withPast (scale : Scale β) (past : List Effect) : Scale β :=
  scale.onRig (scale.rig.withPast past)

theorem put_withPast (scale : Scale β) (past : List Effect) (device : Device) :
    (scale.withPast past).put device = (scale.put device).withPast past := by
  have hfound : (scale.withPast past).device? device.oid = scale.device? device.oid := rfl
  rw [put, put, hfound]
  split <;> rfl

variable [Board β] (scale : Scale β) (past : List Effect)

/-! ## Requests -/

theorem configure_withPast (request : Wire.Configure) :
    (scale.withPast past).configure request
      = ((scale.configure request).1, (scale.configure request).2.withPast past) := by
  have hwanted : (scale.withPast past).wanted request = scale.wanted request := rfl
  have hrig : (scale.withPast past).rig = scale.rig.withPast past := rfl
  rw [configure_eq, configure_eq, hwanted, hrig]
  cases scale.wanted request with
  | error e => rfl
  | ok device =>
      dsimp only
      rw [device.attach_withPast, ← Prod.mk.eta (p := device.attach scale.rig)]
      cases (device.attach scale.rig).1 with
      | error fault => rfl
      | ok _ =>
          refine congrArg (Prod.mk _) ?_
          exact put_withPast (scale.onRig ((device.attach scale.rig).2.log _)) past device

theorem query_withPast (request : Wire.Query) (now : Clock) :
    (scale.withPast past).query request now
      = ((scale.query request now).1, (scale.query request now).2.withPast past) := by
  have hfound : (scale.withPast past).device? request.oid = scale.device? request.oid := rfl
  have hrig : (scale.withPast past).rig = scale.rig.withPast past := rfl
  rw [query, query, hfound, hrig]
  cases scale.device? request.oid with
  | none => rfl
  | some device =>
      dsimp only
      rw [device.query_withPast]
      dsimp only [Device.Outcome.withPast]
      cases (device.query request.enable request.endstop now scale.rig).result <;> rfl

theorem perform_withPast (request : Wire.Request) (now : Clock) :
    (scale.withPast past).perform request now
      = ((scale.perform request now).1, (scale.perform request now).2.withPast past) := by
  cases request with
  | configure request => exact scale.configure_withPast past request
  | query request => exact scale.query_withPast past request now

theorem receive_withPast (ids : Wire.Ids) (body : List UInt8) (now : Clock) :
    (scale.withPast past).receive ids body now
      = ((scale.receive ids body now).1, (scale.receive ids body now).2.withPast past) := by
  unfold receive
  split
  · rfl
  · exact scale.perform_withPast past _ now

/-! ## Callbacks -/

theorem callback_withPast (oid : UInt8) (now : Clock) :
    (scale.withPast past).callback oid now
      = ((scale.callback oid now).1, (scale.callback oid now).2.withPast past) := by
  have hfound : (scale.withPast past).device? oid = scale.device? oid := rfl
  have hrig : (scale.withPast past).rig = scale.rig.withPast past := rfl
  rw [callback, callback, clockDevice, clockDevice, hfound, hrig]
  cases scale.device? oid with
  | none => rfl
  | some device =>
      dsimp only
      rw [device.callback_withPast]
      dsimp only [Device.Outcome.withPast]
      cases (device.callback now scale.rig).result <;> rfl

theorem serve_withPast (timer : Timer) (now : Clock) :
    (scale.withPast past).serve timer now = (scale.serve timer now).withPast past := by
  have htaken : (scale.withPast past).taking timer = (scale.taking timer).withPast past := rfl
  rw [serve_eq, serve_eq, htaken, callback_withPast]
  cases ((scale.taking timer).callback timer.oid now).1 <;> rfl

/-! ## Runs -/

theorem apply_withPast (operation : Operation) :
    (scale.withPast past).apply operation = (scale.apply operation).withPast past := by
  cases operation with
  | request request now => exact congrArg Prod.snd (scale.perform_withPast past request now)
  | message ids body now => exact congrArg Prod.snd (scale.receive_withPast past ids body now)
  | deliver ids probe =>
      exact congrArg (fun outcome => scale.onRig outcome.2)
        (Rig.deliverSamples_withPast ids probe _ { scale.rig with handoff := _ } past)
  | serve timer now =>
      have hpending : (scale.withPast past).rig.timers = scale.rig.timers := rfl
      rw [apply, apply, hpending, serve_withPast, apply_ite (withPast · past)]

/-- **Whatever happens**, the effects recorded before take no part in it. -/
theorem step_withPast (event : Event) :
    (scale.withPast past).step event = (scale.step event).withPast past := by
  cases event with
  | wake slot sample => rfl
  | visit ids probe slot =>
      exact congrArg (fun outcome => scale.onRig outcome.2)
        (Rig.deliverSamples_withPast ids probe _ { scale.rig with handoff := _ } past)
  | callback oid now => exact congrArg Prod.snd (scale.callback_withPast past oid now)
  | operate operation => exact scale.apply_withPast past operation

/-- **A whole run.** -/
theorem through_withPast (events : List Event) :
    (scale.withPast past).through events = (scale.through events).withPast past := by
  induction events generalizing scale with
  | nil => rfl
  | cons event events ih =>
      rw [through, List.foldl_cons, step_withPast]
      exact ih (scale.step event)

end Scale

end WeighScale
