import WeighScale.Proofs.Mirrors
import WeighScale.Proofs.Past

set_option autoImplicit false

/-! # Deeds

What is done to a table of devices, one thing after another: devices are configured, sampling is
started and stopped, callbacks are made. Each of these is for one oid. What it comes to for the
device with that oid is told in an account (`Scale.account`). A deed is an event of the scale that
is told with its result and with its own effects only, and so a run of deeds is a run of events
(`begun_follow`).

A deed goes through the lines of its device and through its slot. Whatever these leave alone is left
alone by the deed (`carryOut_spares`), so nothing that belongs to another device changes
(`spared_carryOut`), nor do the parts of the board that have none of these lines in them
(`agree_carryOut`).
-/

namespace WeighScale

/-- Something done to a table of devices. -/
inductive Deed
  | configure (request : Wire.Configure)
  | query (request : Wire.Query) (now : Clock)
  /-- A callback of the device with this oid. -/
  | callback (oid : UInt8) (now : Clock)
  /-- A callback is taken out of the timers, made at `now`, and put back if the device asks for
  another one. -/
  | serve (timer : Timer) (now : Clock)
  deriving DecidableEq

namespace Deed

/-- The oid that it is for. -/
def oid : Deed → UInt8
  | configure request => request.oid
  | query request _ => request.oid
  | callback oid _ => oid
  | serve timer _ => timer.oid

/-- The pins that it puts a device on. -/
def pins : Deed → List Pin
  | configure request => [request.dout, request.sck]
  | _ => []

/-- The deed among everything that happens to a scale. A configure request knows of no clock. -/
def event : Deed → Scale.Event
  | configure request => .operate (.request (.configure request) 0)
  | query request now => .operate (.request (.query request) now)
  | callback oid now => .callback oid now
  | serve timer now => .operate (.serve timer now)

/-- Whether it puts a device into the table. -/
def configures : Deed → Bool
  | configure _ => true
  | _ => false

theorem pins_eq_nil {deed : Deed} (h : deed.configures = false) : deed.pins = [] := by
  cases deed with
  | configure request => cases h
  | query | callback | serve => rfl

/-- The pins that two deeds put devices on are in different parts of the board. -/
def Apart {β κ σ : Type} [Board β] (one other : Deed) (parts : Parts β κ σ) : Prop :=
  ∀ pin ∈ one.pins, ∀ pin' ∈ other.pins, parts.part pin ≠ parts.part pin'

instance {β κ σ : Type} [Board β] [DecidableEq κ] (one other : Deed) (parts : Parts β κ σ) :
    Decidable (one.Apart other parts) :=
  -- pin by pin of the two lists, and not of all pins there are
  decidable_of_iff
    ((one.pins.all fun pin => other.pins.all fun pin' => parts.part pin != parts.part pin') = true)
    (by simp [Apart])

end Deed

/-- What a deed comes to for the device it is for: its result, its effects, and what belongs to
the device after it. -/
structure Account where
  result : Except RequestError (Option Next)
  effects : List Effect
  view : View
  deriving DecidableEq

namespace Scale

variable {β : Type} [Board β]

/-- Does something, with the trace begun anew. Only callbacks have another result than that they
have succeeded. -/
def carryOut (scale : Scale β) : Deed → Except RequestError (Option Next) × Scale β
  | .configure request =>
      ((scale.begun.configure request).1.map fun _ => none, (scale.begun.configure request).2)
  | .query request now =>
      ((scale.begun.query request now).1.map fun _ => none, (scale.begun.query request now).2)
  | .callback oid now =>
      (.ok (some (scale.begun.callback oid now).1), (scale.begun.callback oid now).2)
  | .serve timer now =>
      (.ok (some ((scale.begun.taking timer).callback timer.oid now).1),
        scale.begun.serve timer now)

/-- The scale after one deed after another. -/
def follow (scale : Scale β) (deeds : List Deed) : Scale β :=
  deeds.foldl (fun scale deed => (scale.carryOut deed).2) scale

/-- A deed is an event with the trace begun anew, if the callback that it serves is to come. -/
theorem carryOut_eq_step (scale : Scale β) {deed : Deed}
    (h : ∀ timer now, deed = .serve timer now → timer ∈ scale.rig.timers.pending) :
    (scale.carryOut deed).2 = scale.begun.step deed.event := by
  cases deed with
  | configure | query | callback => rfl
  | serve timer now => exact (if_pos (h timer now rfl)).symm

theorem begun_through (scale : Scale β) (events : List Event) :
    (scale.begun.through events).begun = (scale.through events).begun := by
  have hpast : scale.begun.withPast scale.rig.trace = scale := rfl
  rw [← congrArg (through · events) hpast, through_withPast]
  rfl

/-- **A run of deeds is a run of events**, but for the trace, as long as every callback that is
served is to come at that time. -/
theorem begun_follow (scale : Scale β) {deeds : List Deed}
    (h : ∀ before timer now later, deeds = before ++ .serve timer now :: later →
      timer ∈ (scale.follow before).rig.timers.pending) :
    (scale.follow deeds).begun = (scale.through (deeds.map Deed.event)).begun := by
  induction deeds generalizing scale with
  | nil => rfl
  | cons deed deeds ih =>
      have hfirst : (scale.carryOut deed).2 = scale.begun.step deed.event :=
        scale.carryOut_eq_step fun timer now hdeed => h [] timer now deeds (by rw [hdeed]; rfl)
      calc (scale.follow (deed :: deeds)).begun
          = ((scale.carryOut deed).2.through (deeds.map Deed.event)).begun :=
            ih (scale.carryOut deed).2 fun before timer now later hdeeds =>
              h (deed :: before) timer now later (congrArg (deed :: ·) hdeeds)
        _ = (scale.begun.through ((deed :: deeds).map Deed.event)).begun := by
            rw [hfirst]
            rfl
        _ = (scale.through ((deed :: deeds).map Deed.event)).begun := scale.begun_through _

/-- What a deed comes to for the device it is for. -/
def account (scale : Scale β) (deed : Deed) : Account where
  result := (scale.carryOut deed).1
  effects := (scale.carryOut deed).2.rig.effects.map Effect.unslotted
  view := (scale.carryOut deed).2.view deed.oid

/-- What those of the deeds come to that are for this oid. -/
def accounts (scale : Scale β) (oid : UInt8) : List Deed → List Account
  | [] => []
  | deed :: deeds =>
      (if deed.oid = oid then [scale.account deed] else [])
        ++ (scale.carryOut deed).2.accounts oid deeds

end Scale

/-! ## What a deed leaves alone -/

section

variable {β γ : Type} [Board β] {part : β → Handoff → γ}

/-- Calls on these pins leave something of the board and the slots as it is. -/
def CallsSpare (part : β → Handoff → γ) (pins : List Pin) : Prop :=
  ∀ board handoff (call : PinCall), call.pin ∈ pins →
    part (call.ask board).2.board handoff = part board handoff

/-- What the device does with its lines and its slot leaves something as it is. -/
structure Device.Spares (device : Device) (part : β → Handoff → γ) : Prop where
  calls : CallsSpare part [device.dout, device.sck]
  wake : ∀ board handoff sample, part board (handoff.wake device.slot sample) = part board handoff

namespace Device.Spares

variable {device : Device}

theorem callback (h : device.Spares part) (now : Clock) (rig : Rig β) :
    part (device.callback now rig).rig.board (device.callback now rig).rig.handoff
      = part rig.board rig.handoff :=
  callback_keeps (fun rig => part rig.board rig.handoff) device
    (fun _ => h.calls _ _ (.read device.dout) (by simp [PinCall.pin]))
    (fun _ high => h.calls _ _ (.drive device.sck high) (by simp [PinCall.pin]))
    (fun _ sample _ => h.wake _ _ sample) now rig

theorem query (h : device.Spares part) (enable : Bool) (endstop : Option UInt8) (now : Clock)
    (rig : Rig β) :
    part (device.query enable endstop now rig).rig.board
        (device.query enable endstop now rig).rig.handoff
      = part rig.board rig.handoff :=
  query_keeps (fun rig => part rig.board rig.handoff) device (fun _ => rfl)
    (fun _ high => h.calls _ _ (.drive device.sck high) (by simp [PinCall.pin]))
    (fun _ _ => rfl) enable endstop now rig

end Device.Spares

theorem CallsSpare.attach {device : Device} (h : CallsSpare part [device.dout, device.sck])
    (rig : Rig β) :
    part (device.attach rig).2.board (device.attach rig).2.handoff = part rig.board rig.handoff :=
  Device.attach_keeps (fun rig => part rig.board rig.handoff) device
    (fun _ pull => h _ _ (.setupInput device.dout pull) (by simp [PinCall.pin]))
    (fun _ high => h _ _ (.setupOutput device.sck high) (by simp [PinCall.pin]))
    (fun _ high => h _ _ (.drive device.sck high) (by simp [PinCall.pin])) rig

namespace Scale

theorem callback_spares (scale : Scale β) {oid : UInt8}
    (h : ∀ device, scale.device? oid = some device → device.Spares part) (now : Clock) :
    part (scale.callback oid now).2.rig.board (scale.callback oid now).2.rig.handoff
      = part scale.rig.board scale.rig.handoff := by
  cases hfound : scale.device? oid with
  | none => rw [callback_of_none now hfound]
  | some device =>
      obtain ⟨-, -, -, hlogged⟩ := callback_of_some now hfound
      rw [hlogged.board, hlogged.handoff]
      exact (h device hfound).callback now scale.rig

/-- **A deed leaves alone** what its device does, and the pins that it puts a device on. -/
theorem carryOut_spares (part : β → Handoff → γ) (scale : Scale β) (deed : Deed)
    (h : ∀ device, scale.device? deed.oid = some device → device.Spares part)
    (hpins : CallsSpare part deed.pins) :
    part (scale.carryOut deed).2.rig.board (scale.carryOut deed).2.rig.handoff
      = part scale.rig.board scale.rig.handoff := by
  cases deed with
  | configure request =>
      have hattach {device : Device} (hwanted : scale.begun.wanted request = .ok device) :
          part (device.attach scale.begun.rig).2.board (device.attach scale.begun.rig).2.handoff
            = part scale.rig.board scale.rig.handoff := by
        obtain ⟨hdout, hsck⟩ := lines_wanted hwanted
        have hcalls : CallsSpare part [device.dout, device.sck] := by
          rw [hdout, hsck]
          exact hpins
        exact hcalls.attach scale.begun.rig
      have hway := scale.begun.configured_configure request
      rw [carryOut]
      generalize scale.begun.configure request = outcome at hway ⊢
      cases hway with
      | refused => rfl
      | failed device fault hwanted => exact hattach hwanted
      | added device line hwanted =>
          dsimp only
          rw [rig_put]
          exact hattach hwanted
  | query request now =>
      show part (scale.begun.query request now).2.rig.board
        (scale.begun.query request now).2.rig.handoff = part scale.begun.rig.board _
      cases hfound : scale.begun.device? request.oid with
      | none =>
          rw [query_of_none now hfound]
          rfl
      | some device =>
          obtain ⟨-, -, hlogged⟩ := query_of_some now hfound
          rw [hlogged.board, hlogged.handoff]
          exact (h device hfound).query request.enable request.endstop now scale.begun.rig
  | callback oid now => exact scale.begun.callback_spares h now
  | serve timer now =>
      have hcalled := (scale.begun.taking timer).callback_spares h now
      show part (scale.begun.serve timer now).rig.board (scale.begun.serve timer now).rig.handoff
        = part (scale.begun.taking timer).rig.board _
      rw [serve_eq, (rig_putBack _ _ _).1, (rig_putBack _ _ _).2.1]
      exact hcalled

end Scale

end

namespace Scale

variable {β κ σ : Type} [Board β] {scale : Scale β} {oid : UInt8}

theorem delays_callback (scale : Scale β) (oid : UInt8) (now : Clock) :
    (scale.callback oid now).2.delays = scale.delays := by
  cases hfound : scale.device? oid with
  | none => rw [callback_of_none now hfound]
  | some device =>
      obtain ⟨rig, -, heq⟩ := callback_eq_of_some now hfound
      rw [heq]
      rfl

theorem delays_carryOut (scale : Scale β) (deed : Deed) :
    (scale.carryOut deed).2.delays = scale.delays := by
  cases deed with
  | configure request =>
      have hway := scale.begun.configured_configure request
      rw [carryOut]
      generalize scale.begun.configure request = outcome at hway ⊢
      cases hway with
      | refused | failed => rfl
      | added => exact delays_put ..
  | query request now =>
      show (scale.begun.query request now).2.delays = scale.begun.delays
      cases hfound : scale.begun.device? request.oid with
      | none => rw [query_of_none now hfound]
      | some device =>
          obtain ⟨rig, -, heq⟩ := query_eq_of_some now hfound
          rw [heq]
          rfl
  | callback oid now => exact scale.begun.delays_callback oid now
  | serve timer now =>
      show (scale.begun.serve timer now).delays = (scale.begun.taking timer).delays
      rw [serve_eq, ← delays_callback (scale.begun.taking timer) timer.oid now]
      cases ((scale.begun.taking timer).callback timer.oid now).1 <;> rfl

theorem capacity_carryOut (scale : Scale β) (deed : Deed) :
    (scale.carryOut deed).2.capacity = scale.capacity :=
  carryOut_spares (fun _ handoff => handoff.capacity) scale deed
    (fun _ _ => ⟨fun _ _ _ _ => rfl, fun _ _ _ => Handoff.capacity_wake ..⟩) fun _ _ _ _ => rfl

/-- Only configuring puts devices into the table. -/
theorem oids_carryOut (scale : Scale β) {deed : Deed} (h : deed.configures = false) :
    (scale.carryOut deed).2.oids = scale.oids := by
  cases deed with
  | configure request => cases h
  | query request now => exact scale.begun.oids_query request now
  | callback oid now => exact scale.begun.oids_callback oid now
  | serve timer now => exact scale.begun.oids_serve timer now

theorem Seated.carryOut (h : scale.Seated) (deed : Deed) : (scale.carryOut deed).2.Seated := by
  have hbegun : scale.begun.Seated := h.onRig_of_handoff rfl
  cases deed with
  | configure request => exact hbegun.configure request
  | query request now => exact hbegun.query request now
  | callback oid now => exact hbegun.callback oid now
  | serve timer now => exact hbegun.serve timer now

/-- Nothing of what belongs to a device has changed. -/
structure Spared (oid : UInt8) (scale after : Scale β) : Prop where
  device : after.device? oid = scale.device? oid
  signal : ∀ device, scale.device? oid = some device →
    after.rig.handoff.pending? device.slot = scale.rig.handoff.pending? device.slot
  due : after.due oid = scale.due oid

omit [Board β] in
theorem Spared.view {after : Scale β} (h : Spared oid scale after) :
    after.view oid = scale.view oid := by
  rw [Scale.view, Scale.view, h.device, h.due]
  cases hfound : scale.device? oid with
  | none => rfl
  | some device =>
      rw [Option.bind_some, Option.bind_some, h.signal device hfound]

/-- **A deed for another device** changes nothing of what belongs to the device. -/
theorem spared_carryOut (h : scale.Seated) {deed : Deed} (hne : oid ≠ deed.oid) :
    Spared oid scale (scale.carryOut deed).2 := by
  have hsignal (device : Device) (hfound : scale.device? oid = some device) :
      (scale.carryOut deed).2.rig.handoff.pending? device.slot
        = scale.rig.handoff.pending? device.slot := by
    refine carryOut_spares (fun _ handoff => handoff.pending? device.slot) scale deed
      (fun neighbour hneighbour => ⟨fun _ _ _ _ => rfl, fun _ _ _ => ?_⟩) fun _ _ _ _ => rfl
    exact Handoff.pending?_wake_ne _ _ (h.slot_ne hne hfound hneighbour)
  cases deed with
  | configure request =>
      obtain ⟨hdevice, hdue⟩ := scale.begun.configure_ne request hne
      exact ⟨hdevice, hsignal, hdue⟩
  | query request now =>
      obtain ⟨hdevice, hdue⟩ := scale.begun.query_ne request now hne
      exact ⟨hdevice, hsignal, hdue⟩
  | callback other now =>
      refine ⟨?_, hsignal, scale.begun.due_callback other oid now⟩
      show (scale.begun.callback other now).2.device? oid = scale.begun.device? oid
      cases hfound : scale.begun.device? other with
      | none => rw [callback_of_none now hfound]
      | some device =>
          obtain ⟨-, -, hother, -⟩ := callback_of_some now hfound
          exact hother oid hne
  | serve timer now =>
      obtain ⟨hdevice, hdue⟩ := scale.begun.serve_ne now hne
      exact ⟨hdevice, hsignal, hdue⟩

variable {parts : Parts β κ σ} {mine : κ → Prop}

/-- **A deed on other lines** changes none of these parts of the board. -/
theorem agree_carryOut {deed : Deed} (hlines : scale.OnLines parts (¬mine ·) deed.oid)
    (hpins : ∀ pin ∈ deed.pins, ¬mine (parts.part pin)) :
    parts.Agree mine scale.rig.board (scale.carryOut deed).2.rig.board := by
  have hcalls {pins : List Pin} (hpins : ∀ pin ∈ pins, ¬mine (parts.part pin)) :
      CallsSpare (fun board _ => fun k : Subtype mine => parts.state board k.1) pins :=
    fun board _ call hcall => funext fun k => Parts.state_ask_of_not board call (hpins _ hcall) k.2
  have hkept := carryOut_spares _ scale deed
    (fun device hfound => ⟨hcalls (by simpa using hlines device hfound), fun _ _ _ => rfl⟩)
    (hcalls hpins)
  exact fun k hk => congrFun hkept ⟨k, hk⟩

end Scale

end WeighScale
