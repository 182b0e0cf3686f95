import WeighScale.Proofs.Parts
import WeighScale.Proofs.Seats
import WeighScale.Proofs.Touch
import WeighScale.Proofs.Twins

set_option autoImplicit false

/-! # What a device sees of a scale

What belongs to a device is its state, the sample in its slot and its callbacks to come (`View`),
and with them the parts of the board that its lines are in. Two scales that are the same in all
this (`Mirrors`) are the same scale to the device, whatever other devices there are, and whatever
slot it is in: what is done to the device comes to the same on both, and leaves them the same
(`Alike`).

* `Mirrors.configure`, `Mirrors.query`, `Mirrors.callback`, `Mirrors.serve`: the operations.
-/

namespace WeighScale

/-- The effect with the number of the slot left out. -/
def Effect.unslotted : Effect → Effect
  | wake _ sample => wake 0 sample
  | effect => effect

/-! ## Two rigs seen from one device -/

section

variable {β κ σ : Type} [Board β] {parts : Parts β κ σ} {mine : κ → Prop} {oid : UInt8}
  {slot other : Nat} {full solo : Rig β}

/-- Two rigs look the same from a device that is in slot `slot` of the first and in slot `other`
of the second. -/
structure Rig.Mirror (parts : Parts β κ σ) (mine : κ → Prop) (oid : UInt8) (slot other : Nat)
    (full solo : Rig β) : Prop where
  board : parts.Agree mine full.board solo.board
  effects : solo.effects.map Effect.unslotted = full.effects.map Effect.unslotted
  due : solo.timers.due oid = full.timers.due oid
  signal : solo.handoff.pending? other = full.handoff.pending? slot
  slot_lt : slot < full.handoff.capacity
  other_lt : other < solo.handoff.capacity

namespace Rig.Mirror

theorem note (h : Mirror parts mine oid slot other full solo) {effect same : Effect}
    (heffect : same.unslotted = effect.unslotted) :
    Mirror parts mine oid slot other (full.note effect) (solo.note same) where
  board := h.board
  effects := by
    have heffects := h.effects
    rw [Rig.effects, Rig.effects] at heffects ⊢
    rw [trace_note, trace_note, List.reverse_cons, List.reverse_cons, List.map_append,
      List.map_append, heffects, List.map_singleton, List.map_singleton, heffect]
  due := h.due
  signal := h.signal
  slot_lt := h.slot_lt
  other_lt := h.other_lt

theorem withTimers (h : Mirror parts mine oid slot other full solo) {timers same : Timers}
    (hdue : same.due oid = timers.due oid) :
    Mirror parts mine oid slot other { full with timers } { solo with timers := same } where
  board := h.board
  effects := h.effects
  due := hdue
  signal := h.signal
  slot_lt := h.slot_lt
  other_lt := h.other_lt

theorem wake (h : Mirror parts mine oid slot other full solo) (sample : Sample) :
    Mirror parts mine oid slot other (full.wake slot sample) (solo.wake other sample) := by
  have hbase : Mirror parts mine oid slot other
      { full with handoff := full.handoff.wake slot sample }
      { solo with handoff := solo.handoff.wake other sample } :=
    { board := h.board
      effects := h.effects
      due := h.due
      signal := by
        rw [Handoff.pending?_wake_self sample h.other_lt,
          Handoff.pending?_wake_self sample h.slot_lt]
      slot_lt := (Handoff.capacity_wake full.handoff slot sample).symm ▸ h.slot_lt
      other_lt := (Handoff.capacity_wake solo.handoff other sample).symm ▸ h.other_lt }
  exact hbase.note rfl

/-- A call of the board that is recorded with its level and its fault. -/
theorem ask (h : Mirror parts mine oid slot other full solo) (call : PinCall)
    (hpin : mine (parts.part call.pin)) (effect : Level → Option PinFault → Effect) :
    (call.ask solo.board).1 = (call.ask full.board).1
      ∧ (call.ask solo.board).2.fault = (call.ask full.board).2.fault
      ∧ Mirror parts mine oid slot other
          ({ full with board := (call.ask full.board).2.board }.note
            (effect (call.ask full.board).1 (call.ask full.board).2.fault))
          ({ solo with board := (call.ask solo.board).2.board }.note
            (effect (call.ask solo.board).1 (call.ask solo.board).2.fault)) := by
  obtain ⟨hlevel, hfault, hboard⟩ := h.board.ask call hpin
  have hbase : Mirror parts mine oid slot other
      { full with board := (call.ask full.board).2.board }
      { solo with board := (call.ask solo.board).2.board } :=
    ⟨hboard, h.effects, h.due, h.signal, h.slot_lt, h.other_lt⟩
  exact ⟨hlevel, hfault, hbase.note (by rw [hlevel, hfault])⟩

/-- **The calls of a device** keep two rigs alike. -/
theorem keeps {device : Device} (hoid : device.oid = oid) (hslot : device.slot = slot)
    (hdout : mine (parts.part device.dout)) (hsck : mine (parts.part device.sck)) :
    device.Keeps other (Mirror parts mine oid slot other) where
  setupInput h pull := by
    obtain ⟨-, hfault, hafter⟩ :=
      h.ask (.setupInput device.dout pull) hdout fun _ fault => .setupInput device.dout pull fault
    exact ⟨congrArg (unlessFault · ()) hfault, hafter⟩
  setupOutput h high := by
    obtain ⟨-, hfault, hafter⟩ :=
      h.ask (.setupOutput device.sck high) hsck fun _ fault => .setupOutput device.sck high fault
    exact ⟨congrArg (unlessFault · ()) hfault, hafter⟩
  read h := by
    obtain ⟨hlevel, hfault, hafter⟩ := h.ask (.read device.dout) hdout (.read device.dout)
    exact ⟨congrArg₂ unlessFault hfault hlevel, hafter⟩
  drive h high := by
    obtain ⟨-, hfault, hafter⟩ :=
      h.ask (.drive device.sck high) hsck fun _ fault => .drive device.sck high fault
    exact ⟨congrArg (unlessFault · ()) hfault, hafter⟩
  cancel {full solo} h := by
    rw [hoid]
    have hdue : (solo.timers.cancel oid).due oid = (full.timers.cancel oid).due oid := by
      rw [Timers.due_cancel_self, Timers.due_cancel_self]
    exact (h.withTimers hdue).note rfl
  schedule {full solo} h clock := by
    rw [hoid]
    have hdue : (solo.timers.schedule oid clock).due oid
        = (full.timers.schedule oid clock).due oid := by
      rw [Timers.due_schedule_self, Timers.due_schedule_self, h.due]
    exact (h.withTimers hdue).note rfl
  wake h sample := hslot ▸ h.wake sample

end Rig.Mirror

end

/-! ## Views -/

/-- What belongs to a device, the number of its slot aside. -/
structure View where
  device : Option Device
  /-- The sample in its slot. -/
  signal : Option Sample
  /-- The clocks of its callbacks to come. -/
  due : List Clock
  deriving DecidableEq

namespace Scale

variable {β : Type}

/-- What belongs to the device with this oid. -/
def view (scale : Scale β) (oid : UInt8) : View where
  device := (scale.device? oid).map (Device.atSlot · 0)
  signal := (scale.device? oid).bind fun device => scale.rig.handoff.pending? device.slot
  due := scale.due oid

/-- The scale with the trace begun anew. -/
def begun (scale : Scale β) : Scale β := scale.onRig scale.rig.forget

end Scale

/-! ## A deed for the device itself -/

namespace Scale

variable {β κ σ : Type} [Board β] {parts : Parts β κ σ} {mine : κ → Prop} {oid : UInt8}
  {full solo : Scale β}

/-- Two scales have the same device under an oid, in slots of their own, and look the same from
it. -/
structure Paired (parts : Parts β κ σ) (mine : κ → Prop) (oid : UInt8) (device : Device)
    (other : Nat) (full solo : Scale β) : Prop where
  delays : solo.delays = full.delays
  found : full.device? oid = some device
  same : solo.device? oid = some (device.atSlot other)
  rig : Rig.Mirror parts mine oid device.slot other full.rig solo.rig

namespace Paired

variable {device : Device} {other : Nat}

theorem oid_eq (h : Paired parts mine oid device other full solo) : device.oid = oid :=
  oid_of_device? h.found

theorem view_eq (h : Paired parts mine oid device other full solo) :
    solo.view oid = full.view oid := by
  rw [view, view, h.found, h.same, Option.map_some, Option.map_some, Option.bind_some,
    Option.bind_some, View.mk.injEq]
  exact ⟨rfl, h.rig.signal, h.rig.due⟩

/-- An operation that has put another device in the place of this one. -/
theorem replace (h : Paired parts mine oid device other full solo) {next : Device}
    (hoid : next.oid = device.oid) {rig same : Rig β}
    (hrig : Rig.Mirror parts mine oid next.slot other rig same) :
    Paired parts mine oid next other ((full.replace next).onRig rig)
      ((solo.replace (next.atSlot other)).onRig same) where
  delays := h.delays
  found := by
    have hold : full.device? next.oid = some device := by
      rw [hoid, h.oid_eq]
      exact h.found
    rw [device?_onRig, ← h.oid_eq, ← hoid]
    exact device?_replace_self hold
  same := by
    have hold : solo.device? (next.atSlot other).oid = some (device.atSlot other) := by
      rw [show (next.atSlot other).oid = oid from hoid.trans h.oid_eq]
      exact h.same
    rw [device?_onRig, ← h.oid_eq, ← hoid]
    exact device?_replace_self hold
  rig := hrig

theorem onRig (h : Paired parts mine oid device other full solo) {rig same : Rig β}
    (hrig : Rig.Mirror parts mine oid device.slot other rig same) :
    Paired parts mine oid device other (full.onRig rig) (solo.onRig same) :=
  ⟨h.delays, h.found, h.same, hrig⟩

theorem stop (h : Paired parts mine oid device other full solo) :
    Paired parts mine oid device.stop other (full.stop oid) (solo.stop oid) where
  delays := h.delays
  found := by
    rw [device?_stop_self, h.found]
    rfl
  same := by
    rw [device?_stop_self, h.same]
    rfl
  rig := h.rig

/-- **A query** for the device. -/
theorem query {request : Wire.Query}
    (h : Paired parts mine request.oid device other full solo)
    (hdout : mine (parts.part device.dout)) (hsck : mine (parts.part device.sck)) (now : Clock) :
    (solo.query request now).1 = (full.query request now).1
      ∧ ∃ next, Paired parts mine request.oid next other (full.query request now).2
          (solo.query request now).2 := by
  obtain ⟨hresult, hdevice, hafter⟩ := (Rig.Mirror.keeps h.oid_eq rfl hdout hsck).query_atSlot
    h.rig request.enable request.endstop now
  obtain ⟨hoid, -, -, -, -, -, hslot⟩ := Device.renewed_eq_iff.mp
    (device.renewed_query request.enable request.endstop now full.rig)
  rw [Scale.query, Scale.query, h.found, h.same]
  dsimp only
  rw [hresult, hdevice]
  generalize device.query request.enable request.endstop now full.rig = outcome
    at hafter hoid hslot ⊢
  rw [← hslot] at hafter
  cases outcome.result with
  | error fault => exact ⟨rfl, _, h.replace hoid hafter⟩
  | ok _ => exact ⟨rfl, _, h.replace hoid (hafter.note rfl)⟩

/-- **A callback** of the device. -/
theorem callback (h : Paired parts mine oid device other full solo)
    (hdout : mine (parts.part device.dout)) (hsck : mine (parts.part device.sck)) (now : Clock) :
    (solo.callback oid now).1 = (full.callback oid now).1
      ∧ ∃ next, Paired parts mine oid next other (full.callback oid now).2
          (solo.callback oid now).2 := by
  obtain ⟨hresult, hdevice, hafter⟩ := (Rig.Mirror.keeps h.oid_eq rfl hdout hsck).callback_atSlot
    h.rig now
  obtain ⟨hoid, -, -, -, -, -, hslot⟩ := Device.renewed_eq_iff.mp
    (device.renewed_callback now full.rig)
  rw [Scale.callback, Scale.callback, clockDevice_of_some now h.found,
    clockDevice_of_some now h.same, hresult, hdevice]
  generalize device.callback now full.rig = outcome at hafter hoid hslot ⊢
  rw [← hslot] at hafter
  have hnext := h.replace hoid hafter
  cases outcome.result with
  | error fault => exact ⟨rfl, _, (hnext.onRig (hafter.note rfl)).stop⟩
  | ok next => exact ⟨rfl, _, hnext⟩

end Paired

/-- Two scales are the same as far as a device goes: what belongs to it, and the parts of the
board that are its own. -/
structure Mirrors (parts : Parts β κ σ) (mine : κ → Prop) (oid : UInt8) (full solo : Scale β) :
    Prop where
  delays : solo.delays = full.delays
  board : parts.Agree mine full.rig.board solo.rig.board
  view : solo.view oid = full.view oid

theorem Paired.mirrors {device : Device} {other : Nat}
    (h : Paired parts mine oid device other full solo) : Mirrors parts mine oid full solo :=
  ⟨h.delays, h.rig.board, h.view_eq⟩

/-- An operation has come to the same on two scales, as far as a device goes, and leaves them the
same. -/
structure Alike {α : Type} (parts : Parts β κ σ) (mine : κ → Prop) (oid : UInt8)
    (full solo : α × Scale β) : Prop where
  result : solo.1 = full.1
  effects : solo.2.rig.effects.map Effect.unslotted = full.2.rig.effects.map Effect.unslotted
  mirrors : Mirrors parts mine oid full.2 solo.2

theorem Paired.alike {α : Type} {device : Device} {other : Nat} {one two : α × Scale β}
    (hresult : two.1 = one.1) (h : Paired parts mine oid device other one.2 two.2) :
    Alike parts mine oid one two :=
  ⟨hresult, h.rig.effects, h.mirrors⟩

theorem Alike.map {α γ : Type} {one two : α × Scale β} (h : Alike parts mine oid one two)
    (f : α → γ) : Alike parts mine oid (f one.1, one.2) (f two.1, two.2) :=
  ⟨congrArg f h.result, h.effects, h.mirrors⟩

/-- The device with this oid is on lines of these parts. -/
def OnLines (scale : Scale β) (parts : Parts β κ σ) (mine : κ → Prop) (oid : UInt8) : Prop :=
  ∀ device, scale.device? oid = some device →
    mine (parts.part device.dout) ∧ mine (parts.part device.sck)

namespace Mirrors

variable {device : Device}

theorem begun (h : Mirrors parts mine oid full solo) :
    Mirrors parts mine oid full.begun solo.begun :=
  ⟨h.delays, h.board, h.view⟩

theorem due (h : Mirrors parts mine oid full solo) :
    solo.rig.timers.due oid = full.rig.timers.due oid := congrArg View.due h.view

theorem device?_eq_none (h : Mirrors parts mine oid full solo) (hnone : full.device? oid = none) :
    solo.device? oid = none := by
  have hdevice : (solo.device? oid).map _ = (full.device? oid).map _ :=
    congrArg View.device h.view
  rw [hnone] at hdevice
  exact Option.map_eq_none_iff.mp hdevice

theorem paired (h : Mirrors parts mine oid full solo) (hfull : full.Seated) (hsolo : solo.Seated)
    (hfound : full.device? oid = some device) :
    ∃ other, Paired parts mine oid device other full.begun solo.begun := by
  have hdevice : (solo.device? oid).map _ = (full.device? oid).map _ :=
    congrArg View.device h.view
  rw [hfound, Option.map_some] at hdevice
  obtain ⟨neighbour, hneighbour, hsame⟩ := Option.map_eq_some_iff.mp hdevice
  have hsignal : (solo.device? oid).bind _ = (full.device? oid).bind _ :=
    congrArg View.signal h.view
  rw [hfound, hneighbour] at hsignal
  refine ⟨neighbour.slot, h.delays, hfound, hneighbour.trans ?_, h.board, rfl, h.due, hsignal,
    hfull.slot_lt hfound, hsolo.slot_lt hneighbour⟩
  -- the two devices differ in their slots only
  have hslot : (neighbour.atSlot 0).atSlot neighbour.slot
      = (device.atSlot 0).atSlot neighbour.slot :=
    congrArg (Device.atSlot · neighbour.slot) hsame
  exact congrArg some hslot

end Mirrors

omit [Board β] in
theorem fresh_eq_atSlot (h : solo.delays = full.delays) (request : Wire.Configure) (gain : Gain)
    (polarity : Polarity) (slot other : Nat) :
    solo.fresh request gain polarity other
      = (full.fresh request gain polarity slot).atSlot other := by
  unfold fresh Device.atSlot
  rw [h]

namespace Mirrors

variable {request : Wire.Configure}

/-- What is wanted is refused by both scales, or it is the same device in slots of their own. -/
theorem wanted (h : Mirrors parts mine request.oid full solo) (hfull : full.Seated)
    (hsolo : solo.Seated)
    (hroom : full.device? request.oid = none →
      full.devices.length < full.capacity ∧ solo.devices.length < solo.capacity) :
    (∃ e, full.wanted request = .error e ∧ solo.wanted request = .error e)
      ∨ ∃ device other, full.wanted request = .ok device
          ∧ solo.wanted request = .ok (device.atSlot other)
          ∧ Rig.Mirror parts mine request.oid device.slot other full.begun.rig solo.begun.rig := by
  rw [Scale.wanted, Scale.wanted]
  cases settings request with
  | error e => exact Or.inl ⟨e, rfl, rfl⟩
  | ok chosen =>
      right
      rw [slotFor, slotFor]
      cases hfound : full.device? request.oid with
      | some old =>
          obtain ⟨other, hpaired⟩ := h.paired hfull hsolo hfound
          have hsame : solo.device? request.oid = some (old.atSlot other) := hpaired.same
          rw [hsame]
          exact ⟨_, other, rfl, congrArg Except.ok (fresh_eq_atSlot h.delays ..), hpaired.rig⟩
      | none =>
          obtain ⟨hroom, hplace⟩ := hroom hfound
          rw [h.device?_eq_none hfound]
          dsimp only
          rw [if_pos hroom, if_pos hplace]
          refine ⟨_, solo.devices.length, rfl, congrArg Except.ok (fresh_eq_atSlot h.delays ..),
            h.board, rfl, h.due, ?_, hroom, hplace⟩
          -- neither slot has belonged to a device yet
          exact (hsolo.clear _ (Nat.le_refl _)).trans (hfull.clear _ (Nat.le_refl _)).symm

end Mirrors

omit [Board β] in
/-- What belongs to a device does not change with the board and the trace. -/
theorem view_onRig (scale : Scale β) {rig : Rig β} (htimers : rig.timers = scale.rig.timers)
    (hhandoff : rig.handoff = scale.rig.handoff) (oid : UInt8) :
    (scale.onRig rig).view oid = scale.view oid := by
  rw [view, view, due, due, device?_onRig, rig_onRig, htimers, hhandoff]

/-- The device is put into both tables. -/
theorem Paired.put {device : Device} {other : Nat} {rig same : Rig β}
    (hdelays : solo.delays = full.delays) (hoid : device.oid = oid)
    (hrig : Rig.Mirror parts mine oid device.slot other rig same) :
    Paired parts mine oid device other ((full.onRig rig).put device)
      ((solo.onRig same).put (device.atSlot other)) where
  delays := by
    rw [delays_put, delays_put]
    exact hdelays
  found := hoid ▸ device?_put_self (full.onRig rig) device
  same := hoid ▸ device?_put_self (solo.onRig same) (device.atSlot other)
  rig := by
    rw [rig_put, rig_put]
    exact hrig

/-- **Configuring** the device. -/
theorem Mirrors.configure {request : Wire.Configure}
    (h : Mirrors parts mine request.oid full solo) (hfull : full.Seated) (hsolo : solo.Seated)
    (hroom : full.device? request.oid = none →
      full.devices.length < full.capacity ∧ solo.devices.length < solo.capacity)
    (hdout : mine (parts.part request.dout)) (hsck : mine (parts.part request.sck)) :
    Alike parts mine request.oid (full.begun.configure request) (solo.begun.configure request) := by
  have hfullWanted : full.begun.wanted request = full.wanted request := rfl
  have hsoloWanted : solo.begun.wanted request = solo.wanted request := rfl
  rw [configure_eq, configure_eq, hfullWanted, hsoloWanted]
  rcases h.wanted hfull hsolo hroom with
    ⟨e, hrefused, hsame⟩ | ⟨device, other, hwanted, hsame, hrig⟩
  · rw [hrefused, hsame]
    exact ⟨rfl, rfl, h.begun⟩
  · obtain ⟨hoid, -⟩ := oid_wanted hwanted
    obtain ⟨hdoutEq, hsckEq⟩ := lines_wanted hwanted
    rw [hwanted, hsame]
    dsimp only
    obtain ⟨hattach, hafter⟩ := (Rig.Mirror.keeps hoid rfl (hdoutEq ▸ hdout)
      (hsckEq ▸ hsck)).attach hrig device.latest
    have hboth : (device.atSlot other).attach solo.begun.rig
        = (device.twin other device.latest).attach solo.begun.rig := rfl
    rw [hboth, ← Prod.mk.eta (p := device.attach full.begun.rig),
      ← Prod.mk.eta (p := (device.twin other device.latest).attach solo.begun.rig), hattach]
    cases (device.attach full.begun.rig).1 with
    | error fault =>
        refine ⟨rfl, hafter.effects, h.delays, hafter.board, ?_⟩
        exact (view_onRig _ (timers_attach ..) (Device.handoff_attach ..) _).trans
          (h.begun.view.trans (view_onRig _ (timers_attach ..) (Device.handoff_attach ..) _).symm)
    | ok _ =>
        have hlogged (line : LogLine) :
            Rig.Mirror parts mine request.oid device.slot other
              ((device.attach full.begun.rig).2.log line)
              (((device.twin other device.latest).attach solo.begun.rig).2.log line) :=
          hafter.note rfl
        exact (Paired.put h.begun.delays hoid (hlogged
          (.configured device.oid device.dout device.sck device.gain device.polarity))).alike rfl

/-- **A query** for the device. -/
theorem Mirrors.query {request : Wire.Query} (h : Mirrors parts mine request.oid full solo)
    (hfull : full.Seated) (hsolo : solo.Seated) (hlines : full.OnLines parts mine request.oid)
    (now : Clock) :
    Alike parts mine request.oid (full.begun.query request now) (solo.begun.query request now) := by
  cases hfound : full.device? request.oid with
  | none =>
      have hnone : full.begun.device? request.oid = none := hfound
      rw [query_of_none now hnone, query_of_none now (h.begun.device?_eq_none hnone)]
      exact ⟨rfl, rfl, h.begun⟩
  | some device =>
      obtain ⟨other, hpaired⟩ := h.paired hfull hsolo hfound
      obtain ⟨hdout, hsck⟩ := hlines device hfound
      obtain ⟨hresult, next, hnext⟩ := hpaired.query hdout hsck now
      exact hnext.alike hresult

/-- **A callback** of the device. -/
theorem Mirrors.callback (h : Mirrors parts mine oid full solo) (hfull : full.Seated)
    (hsolo : solo.Seated) (hlines : full.OnLines parts mine oid) (now : Clock) :
    Alike parts mine oid (full.begun.callback oid now) (solo.begun.callback oid now) := by
  cases hfound : full.device? oid with
  | none =>
      have hnone : full.begun.device? oid = none := hfound
      rw [callback_of_none now hnone, callback_of_none now (h.begun.device?_eq_none hnone)]
      exact ⟨rfl, rfl, h.begun⟩
  | some device =>
      obtain ⟨other, hpaired⟩ := h.paired hfull hsolo hfound
      obtain ⟨hdout, hsck⟩ := hlines device hfound
      obtain ⟨hresult, next, hnext⟩ := hpaired.callback hdout hsck now
      exact hnext.alike hresult

/-- The timers of both have changed in the same way, as far as the device goes. -/
theorem Mirrors.withTimers (h : Mirrors parts mine oid full solo) {timers same : Timers}
    (hdue : same.due oid = timers.due oid) :
    Mirrors parts mine oid (full.onRig { full.rig with timers })
      (solo.onRig { solo.rig with timers := same }) where
  delays := h.delays
  board := h.board
  view := by
    have hdevice := congrArg View.device h.view
    have hsignal := congrArg View.signal h.view
    rw [Scale.view, Scale.view, View.mk.injEq]
    exact ⟨hdevice, hsignal, hdue⟩

theorem Mirrors.taking {timer : Timer} (h : Mirrors parts mine timer.oid full solo) :
    Mirrors parts mine timer.oid (full.taking timer) (solo.taking timer) :=
  h.withTimers (by rw [Timers.due_remove, Timers.due_remove, h.due])

theorem Mirrors.putBack (h : Mirrors parts mine oid full solo) (next : Next) :
    Mirrors parts mine oid (full.putBack oid next) (solo.putBack oid next) := by
  cases next with
  | done => exact h
  | again clock =>
      exact h.withTimers (by rw [Timers.due_schedule_self, Timers.due_schedule_self, h.due])

/-- **A callback that the timers make** of the device. -/
theorem Mirrors.serve {timer : Timer} (h : Mirrors parts mine timer.oid full solo)
    (hfull : full.Seated) (hsolo : solo.Seated) (hlines : full.OnLines parts mine timer.oid)
    (now : Clock) :
    Alike parts mine timer.oid
      (((full.begun.taking timer).callback timer.oid now).1, full.begun.serve timer now)
      (((solo.begun.taking timer).callback timer.oid now).1, solo.begun.serve timer now) := by
  have hcalled : Alike parts mine timer.oid ((full.begun.taking timer).callback timer.oid now)
      ((solo.begun.taking timer).callback timer.oid now) :=
    h.taking.callback (hfull.onRig_of_handoff rfl) (hsolo.onRig_of_handoff rfl) hlines now
  rw [serve_eq, serve_eq, hcalled.result]
  refine ⟨rfl, ?_, hcalled.mirrors.putBack _⟩
  rw [(rig_putBack _ _ _).2.2, (rig_putBack _ _ _).2.2, hcalled.effects]

end Scale

end WeighScale
