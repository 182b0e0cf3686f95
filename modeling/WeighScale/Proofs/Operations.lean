import WeighScale.Proofs.Delivering
import WeighScale.Proofs.Lookup
import WeighScale.Proofs.Turns

set_option autoImplicit false

/-! # Operations on a scale

What each operation of a scale does to the device it is for, to the other devices and to the
rig. An operation is described by the device found under its oid afterwards, and by the fact
that nothing else is found changed.

The last section puts the operations together: `Operation` is everything a host, the timers
and the main loop can do to a scale, in any order, and `Scale.after` is a run of them.
-/

namespace WeighScale

/-! ## Queries and callbacks

Both change the device they are for the way the operation of the device says, and leave the rig
as that operation left it, with one more line in its log at most. -/

/-- The second rig is the first, with one more line in the log at most. -/
inductive Rig.Logged {β : Type} (rig : Rig β) : Rig β → Prop
  | same : Rig.Logged rig rig
  | line (line : LogLine) : Rig.Logged rig (rig.log line)

namespace Rig.Logged

variable {β : Type} {rig after : Rig β}

theorem timers (h : Logged rig after) : after.timers = rig.timers := by cases h <;> rfl

theorem board (h : Logged rig after) : after.board = rig.board := by cases h <;> rfl

theorem handoff (h : Logged rig after) : after.handoff = rig.handoff := by cases h <;> rfl

theorem keeps {γ : Type} (part : Rig β → γ) (hlog : ∀ rig line, part (rig.log line) = part rig)
    (h : Logged rig after) : part after = part rig := by
  cases h with
  | same => rfl
  | line line => exact hlog rig line

theorem sent (h : Logged rig after) : after.sent = rig.sent := h.keeps Rig.sent sent_log

end Rig.Logged

/-- Nothing that a request does to a rig changes this part of it. -/
structure Rig.KeptByRequests {β γ : Type} [Board β] (part : Rig β → γ) : Prop where
  log : ∀ rig line, part (rig.log line) = part rig
  cancel : ∀ rig oid, part (rig.cancel oid) = part rig
  schedule : ∀ rig oid clock, part (rig.schedule oid clock) = part rig
  setupInput : ∀ rig pin pull, part (rig.setupInput pin pull).2 = part rig
  setupOutput : ∀ rig pin high, part (rig.setupOutput pin high).2 = part rig
  drive : ∀ rig pin high, part (rig.drive pin high).2 = part rig

namespace Scale

variable {β : Type} [Board β]

theorem query_of_none {scale : Scale β} {request : Wire.Query} (now : Clock)
    (h : scale.device? request.oid = none) :
    scale.query request now = (.error (.noDevice request.oid), scale) := by
  rw [query, h]

/-- What the query comes to for the device. -/
def queried (scale : Scale β) (device : Device) (request : Wire.Query) (now : Clock) :
    Device.Outcome Unit β :=
  device.query request.enable request.endstop now scale.rig

theorem query_eq_of_some {scale : Scale β} {request : Wire.Query} {device : Device}
    (now : Clock) (h : scale.device? request.oid = some device) :
    ∃ rig, Rig.Logged (scale.queried device request now).rig rig
      ∧ (scale.query request now).2
          = (scale.replace (scale.queried device request now).device).onRig rig := by
  rw [query, h]
  dsimp only
  split
  · exact ⟨_, .same, rfl⟩
  · exact ⟨_, .line _, rfl⟩

theorem query_of_some {scale : Scale β} {request : Wire.Query} {device : Device} (now : Clock)
    (h : scale.device? request.oid = some device) :
    (scale.query request now).2.device? request.oid
        = some (scale.queried device request now).device
      ∧ (∀ other, other ≠ request.oid →
          (scale.query request now).2.device? other = scale.device? other)
      ∧ Rig.Logged (scale.queried device request now).rig (scale.query request now).2.rig := by
  obtain ⟨rig, hlogged, heq⟩ := query_eq_of_some now h
  have hoid : (scale.queried device request now).device.oid = request.oid :=
    (device.oid_query request.enable request.endstop now scale.rig).trans (oid_of_device? h)
  have hold : scale.device? (scale.queried device request now).device.oid = some device := by
    rw [hoid, h]
  have hself := device?_replace_self hold
  rw [hoid] at hself
  rw [heq]
  exact ⟨hself, fun other hne => device?_replace_ne scale (hoid ▸ hne), hlogged⟩

theorem query_ok_iff {scale : Scale β} {request : Wire.Query} {device : Device} (now : Clock)
    (h : scale.device? request.oid = some device) :
    (scale.query request now).1 = .ok () ↔ (scale.queried device request now).result = .ok () := by
  rw [query, h, queried]
  dsimp only
  split
  · next fault hresult => simp [hresult]
  · next hresult => simp [hresult]

end Scale

namespace Device

variable {β : Type} [Board β]

/-- What a timer callback makes of a device: as `callback`, but a device that fails is
stopped. -/
def timed (device : Device) (now : Clock) (rig : Rig β) : Next × Device :=
  match (device.callback now rig).result with
  | .ok next => (next, (device.callback now rig).device)
  | .error _ => (.done, (device.callback now rig).device.stop)

theorem oid_timed (device : Device) (now : Clock) (rig : Rig β) :
    (device.timed now rig).2.oid = device.oid := by
  unfold timed
  split <;> exact device.oid_callback now rig

/-- A timer callback that asks for another one has set the waketime to it; one that asks for no
other has stopped the device. -/
theorem next_timed (device : Device) (now : Clock) (rig : Rig β) :
    (∃ clock, (device.timed now rig).1 = .again clock
        ∧ (device.timed now rig).2.waketime = clock
        ∧ (device.timed now rig).2.running = device.running)
      ∨ (device.timed now rig).1 = .done ∧ (device.timed now rig).2.running = false := by
  have h := device.result_callback now rig
  unfold timed
  split
  · next next hresult =>
      rw [hresult] at h
      cases next with
      | again clock => exact Or.inl ⟨clock, rfl, h⟩
      | done => exact Or.inr ⟨rfl, h⟩
  · exact Or.inr ⟨rfl, rfl⟩

end Device

namespace Scale

variable {β : Type} [Board β]

theorem callback_of_none {scale : Scale β} {oid : UInt8} (now : Clock)
    (h : scale.device? oid = none) : scale.callback oid now = (.done, scale) := by
  rw [callback, clockDevice, h]

theorem clockDevice_of_some {scale : Scale β} {oid : UInt8} {device : Device} (now : Clock)
    (h : scale.device? oid = some device) :
    scale.clockDevice oid now
      = (some (device.callback now scale.rig).result,
          (scale.replace (device.callback now scale.rig).device).onRig
            (device.callback now scale.rig).rig) := by
  rw [clockDevice, h]

omit [Board β] in
theorem stop_replace (scale : Scale β) (device : Device) :
    (scale.replace device).stop device.oid = scale.replace device.stop := by
  unfold stop replace
  dsimp only
  rw [List.map_map, Scale.mk.injEq]
  refine ⟨rfl, List.map_congr_left fun other _ => ?_, rfl⟩
  by_cases hoid : other.oid = device.oid
  · have hstop : other.oid = device.stop.oid := hoid
    rw [Function.comp_apply, if_pos hoid, if_pos rfl, if_pos hstop]
  · have hstop : other.oid ≠ device.stop.oid := hoid
    rw [Function.comp_apply, if_neg hoid, if_neg hoid, if_neg hstop]

/-- A device that fails is put back before it is stopped, which comes to putting back a device
that was stopped. -/
theorem callback_eq_of_some {scale : Scale β} {oid : UInt8} {device : Device} (now : Clock)
    (h : scale.device? oid = some device) :
    ∃ rig, Rig.Logged (device.callback now scale.rig).rig rig
      ∧ scale.callback oid now
          = ((device.timed now scale.rig).1,
              (scale.replace (device.timed now scale.rig).2).onRig rig) := by
  rw [callback, clockDevice_of_some now h, Device.timed]
  cases (device.callback now scale.rig).result with
  | ok next => exact ⟨_, .same, rfl⟩
  | error fault =>
      refine ⟨_, .line (.stopped oid fault), ?_⟩
      have hoid : (device.callback now scale.rig).device.oid = oid :=
        (device.oid_callback now scale.rig).trans (oid_of_device? h)
      have hstop := stop_replace scale (device.callback now scale.rig).device
      rw [hoid] at hstop
      dsimp only
      rw [← hstop]
      rfl

theorem callback_of_some {scale : Scale β} {oid : UInt8} {device : Device} (now : Clock)
    (h : scale.device? oid = some device) :
    (scale.callback oid now).1 = (device.timed now scale.rig).1
      ∧ (scale.callback oid now).2.device? oid = some (device.timed now scale.rig).2
      ∧ (∀ other, other ≠ oid → (scale.callback oid now).2.device? other = scale.device? other)
      ∧ Rig.Logged (device.callback now scale.rig).rig (scale.callback oid now).2.rig := by
  obtain ⟨rig, hlogged, heq⟩ := callback_eq_of_some now h
  have hoid : (device.timed now scale.rig).2.oid = oid :=
    (device.oid_timed now scale.rig).trans (oid_of_device? h)
  have hself := device?_replace_self ((congrArg scale.device? hoid).trans h)
  rw [hoid] at hself
  rw [heq]
  exact ⟨rfl, hself, fun other hne => device?_replace_ne scale (hoid ▸ hne), hlogged⟩

/-! ## Configuring -/

/-- The device that a request asks for, if its settings exist and there is room for it. -/
def wanted (scale : Scale β) (request : Wire.Configure) : Except RequestError Device :=
  match settings request with
  | .error e => .error e
  | .ok (gain, polarity) =>
      match scale.slotFor request.oid with
      | .error e => .error e
      | .ok slot => .ok (scale.fresh request gain polarity slot)

/-- Configuring is finding out what device is wanted and attaching it. -/
theorem configure_eq (scale : Scale β) (request : Wire.Configure) :
    scale.configure request
      = match scale.wanted request with
        | .error e => (.error e, scale)
        | .ok device =>
            match device.attach scale.rig with
            | (.error fault, rig) => (.error (.pin fault), scale.onRig rig)
            | (.ok (), rig) =>
                (.ok (),
                  (scale.onRig (rig.log (.configured device.oid device.dout device.sck device.gain
                    device.polarity))).put device) := by
  rw [configure, wanted]
  cases settings request with
  | error e => rfl
  | ok chosen =>
      dsimp only
      cases scale.slotFor request.oid with
      | error e => rfl
      | ok slot => rfl

/-- The ways through a configure request. -/
inductive Configured (scale : Scale β) (request : Wire.Configure) :
    Except RequestError Unit × Scale β → Prop
  /-- There is no such device to have. -/
  | refused (e : RequestError) (hwanted : scale.wanted request = .error e) :
      Configured scale request (.error e, scale)
  /-- The lines could not be set up. -/
  | failed (device : Device) (fault : PinFault) (hwanted : scale.wanted request = .ok device)
      (hattach : (device.attach scale.rig).1 = .error fault) :
      Configured scale request
        (.error (.pin fault), scale.onRig (device.attach scale.rig).2)
  /-- The device is there. -/
  | added (device : Device) (line : LogLine) (hwanted : scale.wanted request = .ok device)
      (hattach : (device.attach scale.rig).1 = .ok ()) :
      Configured scale request
        (.ok (), (scale.onRig ((device.attach scale.rig).2.log line)).put device)

/-- **A configure request takes one of the ways listed.** -/
theorem configured_configure (scale : Scale β) (request : Wire.Configure) :
    Configured scale request (scale.configure request) := by
  rw [configure_eq]
  cases hwanted : scale.wanted request with
  | error e => exact .refused e hwanted
  | ok device =>
      dsimp only
      rw [← Prod.mk.eta (p := device.attach scale.rig)]
      cases hattach : (device.attach scale.rig).1 with
      | error fault => exact .failed device fault hwanted hattach
      | ok _ => exact .added device _ hwanted hattach

/-- A device that was configured and never enabled since. -/
structure Untouched (device : Device) : Prop where
  frame : device.frame = .start
  latest : device.latest = 0
  active : device.active = false
  running : device.running = false

omit [Board β] in
theorem eq_fresh_of_wanted {scale : Scale β} {request : Wire.Configure} {device : Device}
    (h : scale.wanted request = .ok device) :
    ∃ gain polarity slot, scale.slotFor request.oid = .ok slot
      ∧ device = scale.fresh request gain polarity slot := by
  unfold wanted at h
  split at h
  · cases h
  · split at h
    · cases h
    · next slot hslot =>
        cases h
        exact ⟨_, _, slot, hslot, rfl⟩

omit [Board β] in
theorem oid_wanted {scale : Scale β} {request : Wire.Configure} {device : Device}
    (h : scale.wanted request = .ok device) :
    device.oid = request.oid ∧ Untouched device := by
  obtain ⟨gain, polarity, slot, -, rfl⟩ := eq_fresh_of_wanted h
  exact ⟨rfl, rfl, rfl, rfl, rfl⟩

omit [Board β] in
theorem lines_wanted {scale : Scale β} {request : Wire.Configure} {device : Device}
    (h : scale.wanted request = .ok device) :
    device.dout = request.dout ∧ device.sck = request.sck := by
  obtain ⟨gain, polarity, slot, -, rfl⟩ := eq_fresh_of_wanted h
  exact ⟨rfl, rfl⟩

theorem timers_attach (device : Device) (rig : Rig β) :
    (device.attach rig).2.timers = rig.timers :=
  Device.attach_keeps Rig.timers device (fun _ _ => rfl) (fun _ _ => rfl) (fun _ _ => rfl) rig

/-! ## What requests leave alone -/

variable {γ : Type} {part : Rig β → γ}

theorem configure_keeps (h : Rig.KeptByRequests part) (scale : Scale β)
    (request : Wire.Configure) : part (scale.configure request).2.rig = part scale.rig := by
  have hattach (device : Device) : part (device.attach scale.rig).2 = part scale.rig :=
    device.attach_keeps part (fun rig => h.setupInput rig device.dout)
      (fun rig => h.setupOutput rig device.sck) (fun rig => h.drive rig device.sck) scale.rig
  have hway := scale.configured_configure request
  generalize scale.configure request = outcome at hway ⊢
  cases hway with
  | refused => rfl
  | failed device => exact hattach device
  | added device =>
      rw [rig_put]
      exact (h.log _ _).trans (hattach device)

theorem query_keeps (h : Rig.KeptByRequests part) (scale : Scale β) (request : Wire.Query)
    (now : Clock) : part (scale.query request now).2.rig = part scale.rig := by
  cases hfound : scale.device? request.oid with
  | none => rw [query_of_none now hfound]
  | some device =>
      have hquery : part (scale.queried device request now).rig = part scale.rig :=
        device.query_keeps part (fun rig => h.cancel rig device.oid)
          (fun rig => h.drive rig device.sck) (fun rig => h.schedule rig device.oid)
          request.enable request.endstop now scale.rig
      exact ((query_of_some now hfound).2.2.keeps part h.log).trans hquery

/-- **A request** leaves alone what its calls leave alone. -/
theorem perform_keeps (h : Rig.KeptByRequests part) (scale : Scale β) (request : Wire.Request)
    (now : Clock) : part (scale.perform request now).2.rig = part scale.rig := by
  cases request with
  | configure request => exact scale.configure_keeps h request
  | query request => exact scale.query_keeps h request now

/-- A request sends nothing. -/
theorem sent_perform (scale : Scale β) (request : Wire.Request) (now : Clock) :
    (scale.perform request now).2.rig.sent = scale.rig.sent :=
  scale.perform_keeps
    { log := Rig.sent_log
      cancel := Rig.sent_cancel
      schedule := Rig.sent_schedule
      setupInput := Rig.sent_setupInput
      setupOutput := Rig.sent_setupOutput
      drive := Rig.sent_drive } request now

/-- A callback sends nothing. -/
theorem sent_callback (scale : Scale β) (oid : UInt8) (now : Clock) :
    (scale.callback oid now).2.rig.sent = scale.rig.sent := by
  cases hfound : scale.device? oid with
  | none => rw [callback_of_none now hfound]
  | some device =>
      rw [(callback_of_some now hfound).2.2.2.sent]
      exact device.callback_keeps Rig.sent (fun rig => rig.sent_read device.dout)
        (fun rig => rig.sent_drive device.sck) (fun rig sample _ => rig.sent_wake _ sample) now
        scale.rig

/-! ## Every operation keeps oids distinct

Only configuring puts an oid into the table, and none is ever taken out. -/

/-- A device that is configured keeps its place, or comes after the others. -/
theorem oids_configure (scale : Scale β) (request : Wire.Configure) :
    (scale.configure request).2.oids = scale.oids
      ∨ (scale.configure request).2.oids = scale.oids ++ [request.oid] := by
  have hway := scale.configured_configure request
  generalize scale.configure request = outcome at hway ⊢
  cases hway with
  | refused | failed => exact Or.inl rfl
  | added device line hwanted =>
      rw [put]
      split
      · exact Or.inl (oids_replace ..)
      · refine Or.inr ?_
        rw [oids, append, List.map_append, List.map_singleton, (oid_wanted hwanted).1]
        rfl

theorem oids_query (scale : Scale β) (request : Wire.Query) (now : Clock) :
    (scale.query request now).2.oids = scale.oids := by
  cases hfound : scale.device? request.oid with
  | none => rw [query_of_none now hfound]
  | some device =>
      obtain ⟨rig, -, heq⟩ := query_eq_of_some now hfound
      rw [heq]
      exact scale.oids_replace _

theorem oids_callback (scale : Scale β) (oid : UInt8) (now : Clock) :
    (scale.callback oid now).2.oids = scale.oids := by
  cases hfound : scale.device? oid with
  | none => rw [callback_of_none now hfound]
  | some device =>
      obtain ⟨rig, -, heq⟩ := callback_eq_of_some now hfound
      rw [heq]
      exact scale.oids_replace _

theorem Distinct.configure {scale : Scale β} (h : scale.Distinct) (request : Wire.Configure) :
    (scale.configure request).2.Distinct := by
  have hway := scale.configured_configure request
  generalize scale.configure request = outcome at hway ⊢
  cases hway with
  | refused | failed => exact h
  | added device => exact (h.onRig _).put device

theorem Distinct.query {scale : Scale β} (h : scale.Distinct) (request : Wire.Query)
    (now : Clock) : (scale.query request now).2.Distinct := by
  show (scale.query request now).2.oids.Nodup
  rw [oids_query]
  exact h

/-! ## Runs -/

/-- Something done to a scale: by the host, by the main loop or by the timers. -/
inductive Operation
  /-- A request of the host, already decoded. -/
  | request (request : Wire.Request) (now : Clock)
  /-- A message of the host, whatever its bytes. -/
  | message (ids : Wire.Ids) (body : List UInt8) (now : Clock)
  /-- The main loop delivers the samples. -/
  | deliver (ids : Wire.Ids) (probe : Bool)
  /-- A callback is taken out of the timers, made at `now`, and put back if the device asks for
  another one. A callback that is not among the timers cannot be made. -/
  | serve (timer : Timer) (now : Clock)

/-- The scale with a callback taken out of its timers. -/
def taking (scale : Scale β) (timer : Timer) : Scale β :=
  scale.onRig { scale.rig with timers := scale.rig.timers.remove timer }

/-- The scale with the callback that a device asks for put among the timers. -/
def putBack (scale : Scale β) (oid : UInt8) : Next → Scale β
  | .done => scale
  | .again clock =>
      scale.onRig { scale.rig with timers := scale.rig.timers.schedule oid clock }

theorem serve_eq (scale : Scale β) (timer : Timer) (now : Clock) :
    scale.serve timer now
      = ((scale.taking timer).callback timer.oid now).2.putBack timer.oid
          ((scale.taking timer).callback timer.oid now).1 := by
  unfold serve taking
  dsimp only
  generalize (scale.onRig { scale.rig with timers := scale.rig.timers.remove timer }).callback
    timer.oid now = outcome
  obtain ⟨_ | _, after⟩ := outcome <;> rfl

theorem oids_serve (scale : Scale β) (timer : Timer) (now : Clock) :
    (scale.serve timer now).oids = scale.oids := by
  have hcalled := (scale.taking timer).oids_callback timer.oid now
  rw [serve_eq]
  cases ((scale.taking timer).callback timer.oid now).1 <;> exact hcalled

theorem sent_serve (scale : Scale β) (timer : Timer) (now : Clock) :
    (scale.serve timer now).rig.sent = scale.rig.sent := by
  have hcalled := (scale.taking timer).sent_callback timer.oid now
  rw [serve_eq]
  cases ((scale.taking timer).callback timer.oid now).1 <;> exact hcalled

/-- The scale after an operation. -/
def apply (scale : Scale β) : Operation → Scale β
  | .request request now => (scale.perform request now).2
  | .message ids body now => (scale.receive ids body now).2
  | .deliver ids probe => scale.onRig (scale.rig.deliver ids probe).2
  | .serve timer now =>
      if timer ∈ scale.rig.timers.pending then scale.serve timer now else scale

/-- The scale after one operation after another. -/
def after (scale : Scale β) (operations : List Operation) : Scale β :=
  operations.foldl apply scale

theorem after_append (scale : Scale β) (before later : List Operation) :
    scale.after (before ++ later) = (scale.after before).after later :=
  List.foldl_append

theorem after_concat (scale : Scale β) (operations : List Operation) (operation : Operation) :
    scale.after (operations ++ [operation]) = (scale.after operations).apply operation := by
  rw [after_append]
  rfl

theorem Distinct.apply {scale : Scale β} (h : scale.Distinct) (operation : Operation) :
    (scale.apply operation).Distinct := by
  have hperform (request : Wire.Request) (now : Clock) :
      (scale.perform request now).2.Distinct := by
    cases request with
    | configure request => exact h.configure request
    | query request => exact h.query request now
  cases operation with
  | request request now => exact hperform request now
  | message ids body now =>
      show (scale.receive ids body now).2.Distinct
      unfold receive
      split
      · exact h
      · exact hperform _ now
  | deliver ids probe => exact h.onRig _
  | serve timer now =>
      show (if _ then _ else _ : Scale β).oids.Nodup
      split
      · rw [oids_serve]
        exact h
      · exact h

theorem distinct_after (board : β) (delays : Delays) (capacity : Nat)
    (operations : List Operation) :
    ((Scale.start board delays capacity).after operations).Distinct := by
  induction operations using List.reverseRecOn with
  | nil => exact List.nodup_nil
  | append_singleton operations operation ih =>
      rw [after_concat]
      exact ih.apply operation

end Scale

end WeighScale
