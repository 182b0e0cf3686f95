import WeighScale.Proofs.Due
import WeighScale.Proofs.Operations

set_option autoImplicit false

/-! # What an operation is to one device

Seen from one device, most operations are nothing at all, and the others are one of a few
things (`Touch`). Which one it is can be told from the operation and the state it meets
(`Scale.touch`), and it tells what becomes of the device and of its callbacks (`touched_apply`).
Invariants about a device and its callbacks are case analyses over this list.
-/

namespace WeighScale.Scale

variable {β : Type} [Board β]

/-- What an operation is to a device. -/
inductive Touch
  /-- It is for another device, or it came to nothing. -/
  | nothing
  /-- The oid was configured. -/
  | configured
  /-- Sampling was disabled. -/
  | disabled
  /-- Sampling was enabled. -/
  | armed
  /-- Sampling was to be enabled, but the clock line failed. -/
  | refused
  /-- A callback of the oid was made, and this is what it asked for. -/
  | served (next : Next)
  deriving DecidableEq, Repr

/-- What a request is to the device with this oid. -/
def touchOfRequest (scale : Scale β) (oid : UInt8) (now : Clock) : Wire.Request → Touch
  | .configure request =>
      if request.oid = oid ∧ (scale.configure request).1 = .ok () then .configured else .nothing
  | .query request =>
      if request.oid = oid ∧ (scale.device? oid).isSome then
        if request.enable = false then .disabled
        else if (scale.query request now).1 = .ok () then .armed
        else .refused
      else .nothing

/-- What an operation is to the device with this oid. -/
def touch (scale : Scale β) (oid : UInt8) : Operation → Touch
  | .request request now => scale.touchOfRequest oid now request
  | .message ids body now =>
      match Wire.Request.decode ids body with
      | .error _ => .nothing
      | .ok request => scale.touchOfRequest oid now request
  | .deliver _ _ => .nothing
  | .serve timer now =>
      if timer ∈ scale.rig.timers.pending ∧ timer.oid = oid then
        .served ((scale.taking timer).callback oid now).1
      else .nothing

/-- The clocks at which the device with this oid has callbacks to come. -/
def due (scale : Scale β) (oid : UInt8) : List Clock := scale.rig.timers.due oid

/-- What becomes of a device `found` and its callbacks `clocks`, if there was at most one. -/
inductive Touched (found : Option Device) (clocks : List Clock) :
    Touch → Option Device → List Clock → Prop
  | nothing : Touched found clocks .nothing found clocks
  | configured (device : Device) (huntouched : Untouched device) :
      Touched found clocks .configured (some device) clocks
  | disabled (device : Device) (endstop : Option UInt8) (hfound : found = some device) :
      Touched found clocks .disabled (some (device.disable endstop)) clocks
  | armed (device : Device) (endstop : Option UInt8) (now : Clock)
      (hfound : found = some device) :
      Touched found clocks .armed (some (device.started endstop now))
        [(device.started endstop now).waketime]
  | refused (device : Device) (hfound : found = some device) :
      Touched found clocks .refused (some { device with frame := .start }.stop) []
  | again (device old : Device) (clock : Clock) (hfound : found = some old)
      (hdue : clocks ≠ []) (hwaketime : device.waketime = clock)
      (hrunning : device.running = old.running) :
      Touched found clocks (.served (.again clock)) (some device) [clock]
  | done (device old : Device) (hfound : found = some old) (hdue : clocks ≠ [])
      (hrunning : device.running = false) :
      Touched found clocks (.served .done) (some device) []
  | unknown (hfound : found = none) (hdue : clocks ≠ []) :
      Touched found clocks (.served .done) none []

/-! ## Requests -/

omit [Board β] in
theorem due_of_logged {rig after : Rig β} (h : Rig.Logged rig after) (oid : UInt8) :
    after.timers.due oid = rig.timers.due oid := by rw [h.timers]

theorem touched_configure (scale : Scale β) (request : Wire.Configure) (oid : UInt8)
    (now : Clock) :
    Touched (scale.device? oid) (scale.due oid)
      (scale.touchOfRequest oid now (.configure request))
      ((scale.configure request).2.device? oid) ((scale.configure request).2.due oid) := by
  rw [touchOfRequest]
  have hway := scale.configured_configure request
  generalize scale.configure request = outcome at hway ⊢
  cases hway with
  | refused e =>
      rw [if_neg (by simp)]
      exact .nothing
  | failed device fault =>
      rw [if_neg (by simp)]
      have hdue : (scale.onRig (device.attach scale.rig).2).due oid = scale.due oid := by
        rw [due, rig_onRig, timers_attach, due]
      rw [hdue]
      exact .nothing
  | added device line hwanted =>
      obtain ⟨hdevice, huntouched⟩ := oid_wanted hwanted
      have hdue : ((scale.onRig ((device.attach scale.rig).2.log line)).put device).due oid
          = scale.due oid := by
        rw [due, rig_put, rig_onRig, Rig.log, Rig.timers_note, timers_attach, due]
      rw [hdue]
      by_cases hoid : request.oid = oid
      · subst hoid
        have hself := device?_put_self (scale.onRig ((device.attach scale.rig).2.log line)) device
        rw [hdevice] at hself
        rw [if_pos ⟨rfl, rfl⟩, hself]
        exact .configured device huntouched
      · rw [if_neg (fun h => hoid h.1), device?_put_ne _ (by rw [hdevice]; exact Ne.symm hoid)]
        exact .nothing

/-- The device that the query is for. -/
theorem touched_query_self {scale : Scale β} {request : Wire.Query} {device : Device}
    (now : Clock) (hfound : scale.device? request.oid = some device) :
    Touched (some device) (scale.due request.oid)
      (scale.touchOfRequest request.oid now (.query request))
      ((scale.query request now).2.device? request.oid)
      ((scale.query request now).2.due request.oid) := by
  have hoid := oid_of_device? hfound
  obtain ⟨hself, -, hlogged⟩ := query_of_some now hfound
  have hok := query_ok_iff now hfound
  have hdue : (scale.query request now).2.due request.oid
      = (scale.queried device request now).rig.timers.due request.oid := by
    rw [due, due_of_logged hlogged]
  rw [hself, hdue, touchOfRequest, if_pos ⟨rfl, by rw [hfound]; rfl⟩]
  -- disabling leaves the timers alone, and enabling cancels before it schedules
  cases henable : request.enable with
  | false =>
      have hqueried : scale.queried device request now
          = ⟨.ok (), device.disable request.endstop, scale.rig⟩ := by
        rw [queried, Device.query, henable, if_neg Bool.false_ne_true]
      rw [if_pos rfl, hqueried]
      exact .disabled device _ rfl
  | true =>
      have hqueried : scale.queried device request now
          = device.enable request.endstop now scale.rig := by
        rw [queried, Device.query, henable, if_pos rfl]
      have hway := device.enabled_enable request.endstop now scale.rig
      rw [if_neg (by simp)]
      rw [hqueried] at hok ⊢
      generalize device.enable request.endstop now scale.rig = outcome at hok hway ⊢
      cases hway with
      | armed =>
          rw [if_pos (hok.mpr rfl), Rig.timers_schedule, ← hoid, Timers.due_schedule_self,
            Rig.timers_drive, Rig.timers_cancel, Timers.due_cancel_self]
          exact .armed device _ now rfl
      | refused fault =>
          rw [if_neg (fun h => by cases hok.mp h), ← hoid, Rig.timers_drive, Rig.timers_cancel,
            Timers.due_cancel_self]
          exact .refused device rfl

/-- A query leaves the callbacks of other devices alone. -/
theorem due_query_ne {device : Device} (enable : Bool) (endstop : Option UInt8) (now : Clock)
    (rig : Rig β) {oid : UInt8} (h : oid ≠ device.oid) :
    (device.query enable endstop now rig).rig.timers.due oid = rig.timers.due oid :=
  Device.query_keeps (fun rig => rig.timers.due oid) device (fun _ => Timers.due_cancel_ne _ h)
    (fun _ _ => rfl) (fun _ _ => Timers.due_schedule_ne _ _ h) enable endstop now rig

theorem touched_query (scale : Scale β) (request : Wire.Query) (oid : UInt8) (now : Clock) :
    Touched (scale.device? oid) (scale.due oid)
      (scale.touchOfRequest oid now (.query request))
      ((scale.query request now).2.device? oid) ((scale.query request now).2.due oid) := by
  cases hfound : scale.device? request.oid with
  | none =>
      have hnot : ¬(request.oid = oid ∧ (scale.device? oid).isSome = true) := by
        rintro ⟨rfl, hsome⟩
        rw [hfound] at hsome
        exact Bool.false_ne_true hsome
      rw [touchOfRequest, if_neg hnot, query_of_none now hfound]
      exact .nothing
  | some device =>
      by_cases hoid : request.oid = oid
      · subst hoid
        rw [hfound]
        exact touched_query_self now hfound
      · obtain ⟨-, hother, hlogged⟩ := query_of_some now hfound
        have hne : oid ≠ device.oid := by
          rw [oid_of_device? hfound]
          exact Ne.symm hoid
        have hdue : (scale.query request now).2.due oid = scale.due oid := by
          rw [due, due_of_logged hlogged, queried, due_query_ne _ _ _ _ hne, due]
        rw [touchOfRequest, if_neg (fun h => hoid h.1), hother oid (Ne.symm hoid), hdue]
        exact .nothing

theorem touched_perform (scale : Scale β) (request : Wire.Request) (oid : UInt8)
    (now : Clock) :
    Touched (scale.device? oid) (scale.due oid) (scale.touchOfRequest oid now request)
      ((scale.perform request now).2.device? oid) ((scale.perform request now).2.due oid) := by
  cases request with
  | configure request => exact scale.touched_configure request oid now
  | query request => exact scale.touched_query request oid now

theorem touched_nothing {found found' : Option Device} {clocks clocks' : List Clock}
    (ht : Touched found clocks .nothing found' clocks') : found' = found ∧ clocks' = clocks := by
  cases ht
  exact ⟨rfl, rfl⟩

theorem configure_ne (scale : Scale β) (request : Wire.Configure) {oid : UInt8}
    (h : oid ≠ request.oid) :
    (scale.configure request).2.device? oid = scale.device? oid
      ∧ (scale.configure request).2.due oid = scale.due oid := by
  have ht := scale.touched_configure request oid 0
  rw [touchOfRequest, if_neg fun hself => h hself.1.symm] at ht
  exact touched_nothing ht

theorem query_ne (scale : Scale β) (request : Wire.Query) (now : Clock) {oid : UInt8}
    (h : oid ≠ request.oid) :
    (scale.query request now).2.device? oid = scale.device? oid
      ∧ (scale.query request now).2.due oid = scale.due oid := by
  have ht := scale.touched_query request oid now
  rw [touchOfRequest, if_neg fun hself => h hself.1.symm] at ht
  exact touched_nothing ht

/-! ## Callbacks -/

omit [Board β] in
theorem due_putBack_self (scale : Scale β) (oid : UInt8) (next : Next) :
    (scale.putBack oid next).due oid
      = match next with
        | .done => scale.due oid
        | .again clock => scale.due oid ++ [clock] := by
  cases next with
  | done => rfl
  | again clock => exact Timers.due_schedule_self ..

omit [Board β] in
theorem due_putBack_ne (scale : Scale β) {oid other : UInt8} (next : Next) (h : other ≠ oid) :
    (scale.putBack oid next).due other = scale.due other := by
  cases next with
  | done => rfl
  | again clock => exact Timers.due_schedule_ne _ _ h

omit [Board β] in
@[simp] theorem device?_putBack (scale : Scale β) (oid other : UInt8) (next : Next) :
    (scale.putBack oid next).device? other = scale.device? other := by
  cases next <;> rfl

omit [Board β] in
/-- A callback that is put back changes the timers only. -/
theorem rig_putBack (scale : Scale β) (oid : UInt8) (next : Next) :
    (scale.putBack oid next).rig.board = scale.rig.board
      ∧ (scale.putBack oid next).rig.handoff = scale.rig.handoff
      ∧ (scale.putBack oid next).rig.effects = scale.rig.effects := by
  cases next <;> exact ⟨rfl, rfl, rfl⟩

/-- A callback leaves the timers as they are. -/
theorem due_callback (scale : Scale β) (oid other : UInt8) (now : Clock) :
    (scale.callback oid now).2.due other = scale.due other := by
  cases hfound : scale.device? oid with
  | none => rw [callback_of_none now hfound]
  | some device =>
      obtain ⟨-, -, -, hlogged⟩ := callback_of_some now hfound
      rw [due, due_of_logged hlogged, Device.timers_callback, due]

theorem touched_serve {scale : Scale β} {timer : Timer} (now : Clock)
    (hone : (scale.due timer.oid).length ≤ 1) (hmem : timer ∈ scale.rig.timers.pending) :
    Touched (scale.device? timer.oid) (scale.due timer.oid)
      (.served ((scale.taking timer).callback timer.oid now).1)
      ((scale.serve timer now).device? timer.oid) ((scale.serve timer now).due timer.oid) := by
  have hleft : (scale.taking timer).due timer.oid = [] := Timers.due_remove_self hmem hone
  have hdue : scale.due timer.oid ≠ [] := List.ne_nil_of_mem (Timers.mem_due.mpr hmem)
  -- the callback was the only one, so what is left is what the device asks for
  rw [serve_eq, device?_putBack, due_putBack_self, due_callback, hleft]
  cases hfound : scale.device? timer.oid with
  | none =>
      have hnone : (scale.taking timer).device? timer.oid = none := hfound
      rw [callback_of_none now hnone, hnone]
      exact .unknown rfl hdue
  | some device =>
      have hsome : (scale.taking timer).device? timer.oid = some device := hfound
      obtain ⟨hnext, hself, -, -⟩ := callback_of_some now hsome
      rw [hnext, hself]
      rcases device.next_timed now (scale.taking timer).rig with
        ⟨clock, hagain, hwaketime, hrunning⟩ | ⟨hdone, hrunning⟩
      · rw [hagain]
        exact .again _ device clock rfl hdue hwaketime hrunning
      · rw [hdone]
        exact .done _ device rfl hdue hrunning

theorem serve_ne (scale : Scale β) {timer : Timer} (now : Clock) {oid : UInt8}
    (h : oid ≠ timer.oid) :
    (scale.serve timer now).device? oid = scale.device? oid
      ∧ (scale.serve timer now).due oid = scale.due oid := by
  have hleft : (scale.taking timer).due oid = scale.due oid := Timers.due_remove_ne _ h
  rw [serve_eq, device?_putBack, due_putBack_ne _ _ h, due_callback, hleft]
  refine ⟨?_, rfl⟩
  cases hfound : (scale.taking timer).device? timer.oid with
  | none => rw [callback_of_none now hfound]; rfl
  | some device =>
      obtain ⟨-, -, hother, -⟩ := callback_of_some now hfound
      exact hother oid h

/-- **What becomes of a device and its callbacks** is told by what the operation is to it. -/
theorem touched_apply {scale : Scale β} {oid : UInt8} (operation : Operation)
    (hone : (scale.due oid).length ≤ 1) :
    Touched (scale.device? oid) (scale.due oid) (scale.touch oid operation)
      ((scale.apply operation).device? oid) ((scale.apply operation).due oid) := by
  cases operation with
  | request request now => exact scale.touched_perform request oid now
  | message ids body now =>
      rw [touch, apply, receive]
      cases Wire.Request.decode ids body with
      | error e => exact .nothing
      | ok request => exact scale.touched_perform request oid now
  | deliver ids probe =>
      have hdue : (scale.onRig (scale.rig.deliver ids probe).2).due oid = scale.due oid := by
        rw [due, rig_onRig, Rig.timers_deliver, due]
      rw [touch, apply, hdue]
      exact .nothing
  | serve timer now =>
      rw [touch, apply]
      by_cases hmem : timer ∈ scale.rig.timers.pending
      · rw [if_pos hmem]
        by_cases hoid : timer.oid = oid
        · subst hoid
          rw [if_pos ⟨hmem, rfl⟩]
          exact touched_serve now hone hmem
        · obtain ⟨hdevice, hdue⟩ := scale.serve_ne now (Ne.symm hoid)
          rw [if_neg (fun h => hoid h.2), hdevice, hdue]
          exact .nothing
      · rw [if_neg hmem, if_neg (fun h => hmem h.1)]
        exact .nothing

end WeighScale.Scale
