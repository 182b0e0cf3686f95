import WeighScale.Proofs.Pending

set_option autoImplicit false

/-! # Seats

A device is put into the table once and stays in its place, and the place is also the number of
its slot. So the slots of the devices are told apart by their places, and a slot beyond the last
device was never woken (`Seated`). Requests and callbacks keep it so.
-/

namespace WeighScale

namespace Handoff

theorem pending?_wake_self {handoff : Handoff} {slot : Nat} (sample : Sample)
    (h : slot < handoff.capacity) : (handoff.wake slot sample).pending? slot = some sample :=
  (handoff.pending?_mark ⟨slot, some sample⟩ h).trans (if_pos rfl)

theorem pending?_wake_ne (handoff : Handoff) {slot other : Nat} (sample : Sample)
    (h : other ≠ slot) : (handoff.wake slot sample).pending? other = handoff.pending? other := by
  rw [pending?, handoff.slots_wake slot other sample (Ne.symm h), pending?]

end Handoff

theorem Device.renewed_timed {β : Type} [Board β] (device : Device) (now : Clock) (rig : Rig β) :
    (device.timed now rig).2.renewed = device.renewed := by
  unfold timed
  split <;> exact device.renewed_callback now rig

namespace Scale

variable {β : Type}

/-- The devices are in the slots of their places, there is room for them, and the slots after
them are clear. -/
structure Seated (scale : Scale β) : Prop where
  distinct : scale.Distinct
  seats : scale.devices.map Device.slot = List.range scale.devices.length
  room : scale.devices.length ≤ scale.capacity
  clear : ∀ slot, scale.devices.length ≤ slot → scale.rig.handoff.pending? slot = none

namespace Seated

variable {scale : Scale β} {device : Device}

theorem start (board : β) (delays : Delays) (capacity : Nat) :
    Seated (Scale.start board delays capacity) where
  distinct := List.nodup_nil
  seats := rfl
  room := Nat.zero_le _
  clear slot _ := Handoff.pending?_clear capacity slot

theorem slot_lt_length (h : Seated scale) (hmem : device ∈ scale.devices) :
    device.slot < scale.devices.length := by
  have hslot : device.slot ∈ scale.devices.map Device.slot := List.mem_map_of_mem hmem
  rw [h.seats] at hslot
  exact List.mem_range.mp hslot

theorem slot_getElem (h : Seated scale) {place : Nat} (hplace : place < scale.devices.length) :
    scale.devices[place].slot = place := by
  have hslots := h.seats
  have hlt : place < (scale.devices.map Device.slot).length := by rwa [List.length_map]
  calc scale.devices[place].slot = (scale.devices.map Device.slot)[place] :=
        (List.getElem_map ..).symm
    _ = place := by simp only [hslots, List.getElem_range]

theorem slot_lt (h : Seated scale) {oid : UInt8} (hfound : scale.device? oid = some device) :
    device.slot < scale.rig.handoff.capacity :=
  Nat.lt_of_lt_of_le (h.slot_lt_length (mem_of_device? hfound)) h.room

/-- Two devices are in two slots. -/
theorem slot_ne (h : Seated scale) {oid other : UInt8} {neighbour : Device} (hne : oid ≠ other)
    (hfound : scale.device? oid = some device) (hother : scale.device? other = some neighbour) :
    device.slot ≠ neighbour.slot := by
  intro hslot
  have hnodup : (scale.devices.map Device.slot).Nodup := h.seats ▸ List.nodup_range
  have hsame : device = neighbour :=
    List.inj_on_of_nodup_map hnodup (mem_of_device? hfound)
      (mem_of_device? hother) hslot
  rw [← oid_of_device? hfound, ← oid_of_device? hother, hsame] at hne
  exact hne rfl

/-! ## Changes -/

/-- The table stays as it is. -/
theorem onRig (h : Seated scale) {rig : Rig β}
    (hcapacity : rig.handoff.capacity = scale.rig.handoff.capacity)
    (hclear : ∀ slot, scale.devices.length ≤ slot →
      rig.handoff.pending? slot = scale.rig.handoff.pending? slot) :
    Seated (scale.onRig rig) where
  distinct := h.distinct
  seats := h.seats
  room := h.room.trans (Nat.le_of_eq hcapacity.symm)
  clear slot hslot := (hclear slot hslot).trans (h.clear slot hslot)

theorem onRig_of_handoff (h : Seated scale) {rig : Rig β} (hrig : rig.handoff = scale.rig.handoff) :
    Seated (scale.onRig rig) :=
  h.onRig (congrArg Handoff.capacity hrig) fun slot _ => congrArg (Handoff.pending? · slot) hrig

/-- Devices are changed in their places. -/
theorem map (h : Seated scale) {f : Device → Device} (hoid : ∀ device, (f device).oid = device.oid)
    (hslot : ∀ device ∈ scale.devices, (f device).slot = device.slot) :
    Seated { scale with devices := scale.devices.map f } where
  distinct := by
    rw [Distinct, map_oid_map hoid]
    exact h.distinct
  seats := by
    rw [List.map_map, List.length_map, ← h.seats]
    exact List.map_congr_left hslot
  room := by
    rw [List.length_map]
    exact h.room
  clear slot hlength := h.clear slot (by rwa [List.length_map] at hlength)

theorem replace (h : Seated scale)
    (hslot : ∀ old, scale.device? device.oid = some old → device.slot = old.slot) :
    Seated (scale.replace device) := by
  refine h.map (fun other => by split <;> simp [*]) fun other hmem => ?_
  split
  · next hoid => exact hslot other (hoid ▸ h.distinct.device?_of_mem hmem)
  · rfl

theorem append (h : Seated scale) (hnone : scale.device? device.oid = none)
    (hslot : device.slot = scale.devices.length) (hroom : scale.devices.length < scale.capacity) :
    Seated (scale.append device) where
  distinct := by
    have hput := h.distinct.put device
    rw [put, hnone] at hput
    exact hput
  seats := by
    rw [Scale.append, List.map_append, List.length_append, List.length_singleton, List.range_succ,
      h.seats, List.map_singleton, hslot]
  room := by
    rw [Scale.append, List.length_append]
    exact hroom
  clear slot hlength := by
    rw [Scale.append, List.length_append] at hlength
    exact h.clear slot (Nat.le_of_succ_le hlength)

end Seated

/-! ## Operations -/

/-- The slot of the device that a request asks for. -/
theorem slot_wanted {scale : Scale β} {request : Wire.Configure} {device : Device}
    (h : scale.wanted request = .ok device) :
    (∃ old, scale.device? request.oid = some old ∧ device.slot = old.slot)
      ∨ scale.device? request.oid = none ∧ device.slot = scale.devices.length
        ∧ scale.devices.length < scale.capacity := by
  obtain ⟨gain, polarity, slot, hslot, rfl⟩ := eq_fresh_of_wanted h
  unfold slotFor at hslot
  split at hslot
  · next old hfound =>
      cases hslot
      exact Or.inl ⟨old, hfound, rfl⟩
  · next hnone =>
      split at hslot
      · next hroom =>
          cases hslot
          exact Or.inr ⟨hnone, rfl, hroom⟩
      · cases hslot

variable [Board β]

namespace Seated

variable {scale : Scale β}

theorem configure (h : Seated scale) (request : Wire.Configure) :
    Seated (scale.configure request).2 := by
  have hway := scale.configured_configure request
  generalize scale.configure request = outcome at hway ⊢
  cases hway with
  | refused => exact h
  | failed device => exact h.onRig_of_handoff (device.handoff_attach scale.rig)
  | added device line hwanted =>
      have hseated : Seated (scale.onRig ((device.attach scale.rig).2.log line)) :=
        h.onRig_of_handoff (device.handoff_attach scale.rig)
      have hoid := (oid_wanted hwanted).1
      rw [put, device?_onRig, hoid]
      rcases slot_wanted hwanted with ⟨old, hfound, hslot⟩ | ⟨hnone, hslot, hroom⟩
      · rw [hfound, if_pos (Option.isSome_some)]
        refine hseated.replace fun other hother => hslot.trans ?_
        rw [device?_onRig, hoid, hfound] at hother
        rw [Option.some.inj hother]
      · rw [hnone, if_neg (by simp)]
        refine hseated.append (by rw [device?_onRig, hoid, hnone]) hslot ?_
        exact Nat.lt_of_lt_of_le hroom
          (Nat.le_of_eq (congrArg Handoff.capacity (device.handoff_attach scale.rig)).symm)

/-- Only the slot of the device is woken by a callback. -/
theorem onRig_callback (h : Seated scale) {oid : UInt8} {device : Device}
    (hfound : scale.device? oid = some device) (now : Clock) :
    Seated (scale.onRig (device.callback now scale.rig).rig) := by
  refine h.onRig ?_ fun slot hslot => ?_
  · exact Device.callback_keeps (fun rig => rig.handoff.capacity) device (fun _ => rfl)
      (fun _ _ => rfl) (fun _ _ _ => Handoff.capacity_wake ..) now scale.rig
  · have hne : slot ≠ device.slot :=
      Nat.ne_of_gt (Nat.lt_of_lt_of_le (h.slot_lt_length (mem_of_device? hfound)) hslot)
    exact Device.callback_keeps (fun rig => rig.handoff.pending? slot) device (fun _ => rfl)
      (fun _ _ => rfl) (fun _ _ _ => Handoff.pending?_wake_ne _ _ hne) now scale.rig

theorem query (h : Seated scale) (request : Wire.Query) (now : Clock) :
    Seated (scale.query request now).2 := by
  cases hfound : scale.device? request.oid with
  | none =>
      rw [query_of_none now hfound]
      exact h
  | some device =>
      obtain ⟨rig, hlogged, heq⟩ := query_eq_of_some now hfound
      obtain ⟨hoid, -, -, -, -, -, hslot⟩ := Device.renewed_eq_iff.mp
        (device.renewed_query request.enable request.endstop now scale.rig)
      have hseated : Seated (scale.replace (scale.queried device request now).device) := by
        refine h.replace fun old hold => hslot.trans ?_
        rw [queried, hoid, oid_of_device? hfound, hfound] at hold
        rw [Option.some.inj hold]
      rw [heq]
      exact hseated.onRig_of_handoff (hlogged.handoff.trans (device.handoff_query ..))

theorem callback (h : Seated scale) (oid : UInt8) (now : Clock) :
    Seated (scale.callback oid now).2 := by
  cases hfound : scale.device? oid with
  | none =>
      rw [callback_of_none now hfound]
      exact h
  | some device =>
      obtain ⟨rig, hlogged, heq⟩ := callback_eq_of_some now hfound
      obtain ⟨hoid, -, -, -, -, -, hslot⟩ :=
        Device.renewed_eq_iff.mp (device.renewed_timed now scale.rig)
      have hseated : Seated ((scale.onRig (device.callback now scale.rig).rig).replace
          (device.timed now scale.rig).2) := by
        refine (h.onRig_callback hfound now).replace fun old hold => hslot.trans ?_
        rw [device?_onRig, hoid, oid_of_device? hfound, hfound] at hold
        rw [Option.some.inj hold]
      rw [heq]
      exact hseated.onRig_of_handoff hlogged.handoff

theorem serve (h : Seated scale) (timer : Timer) (now : Clock) :
    Seated (scale.serve timer now) := by
  have htaken : Seated (scale.taking timer) := h.onRig_of_handoff rfl
  have hcalled := htaken.callback timer.oid now
  rw [serve_eq]
  cases ((scale.taking timer).callback timer.oid now).1 with
  | done => exact hcalled
  | again clock => exact hcalled.onRig_of_handoff rfl

end Seated

end Scale

end WeighScale
