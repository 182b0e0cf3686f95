import WeighScale.Scale
import Mathlib.Tactic

set_option autoImplicit false

/-! # Looking devices up

Devices are found by their oid. Each way of changing the devices of a scale is described by
what is found afterwards: under the oid of the device that was changed (`_self`), and under any
other (`_ne`), where nothing changes. That no two devices have the same oid (`Distinct`) makes
the device found under an oid the only one that has it.
-/

namespace WeighScale.Scale

variable {β : Type}

/-! ## Looking devices up -/

theorem oid_of_device? {scale : Scale β} {oid : UInt8} {device : Device}
    (h : scale.device? oid = some device) : device.oid = oid := by
  have := List.find?_some h
  simpa using this

theorem mem_of_device? {scale : Scale β} {oid : UInt8} {device : Device}
    (h : scale.device? oid = some device) : device ∈ scale.devices :=
  List.mem_of_find?_eq_some h

@[simp] theorem device?_onRig (scale : Scale β) (rig : Rig β) (oid : UInt8) :
    (scale.onRig rig).device? oid = scale.device? oid := rfl

@[simp] theorem rig_onRig (scale : Scale β) (rig : Rig β) : (scale.onRig rig).rig = rig := rfl

/-- Looking up a device after every device was changed by `f`, which keeps oids. -/
theorem device?_map {scale : Scale β} {f : Device → Device}
    (hf : ∀ device, (f device).oid = device.oid) (oid : UInt8) :
    ({ scale with devices := scale.devices.map f } : Scale β).device? oid
      = (scale.device? oid).map f := by
  rw [device?, device?, List.find?_map]
  congr 2
  funext device
  simp [hf]

theorem device?_replace_self {scale : Scale β} {device old : Device}
    (h : scale.device? device.oid = some old) :
    (scale.replace device).device? device.oid = some device := by
  rw [replace, device?_map (by intro other; split <;> simp [*]), h, Option.map_some,
    if_pos (oid_of_device? h)]

theorem device?_replace_ne (scale : Scale β) {device : Device} {oid : UInt8}
    (h : oid ≠ device.oid) : (scale.replace device).device? oid = scale.device? oid := by
  rw [replace, device?_map (by intro other; split <;> simp [*])]
  -- what is found has the oid that was looked for, and so is not the one replaced
  cases hold : scale.device? oid with
  | none => rfl
  | some old => rw [Option.map_some, if_neg (by rw [oid_of_device? hold]; exact h)]

theorem device?_stop_self (scale : Scale β) (oid : UInt8) :
    (scale.stop oid).device? oid = (scale.device? oid).map Device.stop := by
  rw [stop, device?_map (by intro device; split <;> rfl)]
  cases h : scale.device? oid with
  | none => rfl
  | some device => rw [Option.map_some, Option.map_some, if_pos (oid_of_device? h)]

theorem device?_append_self {scale : Scale β} {device : Device}
    (h : scale.device? device.oid = none) :
    (scale.append device).device? device.oid = some device := by
  rw [device?] at h
  rw [device?, append, List.find?_append, h]
  simp

theorem device?_append_ne (scale : Scale β) {device : Device} {oid : UInt8}
    (h : oid ≠ device.oid) : (scale.append device).device? oid = scale.device? oid := by
  rw [device?, append, List.find?_append]
  simp [device?, Ne.symm h]

/-- Puts a device in the place of the one with its oid, or after the others if there is none. -/
def put (scale : Scale β) (device : Device) : Scale β :=
  if (scale.device? device.oid).isSome then scale.replace device else scale.append device

@[simp] theorem rig_put (scale : Scale β) (device : Device) :
    (scale.put device).rig = scale.rig := by
  unfold put
  split <;> rfl

@[simp] theorem delays_put (scale : Scale β) (device : Device) :
    (scale.put device).delays = scale.delays := by
  unfold put
  split <;> rfl

theorem device?_put_self (scale : Scale β) (device : Device) :
    (scale.put device).device? device.oid = some device := by
  unfold put
  split
  · next h =>
      obtain ⟨old, hold⟩ := Option.isSome_iff_exists.mp h
      exact device?_replace_self hold
  · next h => exact device?_append_self (Option.not_isSome_iff_eq_none.mp h)

theorem device?_put_ne (scale : Scale β) {device : Device} {oid : UInt8}
    (h : oid ≠ device.oid) : (scale.put device).device? oid = scale.device? oid := by
  unfold put
  split
  · exact scale.device?_replace_ne h
  · exact scale.device?_append_ne h

/-! ## No two devices have the same oid -/

/-- The oids of the devices, in their order. -/
def oids (scale : Scale β) : List UInt8 := scale.devices.map Device.oid

theorem length_oids (scale : Scale β) : scale.oids.length = scale.devices.length :=
  List.length_map ..

theorem isSome_device? (scale : Scale β) (oid : UInt8) :
    (scale.device? oid).isSome ↔ oid ∈ scale.oids := by
  rw [device?, List.find?_isSome, oids, List.mem_map]
  simp only [beq_iff_eq]

/-- No two devices have the same oid. -/
def Distinct (scale : Scale β) : Prop := (scale.devices.map Device.oid).Nodup

theorem Distinct.device?_of_mem {scale : Scale β} (h : scale.Distinct) {device : Device}
    (hmem : device ∈ scale.devices) : scale.device? device.oid = some device := by
  unfold Distinct at h
  unfold device?
  generalize scale.devices = devices at h hmem
  induction devices with
  | nil => cases hmem
  | cons first others ih =>
      rw [List.map_cons, List.nodup_cons] at h
      rcases List.mem_cons.mp hmem with rfl | hmem
      · exact List.find?_cons_of_pos (by simp)
      · have hne : first.oid ≠ device.oid := fun heq =>
          h.1 (heq ▸ List.mem_map_of_mem hmem)
        rw [List.find?_cons_of_neg (by simpa using hne)]
        exact ih h.2 hmem

theorem map_oid_map {f : Device → Device} (hf : ∀ device, (f device).oid = device.oid)
    (devices : List Device) : (devices.map f).map Device.oid = devices.map Device.oid := by
  rw [List.map_map]
  exact List.map_congr_left fun device _ => hf device

theorem oids_replace (scale : Scale β) (device : Device) :
    (scale.replace device).oids = scale.oids :=
  map_oid_map (by intro other; split <;> simp [*]) scale.devices

theorem Distinct.onRig {scale : Scale β} (h : scale.Distinct) (rig : Rig β) :
    (scale.onRig rig).Distinct := h

theorem Distinct.replace {scale : Scale β} (h : scale.Distinct) (device : Device) :
    (scale.replace device).Distinct := by
  show (scale.replace device).oids.Nodup
  rw [oids_replace]
  exact h

theorem Distinct.put {scale : Scale β} (h : scale.Distinct) (device : Device) :
    (scale.put device).Distinct := by
  unfold Scale.put
  split
  · exact h.replace device
  · next hnone =>
      have hnot : device.oid ∉ scale.oids := by rwa [← isSome_device?]
      rw [Distinct, append, List.map_append, List.nodup_append]
      refine ⟨h, List.nodup_singleton _, ?_⟩
      rintro _ hmem _ hlast rfl
      rw [List.map_singleton, List.mem_singleton] at hlast
      exact hnot (hlast ▸ hmem)

end WeighScale.Scale
