import WeighScale.Proofs.Refusals
import WeighScale.Proofs.Seats

set_option autoImplicit false

/-! # The table of devices

Whatever the host, the timers and the main loop do, the table only ever grows at its end, and never
beyond the room there is for it: an oid that has a place keeps it. Each oid has one place, which is
the same however it is looked up, and the device in a place puts its samples into the slot of that
place only (`Occupies`). So a sample that is pending in a slot is one of the oid in that place, also
if the device was configured again after the sample was completed (`Tabled`).

A sample that something else than a device puts into a slot may carry any oid, so runs in which that
happens are left out.
-/

namespace WeighScale

namespace Handoff

theorem lt_capacity_of_pending? {handoff : Handoff} {slot : Nat} {sample : Sample}
    (h : handoff.pending? slot = some sample) : slot < handoff.capacity := by
  have hheld : handoff.slots[slot]? = some (some sample) := Option.join_eq_some_iff.mp h
  exact (List.getElem?_eq_some_iff.mp hheld).1

/-- A sample in a slot was there before the marks, or one of them put it there. -/
theorem pending?_marks_or {handoff : Handoff} {marks : List Mark} {slot : Nat} {sample : Sample}
    (h : (marks.foldl mark handoff).pending? slot = some sample) :
    handoff.pending? slot = some sample ∨ ⟨slot, some sample⟩ ∈ marks := by
  induction marks generalizing handoff with
  | nil => exact Or.inl h
  | cons first others ih =>
      rcases ih h with hfirst | hothers
      · have hslot : slot < handoff.capacity := by
          rw [← handoff.capacity_marks [first]]
          exact lt_capacity_of_pending? hfirst
        rw [pending?_mark _ _ hslot] at hfirst
        split at hfirst
        · next hself =>
            refine Or.inr (List.mem_cons.mpr (Or.inl ?_))
            rw [← hself, ← hfirst]
        · exact Or.inl hfirst
      · exact Or.inr (List.mem_cons_of_mem _ hothers)

end Handoff

namespace Device

theorem oid_of_snapshot? {β : Type} [Board β] {device : Device} {now : Clock} {rig : Rig β}
    {sample : Sample} (h : device.snapshot? now rig = some sample) : sample.oid = device.oid := by
  unfold snapshot? at h
  split at h
  · split at h
    · cases h
      exact device.oid_callback now rig
    · cases h
  · cases h

end Device

namespace Scale

variable {β : Type}

theorem getElem_oids (scale : Scale β) {place : Nat} (h : place < scale.devices.length) :
    scale.oids[place]? = some scale.devices[place].oid := by
  rw [oids, List.getElem?_map, List.getElem?_eq_getElem h, Option.map_some]

/-- Something else than a device puts a sample into a slot. -/
def Event.isForeignWake : Event → Bool
  | .wake _ _ => true
  | _ => false

/-! ## One place for each oid -/

theorem Distinct.oid_inj {scale : Scale β} (h : scale.Distinct) {place other : Nat}
    (hplace : place < scale.devices.length) (hother : other < scale.devices.length) :
    scale.devices[place].oid = scale.devices[other].oid ↔ place = other := by
  rw [← scale.length_oids] at hplace hother
  have hinj : scale.oids[place] = scale.oids[other] ↔ place = other := List.Nodup.getElem_inj_iff h
  simpa only [oids, List.getElem_map] using hinj

theorem Distinct.devices_replace {scale : Scale β} (h : scale.Distinct) {place : Nat}
    (hplace : place < scale.devices.length) {device : Device}
    (hoid : device.oid = scale.devices[place].oid) :
    (scale.replace device).devices = scale.devices.set place device := by
  refine List.ext_getElem (by simp [Scale.replace]) fun other hother _ => ?_
  have hlt : other < scale.devices.length := by simpa [Scale.replace] using hother
  simp only [Scale.replace, List.getElem_map, List.getElem_set, hoid, h.oid_inj hlt hplace]
  by_cases hsame : place = other
  · rw [if_pos hsame, if_pos hsame.symm]
  · rw [if_neg hsame, if_neg (Ne.symm hsame)]

/-- A device is in the place that has the number of its slot. -/
theorem Seated.oids_slot {scale : Scale β} (h : scale.Seated) {oid : UInt8} {device : Device}
    (hfound : scale.device? oid = some device) : scale.oids[device.slot]? = some oid := by
  obtain ⟨place, hplace, rfl⟩ := List.getElem_of_mem (mem_of_device? hfound)
  rw [h.slot_getElem hplace, getElem_oids _ hplace, oid_of_device? hfound]

/-! ## What devices put into their slots -/

variable [Board β]

/-- A callback puts a sample of its oid into the slot of the place of its oid, or none. -/
theorem Seated.completion_eq {scale : Scale β} (h : scale.Seated) (oid : UInt8) (now : Clock) :
    scale.completion oid now = []
      ∨ ∃ place sample, scale.oids[place]? = some oid ∧ sample.oid = oid
        ∧ scale.completion oid now = [⟨place, some sample⟩] := by
  unfold completion
  cases hfound : scale.device? oid with
  | none => exact Or.inl rfl
  | some device =>
      rw [Option.bind_some]
      cases hsample : device.snapshot? now scale.rig with
      | none => exact Or.inl rfl
      | some sample =>
          have hoid := (Device.oid_of_snapshot? hsample).trans (oid_of_device? hfound)
          exact Or.inr ⟨device.slot, sample, h.oids_slot hfound, hoid, rfl⟩

theorem Seated.oid_of_completion {scale : Scale β} (h : scale.Seated) {oid : UInt8} {now : Clock}
    {slot : Nat} {sample : Sample} (hmem : ⟨slot, some sample⟩ ∈ scale.completion oid now) :
    scale.oids[slot]? = some sample.oid := by
  rcases h.completion_eq oid now with hnone | ⟨place, own, hplace, hoid, hone⟩
  · rw [hnone] at hmem
    cases hmem
  · rw [hone] at hmem
    cases List.mem_singleton.mp hmem
    rw [hplace, hoid]

/-- Samples come from callbacks only, so each is one of the oid in the place of its slot. -/
theorem Seated.oid_of_marksOf {scale : Scale β} (h : scale.Seated) {event : Event}
    (hevent : event.isForeignWake = false) {slot : Nat} {sample : Sample}
    (hmem : ⟨slot, some sample⟩ ∈ scale.marksOf event) : scale.oids[slot]? = some sample.oid := by
  cases event with
  | wake => cases hevent
  | visit ids probe other =>
      cases List.mem_singleton.mp hmem
  | callback oid now => exact h.oid_of_completion hmem
  | operate operation =>
      cases operation with
      | request | message => cases hmem
      | deliver =>
          obtain ⟨other, -, hmark⟩ := List.mem_map.mp hmem
          cases hmark
      | serve timer now =>
          rw [marksOf] at hmem
          split at hmem
          · have htaken : (scale.taking timer).Seated := h.onRig_of_handoff rfl
            exact htaken.oid_of_completion hmem
          · cases hmem

/-! ## Steps and runs -/

omit [Board β] in
/-- The slots may be changed in any way that puts samples into the slots of the table only. -/
theorem Seated.onRig_marks {scale : Scale β} (h : scale.Seated) {rig : Rig β} {marks : List Mark}
    (hrig : rig.handoff = marks.foldl .mark scale.rig.handoff)
    (hmarks : ∀ slot sample, ⟨slot, some sample⟩ ∈ marks → slot < scale.devices.length) :
    (scale.onRig rig).Seated := by
  refine h.onRig ?_ fun slot hslot => ?_
  · rw [hrig, Handoff.capacity_marks]
  · rw [h.clear slot hslot, Option.eq_none_iff_forall_ne_some]
    intro sample hsample
    rw [hrig] at hsample
    rcases Handoff.pending?_marks_or hsample with hold | hmark
    · rw [h.clear slot hslot] at hold
      cases hold
    · exact absurd (hmarks slot sample hmark) (Nat.not_lt.mpr hslot)

/-- The ways through whatever happens to a scale: one of its operations is made, or the slots
change as the marks say and the table stays as it is. -/
inductive Stepped (scale : Scale β) (event : Event) : Scale β → Prop
  | same : Stepped scale event scale
  | configured (request : Wire.Configure) : Stepped scale event (scale.configure request).2
  | queried (request : Wire.Query) (now : Clock) : Stepped scale event (scale.query request now).2
  | called (oid : UInt8) (now : Clock) : Stepped scale event (scale.callback oid now).2
  | served (timer : Timer) (now : Clock) : Stepped scale event (scale.serve timer now)
  | marked (rig : Rig β)
      (hrig : rig.handoff = (scale.marksOf event).foldl .mark scale.rig.handoff) :
      Stepped scale event (scale.onRig rig)

theorem stepped_step (scale : Scale β) (event : Event) :
    Stepped scale event (scale.step event) := by
  have hperform (request : Wire.Request) (now : Clock) :
      Stepped scale event (scale.perform request now).2 := by
    cases request with
    | configure request => exact .configured request
    | query request => exact .queried request now
  have hmarked := scale.handoff_step event
  cases event with
  | wake | visit => exact .marked _ hmarked
  | callback oid now => exact .called oid now
  | operate operation =>
      cases operation with
      | request request now => exact hperform request now
      | message ids body now =>
          show Stepped _ _ (scale.receive ids body now).2
          unfold receive
          split
          · exact .same
          · exact hperform _ now
      | deliver => exact .marked _ hmarked
      | serve timer now =>
          show Stepped _ _ (if _ then _ else _)
          split
          · exact .served timer now
          · exact .same

/-- The table grows at its end, if at all. -/
theorem oids_step (scale : Scale β) (event : Event) : scale.oids <+: (scale.step event).oids := by
  have hway := scale.stepped_step event
  generalize scale.step event = after at hway ⊢
  cases hway with
  | same | marked => exact List.prefix_rfl
  | configured request =>
      rcases scale.oids_configure request with hsame | hadded
      · rw [hsame]
      · rw [hadded]
        exact List.prefix_append ..
  | queried request now => rw [oids_query]
  | called oid now => rw [oids_callback]
  | served timer now => rw [oids_serve]

theorem Seated.step {scale : Scale β} (h : scale.Seated) {event : Event}
    (hevent : event.isForeignWake = false) : (scale.step event).Seated := by
  have hway := scale.stepped_step event
  generalize scale.step event = after at hway ⊢
  cases hway with
  | same => exact h
  | configured request => exact h.configure request
  | queried request now => exact h.query request now
  | called oid now => exact h.callback oid now
  | served timer now => exact h.serve timer now
  | marked rig hrig =>
      refine h.onRig_marks hrig fun slot sample hmem => ?_
      rw [← length_oids]
      exact (List.getElem?_eq_some_iff.mp (h.oid_of_marksOf hevent hmem)).1

theorem oids_through (scale : Scale β) (events : List Event) :
    scale.oids <+: (scale.through events).oids := by
  induction events generalizing scale with
  | nil => exact List.prefix_rfl
  | cons event events ih => exact (scale.oids_step event).trans (ih (scale.step event))

/-- The devices are in their places, and what is pending in a slot is of the oid in its place. -/
structure Tabled (scale : Scale β) : Prop where
  seated : scale.Seated
  tagged : ∀ slot sample, scale.rig.handoff.pending? slot = some sample →
    scale.oids[slot]? = some sample.oid

omit [Board β] in
theorem Tabled.start (board : β) (delays : Delays) (capacity : Nat) :
    Tabled (Scale.start board delays capacity) where
  seated := Seated.start board delays capacity
  tagged slot sample h := by
    have hclear : (Scale.start board delays capacity).rig.handoff.pending? slot = none :=
      Handoff.pending?_clear capacity slot
    rw [hclear] at h
    cases h

/-- **One step**: a sample that was pending keeps its oid, since its place does, and one that is put
there is of the device in that place. -/
theorem Tabled.step {scale : Scale β} (h : scale.Tabled) {event : Event}
    (hevent : event.isForeignWake = false) : (scale.step event).Tabled where
  seated := h.seated.step hevent
  tagged slot sample hpending := by
    rw [handoff_step] at hpending
    have hbefore : scale.oids[slot]? = some sample.oid := by
      rcases Handoff.pending?_marks_or hpending with hold | hmark
      · exact h.tagged slot sample hold
      · exact h.seated.oid_of_marksOf hevent hmark
    -- no place that was there has changed its oid
    have hlt := (List.getElem?_eq_some_iff.mp hbefore).1
    rw [List.prefix_iff_getElem?.mp (scale.oids_step event) slot hlt, ← hbefore,
      List.getElem?_eq_getElem hlt]

/-- **A whole run.** -/
theorem Tabled.through {scale : Scale β} (h : scale.Tabled) {events : List Event}
    (hevents : ∀ event ∈ events, event.isForeignWake = false) : (scale.through events).Tabled := by
  induction events generalizing scale with
  | nil => exact h
  | cons event events ih =>
      obtain ⟨hevent, hothers⟩ := List.forall_mem_cons.mp hevents
      exact ih (h.step hevent) hothers

/-! ## The table after a run -/

/-- The device is in this place, and whatever is done under its oid is done to this place only. -/
structure Occupies (scale : Scale β) (place : Nat) (device : Device) : Prop where
  found : scale.device? device.oid = some device
  slot : device.slot = place
  slotFor : scale.slotFor device.oid = .ok place
  configured : ∀ request : Wire.Configure, request.oid = device.oid →
    (scale.configure request).2.devices = scale.devices
      ∨ ∃ fresh, fresh.oid = device.oid ∧ fresh.slot = place
        ∧ (scale.configure request).2.devices = scale.devices.set place fresh
  queried : ∀ (request : Wire.Query) (now : Clock), request.oid = device.oid →
    (scale.query request now).2.devices
      = scale.devices.set place (scale.queried device request now).device
  called : ∀ now, (scale.callback device.oid now).2.devices
    = scale.devices.set place (device.timed now scale.rig).2

/-- What can be said of a table with this capacity. -/
structure SoundTable (scale : Scale β) (capacity : Nat) : Prop where
  slots : scale.capacity = capacity
  room : scale.devices.length ≤ capacity
  distinct : scale.oids.Nodup
  occupied : ∀ (place : Nat) (h : place < scale.devices.length),
    scale.Occupies place scale.devices[place]
  /-- A callback wakes the slot of the place of its oid or none, and requests wake none. -/
  callback_wakes : ∀ oid now,
    (scale.callback oid now).2.rig.handoff = scale.rig.handoff
      ∨ ∃ place sample, scale.oids[place]? = some oid ∧ sample.oid = oid
        ∧ (scale.callback oid now).2.rig.handoff = scale.rig.handoff.wake place sample
  request_wakes : ∀ request now,
    (scale.perform request now).2.rig.handoff = scale.rig.handoff
  tagged : ∀ slot sample, scale.rig.handoff.pending? slot = some sample →
    scale.oids[slot]? = some sample.oid
  /-- There is a slot, and room in the table for a device that is new. -/
  slotFor_lt : ∀ oid slot, scale.slotFor oid = .ok slot →
    slot < capacity ∧ (oid ∈ scale.oids ∨ slot = scale.devices.length)
  admits : ∀ request : Wire.Configure,
    (request.gain = 1 ∨ request.gain = 2 ∨ request.gain = 3) →
    (request.invert = 1 ∨ request.invert = -1) →
    (∀ fault ∈ attachFaults scale.rig.board request.dout request.sck, fault = none) →
    ((scale.configure request).1 = .ok ()
      ↔ request.oid ∈ scale.oids ∨ scale.devices.length < capacity)

theorem Seated.occupies {scale : Scale β} (h : scale.Seated) {place : Nat}
    (hplace : place < scale.devices.length) : scale.Occupies place scale.devices[place] := by
  have hfound := h.distinct.device?_of_mem (List.getElem_mem hplace)
  have hslot := h.slot_getElem hplace
  have hslotFor : scale.slotFor scale.devices[place].oid = .ok place := by
    rw [Scale.slotFor, hfound]
    exact congrArg Except.ok hslot
  refine ⟨hfound, hslot, hslotFor, ?_, ?_, ?_⟩
  · intro request hoid
    have hway := scale.configured_configure request
    generalize scale.configure request = outcome at hway ⊢
    cases hway with
    | refused | failed => exact Or.inl rfl
    | added device line hwanted =>
        have hdevice : device.oid = scale.devices[place].oid := (oid_wanted hwanted).1.trans hoid
        -- the slot asked for is looked up under the oid, and so is that of the old device
        have hsame : device.slot = place := by
          obtain ⟨gain, polarity, slot, hfree, rfl⟩ := eq_fresh_of_wanted hwanted
          rw [hoid, hslotFor] at hfree
          exact (Except.ok.inj hfree).symm
        refine Or.inr ⟨device, hdevice, hsame, ?_⟩
        rw [put, device?_onRig, hdevice, hfound, if_pos Option.isSome_some]
        exact (h.distinct.onRig _).devices_replace hplace hdevice
  · intro request now hoid
    obtain ⟨rig, -, heq⟩ := query_eq_of_some now (hoid ▸ hfound)
    rw [heq]
    exact h.distinct.devices_replace hplace (Device.oid_query ..)
  · intro now
    obtain ⟨rig, -, heq⟩ := callback_eq_of_some now hfound
    rw [heq]
    exact h.distinct.devices_replace hplace (Device.oid_timed ..)

theorem Seated.callback_wakes {scale : Scale β} (h : scale.Seated) (oid : UInt8) (now : Clock) :
    (scale.callback oid now).2.rig.handoff = scale.rig.handoff
      ∨ ∃ place sample, scale.oids[place]? = some oid ∧ sample.oid = oid
        ∧ (scale.callback oid now).2.rig.handoff = scale.rig.handoff.wake place sample := by
  rw [handoff_scale_callback]
  rcases h.completion_eq oid now with hnone | ⟨place, sample, hplace, hoid, hone⟩
  · rw [hnone]
    exact Or.inl rfl
  · rw [hone]
    exact Or.inr ⟨place, sample, hplace, hoid, rfl⟩

omit [Board β] in
theorem Seated.slotFor_lt {scale : Scale β} (h : scale.Seated) {oid : UInt8} {slot : Nat}
    (hslot : scale.slotFor oid = .ok slot) :
    slot < scale.capacity ∧ (oid ∈ scale.oids ∨ slot = scale.devices.length) := by
  unfold slotFor at hslot
  split at hslot
  · next device hfound =>
      cases hslot
      refine ⟨h.slot_lt hfound, Or.inl ?_⟩
      rw [← isSome_device?, hfound]
      rfl
  · split at hslot
    · next hroom =>
        cases hslot
        exact ⟨hroom, Or.inr rfl⟩
    · cases hslot

/-- A request for settings that exist, with lines that work, succeeds if there is a place. -/
theorem configure_ok_iff (scale : Scale β) {request : Wire.Configure}
    (hgain : request.gain = 1 ∨ request.gain = 2 ∨ request.gain = 3)
    (hsign : request.invert = 1 ∨ request.invert = -1)
    (hlines : ∀ fault ∈ attachFaults scale.rig.board request.dout request.sck, fault = none) :
    (scale.configure request).1 = .ok ()
      ↔ request.oid ∈ scale.oids ∨ scale.devices.length < scale.capacity := by
  have hattached : decided (attachFaults scale.rig.board request.dout request.sck) = .ok () :=
    decided_eq_ok_iff.mpr hlines
  rw [← isSome_device?, configure_result, configureFaults, gainFault?, if_pos hgain,
    polarityFault?, if_pos hsign, decided_append, decided_map, hattached, roomFault?]
  split_ifs with hroom
  · exact iff_of_true rfl hroom
  · refine iff_of_false (fun hok => ?_) hroom
    cases hok

/-- **Whatever happens to a scale**, its table is sound at any time, with the oids that it had
before in their places. The board may be any, and its lines may fail at any call. -/
theorem table_through (board : β) (delays : Delays) (capacity : Nat) (before later : List Event)
    (hevents : ∀ event ∈ before ++ later, event.isForeignWake = false) :
    let earlier := (start board delays capacity).through before
    let scale := earlier.through later
    earlier.oids <+: scale.oids ∧ earlier.devices.length ≤ scale.devices.length
      ∧ scale.SoundTable capacity := by
  intro earlier scale
  have hgrown : earlier.oids <+: scale.oids := earlier.oids_through later
  have hscale : scale = (start board delays capacity).through (before ++ later) :=
    List.foldl_append.symm
  have htabled : scale.Tabled := by
    rw [hscale]
    exact (Tabled.start board delays capacity).through hevents
  have hcapacity : scale.capacity = capacity := by
    rw [hscale]
    exact capacity_through board delays capacity (before ++ later)
  refine ⟨hgrown, ?_, ?_⟩
  · simpa only [length_oids] using hgrown.length_le
  · rw [← hcapacity]
    exact
      { slots := rfl
        room := htabled.seated.room
        distinct := htabled.seated.distinct
        occupied := fun place hplace => htabled.seated.occupies hplace
        callback_wakes := htabled.seated.callback_wakes
        request_wakes := scale.handoff_perform
        tagged := htabled.tagged
        slotFor_lt := fun oid slot => htabled.seated.slotFor_lt
        admits := fun request => scale.configure_ok_iff }

/-- A device is configured and completes a sample. -/
def sampled : List Event :=
  .operate (.request (.configure ⟨5, 1, 2, 1, 1⟩) 0) :: List.replicate 50 (.callback 5 0)

/-- It is configured again, and then a second one is, whose clock line fails at first. -/
def refitted : List Event :=
  [.operate (.request (.configure ⟨5, 1, 2, 3, -1⟩) 0),
    .operate (.request (.configure ⟨7, 3, 9, 1, 1⟩) 0),
    .operate (.request (.configure ⟨7, 3, 4, 1, 1⟩) 0)]

/-- The sample is still pending in the slot of the device. The table is full, so that a third device
finds no room. -/
theorem table_through_refitted :
    let earlier := (start (Bench.empty.setFault .setHigh 9 true) .standard 2).through sampled
    let scale := earlier.through refitted
    (∀ event ∈ sampled ++ refitted, event.isForeignWake = false)
      ∧ earlier.oids = [5] ∧ scale.oids = [5, 7]
      ∧ (scale.rig.handoff.pending? 0).map Sample.oid = some 5
      ∧ scale.SoundTable 2
      ∧ (scale.configure ⟨7, 3, 4, 2, 1⟩).1 = .ok ()
      ∧ (scale.configure ⟨8, 3, 4, 2, 1⟩).1 ≠ .ok () := by
  intro earlier scale
  have hevents : ∀ event ∈ sampled ++ refitted, event.isForeignWake = false := by decide
  have hearlier : earlier.oids = [5] := by decide +kernel
  have hscale : scale.oids = [5, 7] := by decide +kernel
  have htable : scale.SoundTable 2 := (table_through _ .standard 2 sampled refitted hevents).2.2
  have hlines : ∀ fault ∈ attachFaults scale.rig.board 3 4, fault = none := by decide +kernel
  refine ⟨hevents, hearlier, hscale, by decide +kernel, htable, ?_, ?_⟩
  · refine (htable.admits ⟨7, 3, 4, 2, 1⟩ (by decide) (by decide) hlines).mpr (Or.inl ?_)
    rw [hscale]
    decide
  · rw [ne_eq, htable.admits ⟨8, 3, 4, 2, 1⟩ (by decide) (by decide) hlines, ← length_oids, hscale]
    decide

end Scale

end WeighScale
