import WeighScale.Bench
import WeighScale.Proofs.Deeds

set_option autoImplicit false

/-! # Devices do not interfere

The devices of a scale share a board, the timers and the slots, and are looked up in one table.
Yet each of them lives as it would alone: on a board on which the lines of different devices have
nothing to do with one another (`Parts`), what is done to a device comes to the same, effect for
effect, as in a table of its own in which nothing else is done (`devices_independent`). All that
differs is the number of its slot.

The proof has two halves. A deed for the device itself depends on what the device sees, and on
nothing else (`Mirrors.carryOut`); a deed for another device does not change what it sees
(`Mirrors.carryOut_ne`).
-/

namespace WeighScale.Scale

variable {β κ σ : Type} [Board β] {parts : Parts β κ σ} {mine : κ → Prop} {scale : Scale β}
  {oid : UInt8}

/-! ## A deed for the device itself -/

/-- **A deed for the device itself** depends on what the device sees. -/
theorem Mirrors.carryOut {full solo : Scale β} {deed : Deed}
    (h : Mirrors parts mine deed.oid full solo) (hfull : full.Seated) (hsolo : solo.Seated)
    (hroom : deed.configures = true → full.device? deed.oid = none →
      full.devices.length < full.capacity ∧ solo.devices.length < solo.capacity)
    (hlines : full.OnLines parts mine deed.oid)
    (hpins : ∀ pin ∈ deed.pins, mine (parts.part pin)) :
    Alike parts mine deed.oid (full.carryOut deed) (solo.carryOut deed) := by
  cases deed with
  | configure request =>
      exact (h.configure hfull hsolo (hroom rfl) (hpins _ (by simp [Deed.pins]))
        (hpins _ (by simp [Deed.pins]))).map (Except.map fun _ => none)
  | query request now =>
      exact (h.query hfull hsolo hlines now).map (Except.map fun _ => none)
  | callback oid now =>
      exact (h.callback hfull hsolo hlines now).map fun next =>
        Except.ok (ε := RequestError) (some next)
  | serve timer now =>
      exact (h.serve hfull hsolo hlines now).map fun next =>
        Except.ok (ε := RequestError) (some next)

/-- **A deed for another device** does not change what the device sees. -/
theorem Mirrors.carryOut_ne {full solo : Scale β} (h : Mirrors parts mine oid full solo)
    (hfull : full.Seated) {deed : Deed} (hne : oid ≠ deed.oid)
    (hlines : full.OnLines parts (¬mine ·) deed.oid)
    (hpins : ∀ pin ∈ deed.pins, ¬mine (parts.part pin)) :
    Mirrors parts mine oid (full.carryOut deed).2 solo where
  delays := h.delays.trans (full.delays_carryOut deed).symm
  board k hk := (h.board k hk).trans (agree_carryOut hlines hpins k hk).symm
  view := h.view.trans (spared_carryOut hfull hne).view.symm

theorem Alike.account_eq {full solo : Scale β} {deed : Deed}
    (h : Alike parts mine deed.oid (full.carryOut deed) (solo.carryOut deed)) :
    full.account deed = solo.account deed := by
  rw [account, account, Account.mk.injEq]
  exact ⟨h.result.symm, h.effects.symm, h.mirrors.view.symm⟩

/-! ## Runs of deeds -/

theorem OnLines.callback (h : scale.OnLines parts mine oid) (now : Clock) :
    (scale.callback oid now).2.OnLines parts mine oid := by
  intro device hdevice
  cases hfound : scale.device? oid with
  | none =>
      rw [callback_of_none now hfound] at hdevice
      exact h device hdevice
  | some old =>
      obtain ⟨-, hself, -, -⟩ := callback_of_some now hfound
      obtain ⟨-, hdout, hsck, -, -, -, -⟩ :=
        Device.renewed_eq_iff.mp (old.renewed_timed now scale.rig)
      obtain rfl := Option.some.inj (hself.symm.trans hdevice)
      rw [hdout, hsck]
      exact h old hfound

/-- A device is on the lines that it was put on last. -/
theorem OnLines.carryOut {deed : Deed} (h : scale.OnLines parts mine deed.oid)
    (hpins : ∀ pin ∈ deed.pins, mine (parts.part pin)) :
    (scale.carryOut deed).2.OnLines parts mine deed.oid := by
  cases deed with
  | configure request =>
      have hway := scale.begun.configured_configure request
      show (scale.begun.configure request).2.OnLines parts mine request.oid
      generalize scale.begun.configure request = outcome at hway ⊢
      cases hway with
      | refused | failed => exact h
      | added device line hwanted =>
          intro found hfound
          have hself := device?_put_self
            (scale.begun.onRig ((device.attach scale.begun.rig).2.log line)) device
          rw [(oid_wanted hwanted).1] at hself
          obtain rfl := Option.some.inj (hself.symm.trans hfound)
          obtain ⟨hdout, hsck⟩ := lines_wanted hwanted
          rw [hdout, hsck]
          exact ⟨hpins _ (by simp [Deed.pins]), hpins _ (by simp [Deed.pins])⟩
  | query request now =>
      intro device hdevice
      cases hfound : scale.begun.device? request.oid with
      | none =>
          have hsame := congrArg (fun outcome => outcome.2.device? request.oid)
            (query_of_none now hfound)
          exact h device (hsame.symm.trans hdevice)
      | some old =>
          obtain ⟨hself, -, -⟩ := query_of_some now hfound
          obtain ⟨-, hdout, hsck, -, -, -, -⟩ := Device.renewed_eq_iff.mp
            (old.renewed_query request.enable request.endstop now scale.begun.rig)
          obtain rfl := Option.some.inj (hself.symm.trans hdevice)
          rw [queried, hdout, hsck]
          exact h old hfound
  | callback oid now =>
      have hbegun : scale.begun.OnLines parts mine oid := h
      exact hbegun.callback now
  | serve timer now =>
      have htaken : (scale.begun.taking timer).OnLines parts mine timer.oid := h
      have hcalled := htaken.callback now
      show (scale.begun.serve timer now).OnLines parts mine timer.oid
      intro device hdevice
      rw [serve_eq, device?_putBack] at hdevice
      exact hcalled device hdevice

variable {owner : UInt8 → κ → Prop} {oids : List UInt8}

/-- Different oids own different parts. -/
def Exclusive (owner : UInt8 → κ → Prop) : Prop :=
  ∀ ⦃one other⦄, one ≠ other → ∀ k, owner one k → ¬owner other k

theorem OnLines.apart {other : UInt8} (h : scale.OnLines parts (owner other) other)
    (hexclusive : Exclusive owner) (hne : oid ≠ other) : scale.OnLines parts (¬owner oid ·) other :=
  fun device hfound => (h device hfound).imp (hexclusive hne.symm _) (hexclusive hne.symm _)

/-- The deed is for an oid of the list, and puts the device on lines of its own. -/
structure Fits (parts : Parts β κ σ) (owner : UInt8 → κ → Prop) (oids : List UInt8) (deed : Deed) :
    Prop where
  listed : deed.oid ∈ oids
  lines : ∀ pin ∈ deed.pins, owner deed.oid (parts.part pin)

/-- The devices have oids of the list, for all of which there is room, and lines of their own. -/
structure Standing (parts : Parts β κ σ) (owner : UInt8 → κ → Prop) (oids : List UInt8)
    (scale : Scale β) : Prop where
  seated : scale.Seated
  enrolled : ∀ oid device, scale.device? oid = some device → oid ∈ oids
  lines : ∀ oid, scale.OnLines parts (owner oid) oid
  ample : oids.dedup.length ≤ scale.capacity

namespace Standing

theorem start (board : β) (delays : Delays) {capacity : Nat}
    (hroom : oids.dedup.length ≤ capacity) :
    Standing parts owner oids (Scale.start board delays capacity) where
  seated := .start board delays capacity
  enrolled _ _ hfound := nomatch hfound
  lines _ _ hfound := nomatch hfound
  ample := hroom.trans (Nat.le_of_eq (Handoff.capacity_clear capacity).symm)

/-- There is room for a device that is not there yet. -/
theorem room (h : Standing parts owner oids scale) (hmem : oid ∈ oids)
    (hnone : scale.device? oid = none) : scale.devices.length < scale.capacity := by
  have hnot : oid ∉ scale.oids := by
    rw [← isSome_device?, hnone]
    exact Bool.false_ne_true
  have hnodup : (oid :: scale.oids).Nodup := List.nodup_cons.mpr ⟨hnot, h.seated.distinct⟩
  have hsubset : oid :: scale.oids ⊆ oids.dedup := by
    intro other hother
    rw [List.mem_dedup]
    rcases List.mem_cons.mp hother with rfl | hother
    · exact hmem
    · obtain ⟨device, hdevice, rfl⟩ := List.mem_map.mp hother
      exact h.enrolled _ device (h.seated.distinct.device?_of_mem hdevice)
  have hlength := (hnodup.subperm hsubset).length_le
  rw [List.length_cons, length_oids] at hlength
  exact hlength.trans h.ample

/-- **One deed** keeps it so. -/
theorem carryOut (h : Standing parts owner oids scale) {deed : Deed}
    (hdeed : Fits parts owner oids deed) :
    Standing parts owner oids (scale.carryOut deed).2 where
  seated := h.seated.carryOut deed
  enrolled oid device hfound := by
    by_cases hoid : oid = deed.oid
    · exact hoid ▸ hdeed.listed
    · rw [(spared_carryOut h.seated hoid).device] at hfound
      exact h.enrolled oid device hfound
  lines oid := by
    by_cases hoid : oid = deed.oid
    · subst hoid
      exact (h.lines deed.oid).carryOut hdeed.lines
    · intro device hfound
      rw [(spared_carryOut h.seated hoid).device] at hfound
      exact h.lines oid device hfound
  ample := h.ample.trans (Nat.le_of_eq (scale.capacity_carryOut deed).symm)

end Standing

/-- **A run of deeds**, each for an oid of the list and on lines of its own. -/
theorem Standing.follow (h : Standing parts owner oids scale) {deeds : List Deed}
    (hdeeds : ∀ deed ∈ deeds, Fits parts owner oids deed) :
    Standing parts owner oids (scale.follow deeds) := by
  induction deeds generalizing scale with
  | nil => exact h
  | cons deed deeds ih =>
      obtain ⟨hdeed, hdeeds⟩ := List.forall_mem_cons.mp hdeeds
      exact ih (h.carryOut hdeed) hdeeds

/-- **A device among others and the same device alone**, one deed after another. -/
theorem Mirrors.accounts (hexclusive : Exclusive owner) {deeds : List Deed}
    (hdeeds : ∀ deed ∈ deeds, Fits parts owner oids deed)
    {full solo : Scale β} (h : Mirrors parts (owner oid) oid full solo)
    (hfull : Standing parts owner oids full) (hsolo : Standing parts owner [oid] solo) :
    full.accounts oid deeds = solo.accounts oid (deeds.filter (·.oid == oid)) := by
  induction deeds generalizing full solo with
  | nil => rfl
  | cons deed deeds ih =>
      obtain ⟨hdeed, hdeeds⟩ := List.forall_mem_cons.mp hdeeds
      have hnext := hfull.carryOut hdeed
      by_cases hoid : deed.oid = oid
      · subst hoid
        have halone : Fits parts owner [deed.oid] deed :=
          ⟨List.mem_singleton_self deed.oid, hdeed.lines⟩
        have halike := h.carryOut hfull.seated hsolo.seated
          (fun _ hnone =>
            ⟨hfull.room hdeed.listed hnone, hsolo.room halone.listed (h.device?_eq_none hnone)⟩)
          (hfull.lines deed.oid) hdeed.lines
        rw [List.filter_cons_of_pos (by simp), Scale.accounts, Scale.accounts, halike.account_eq,
          ih hdeeds halike.mirrors hnext (hsolo.carryOut halone)]
      · have hmirrors := h.carryOut_ne hfull.seated (Ne.symm hoid)
          ((hfull.lines deed.oid).apart hexclusive (Ne.symm hoid))
          fun pin hpin => hexclusive hoid _ (hdeed.lines pin hpin)
        rw [List.filter_cons_of_neg (by simpa using hoid), Scale.accounts, if_neg hoid,
          List.nil_append]
        exact ih hdeeds hmirrors hnext hsolo

/-! ## Both orders -/

/-- What two deeds come to does not depend on their order. -/
structure Commute (scale : Scale β) (one other : Deed) : Prop where
  first : (scale.carryOut other).2.account one = scale.account one
  second : (scale.carryOut one).2.account other = scale.account other
  devices : ((scale.carryOut one).2.carryOut other).2.devices
    = ((scale.carryOut other).2.carryOut one).2.devices
  signals : ((scale.carryOut one).2.carryOut other).2.rig.handoff
    = ((scale.carryOut other).2.carryOut one).2.rig.handoff
  timers : ((scale.carryOut one).2.carryOut other).2.rig.timers.pending.Perm
    ((scale.carryOut other).2.carryOut one).2.rig.timers.pending

omit [Board β] in
/-- Devices with the same oids in the same places are the same if they have the same views. -/
theorem Seated.devices_eq {one other : Scale β} (hone : one.Seated) (hother : other.Seated)
    (hoids : one.oids = other.oids)
    (hview : ∀ oid, one.view oid = other.view oid) : one.devices = other.devices := by
  have hlength : one.devices.length = other.devices.length := by
    rw [← length_oids, hoids, length_oids]
  refine List.ext_getElem hlength fun place hplace hplace' => ?_
  have hoid : one.devices[place].oid = other.devices[place].oid := by
    have hsame := List.getElem_of_eq hoids (by rwa [length_oids] : place < one.oids.length)
    simpa only [oids, List.getElem_map] using hsame
  have hfound := hone.distinct.device?_of_mem (List.getElem_mem hplace)
  have hfound' := hother.distinct.device?_of_mem (List.getElem_mem hplace')
  have hdevice := congrArg View.device (hview one.devices[place].oid)
  rw [view, view, hfound, hoid, hfound', Option.map_some, Option.map_some, Option.some.injEq]
    at hdevice
  have hslot : one.devices[place].slot = other.devices[place].slot :=
    (hone.slot_getElem hplace).trans (hother.slot_getElem hplace').symm
  calc one.devices[place] = (one.devices[place].atSlot 0).atSlot one.devices[place].slot := rfl
    _ = (other.devices[place].atSlot 0).atSlot other.devices[place].slot := by rw [hdevice, hslot]
    _ = other.devices[place] := rfl

omit [Board β] in
theorem Seated.handoff_eq {one other : Scale β} (hone : one.Seated) (hother : other.Seated)
    (hdevices : one.devices = other.devices) (hcapacity : one.capacity = other.capacity)
    (hview : ∀ oid, one.view oid = other.view oid) : one.rig.handoff = other.rig.handoff := by
  rw [Handoff.mk.injEq, Handoff.slots_eq, Handoff.slots_eq]
  refine (congrArg (List.map _) (congrArg List.range hcapacity)).trans
    (List.map_congr_left fun slot _ => ?_)
  by_cases hplace : slot < one.devices.length
  · have hsame (oid : UInt8) : other.device? oid = one.device? oid := by
      rw [device?, device?, hdevices]
    have hsignal := congrArg View.signal (hview one.devices[slot].oid)
    have hfound := hone.distinct.device?_of_mem (List.getElem_mem hplace)
    rw [view, view, hsame, hfound, Option.bind_some, Option.bind_some, hone.slot_getElem hplace]
      at hsignal
    exact hsignal
  · have hclear := hone.clear slot (Nat.le_of_not_lt hplace)
    have hclear' := hother.clear slot (hdevices ▸ Nat.le_of_not_lt hplace)
    exact hclear.trans hclear'.symm

/-- A deed comes to the same after one for another device. -/
theorem account_after (hexclusive : Exclusive owner) (hseated : scale.Seated)
    (hlines : ∀ oid, scale.OnLines parts (owner oid) oid) {one other : Deed}
    (hone : one.configures = false) (hother : other.configures = false)
    (hne : one.oid ≠ other.oid) : (scale.carryOut other).2.account one = scale.account one := by
  have hself : Mirrors parts (owner one.oid) one.oid scale scale := ⟨rfl, fun _ _ => rfl, rfl⟩
  have hafter := hself.carryOut_ne hseated hne ((hlines other.oid).apart hexclusive hne)
    (by simp [Deed.pins_eq_nil hother])
  refine (hafter.carryOut (hseated.carryOut other) hseated (by simp [hone]) ?_
    (by simp [Deed.pins_eq_nil hone])).account_eq
  intro device hfound
  rw [(spared_carryOut hseated hne).device] at hfound
  exact hlines one.oid device hfound

/-- **Deeds for two devices** come to the same in both orders. -/
theorem commute (hexclusive : Exclusive owner) (hseated : scale.Seated)
    (hlines : ∀ oid, scale.OnLines parts (owner oid) oid) {one other : Deed}
    (hone : one.configures = false) (hother : other.configures = false)
    (hne : one.oid ≠ other.oid) : Commute scale one other := by
  have hfirst := account_after hexclusive hseated hlines hone hother hne
  have hsecond := account_after hexclusive hseated hlines hother hone (Ne.symm hne)
  have hseatedOne := hseated.carryOut one
  have hseatedOther := hseated.carryOut other
  have hview (oid : UInt8) : ((scale.carryOut one).2.carryOut other).2.view oid
      = ((scale.carryOut other).2.carryOut one).2.view oid := by
    by_cases hone : oid = one.oid
    · subst hone
      exact (spared_carryOut hseatedOne hne).view.trans (congrArg Account.view hfirst).symm
    · by_cases hother : oid = other.oid
      · subst hother
        exact (congrArg Account.view hsecond).trans
          (spared_carryOut hseatedOther (Ne.symm hne)).view.symm
      · calc ((scale.carryOut one).2.carryOut other).2.view oid
            = (scale.carryOut one).2.view oid := (spared_carryOut hseatedOne hother).view
          _ = scale.view oid := (spared_carryOut hseated hone).view
          _ = (scale.carryOut other).2.view oid := (spared_carryOut hseated hother).view.symm
          _ = ((scale.carryOut other).2.carryOut one).2.view oid :=
              (spared_carryOut hseatedOther hone).view.symm
  have hdevices : ((scale.carryOut one).2.carryOut other).2.devices
      = ((scale.carryOut other).2.carryOut one).2.devices := by
    refine (hseatedOne.carryOut other).devices_eq (hseatedOther.carryOut one) ?_ hview
    rw [oids_carryOut _ hother, oids_carryOut _ hone, oids_carryOut _ hone, oids_carryOut _ hother]
  have hcapacity : ((scale.carryOut one).2.carryOut other).2.capacity
      = ((scale.carryOut other).2.carryOut one).2.capacity := by
    rw [capacity_carryOut, capacity_carryOut, capacity_carryOut, capacity_carryOut]
  exact
    { first := hfirst
      second := hsecond
      devices := hdevices
      signals := (hseatedOne.carryOut other).handoff_eq (hseatedOther.carryOut one) hdevices
        hcapacity hview
      timers := Timers.perm_of_due fun oid => congrArg View.due (hview oid) }

/-- The parts of the board that the deeds for an oid put a device on. -/
def owned (parts : Parts β κ σ) (deeds : List Deed) (oid : UInt8) (k : κ) : Prop :=
  ∃ deed ∈ deeds, deed.oid = oid ∧ ∃ pin ∈ deed.pins, parts.part pin = k

/-- **Devices do not interfere.** There is room for all devices, and the pins that different
devices are put on are in different parts of the board. Then what is done to a device comes to
the same as in a table in which it is the only one, nothing that belongs to a device changes by
what is done to another, and what is done to two devices that are there may be done in either
order. -/
theorem devices_independent (parts : Parts β κ σ) (board : β) (delays : Delays) {capacity : Nat}
    {deeds : List Deed} (hroom : (deeds.map Deed.oid).dedup.length ≤ capacity)
    (hapart : ∀ one ∈ deeds, ∀ other ∈ deeds, one.oid ≠ other.oid → one.Apart other parts) :
    (∀ oid room, 0 < room →
        (start board delays capacity).accounts oid deeds
          = (start board delays room).accounts oid (deeds.filter (·.oid == oid)))
      ∧ (∀ before deed later, deeds = before ++ deed :: later → ∀ oid, oid ≠ deed.oid →
        Spared oid ((start board delays capacity).follow before)
          (((start board delays capacity).follow before).carryOut deed).2)
      ∧ ∀ one other : Deed, one.configures = false → other.configures = false →
        one.oid ≠ other.oid → Commute ((start board delays capacity).follow deeds) one other := by
  have hexclusive : Exclusive (owned parts deeds) := by
    rintro oid other hne k ⟨deed, hdeed, rfl, pin, hpin, hk⟩ ⟨deed', hdeed', rfl, pin', hpin', hk'⟩
    exact hapart deed hdeed deed' hdeed' hne pin hpin pin' hpin' (hk.trans hk'.symm)
  have hdeeds : ∀ deed ∈ deeds, Fits parts (owned parts deeds) (deeds.map Deed.oid) deed :=
    fun deed hdeed =>
      ⟨List.mem_map_of_mem hdeed, fun pin hpin => ⟨deed, hdeed, rfl, pin, hpin, rfl⟩⟩
  have hstart : Standing parts (owned parts deeds) (deeds.map Deed.oid)
      (start board delays capacity) := .start board delays hroom
  refine ⟨fun oid room hpos => ?_, fun before deed later heq oid hne => ?_,
    fun one other hone hother hne => ?_⟩
  · have hmirrors : Mirrors parts (owned parts deeds oid) oid (start board delays capacity)
        (start board delays room) := ⟨rfl, fun _ _ => rfl, rfl⟩
    exact hmirrors.accounts hexclusive hdeeds hstart (.start board delays hpos)
  · subst heq
    have hbefore := hstart.follow fun deed hdeed => hdeeds deed (List.mem_append_left _ hdeed)
    exact spared_carryOut hbefore.seated hne
  · have hafter := hstart.follow hdeeds
    exact commute hexclusive hafter.seated hafter.lines hone hother hne

/-- A board with a bench for every two pins, and chips on pins 2 and 3 and on pins 4 and 5. -/
def benches : Split Bench UInt32 (· / 2) where
  boards pair :=
    if pair = 1 then Bench.empty.mount 2 3 (.start ⟨[5096], by decide, 3, 1⟩)
    else Bench.empty.mount 4 5 (.start ⟨[9029], by decide, 3, 1⟩)

/-- Two devices are configured and enabled, and served by turns until each has a sample. -/
def byTurns : List Deed :=
  [.configure ⟨8, 4, 5, 1, 1⟩, .configure ⟨7, 2, 3, 1, 1⟩, .query ⟨7, true, some 1⟩ 5,
      .query ⟨8, true, none⟩ 6]
    ++ (List.range 50).flatMap fun i =>
      [.serve ⟨7, UInt32.ofNat (25 + 4 * i)⟩ (UInt32.ofNat (25 + 4 * i)),
        .serve ⟨8, UInt32.ofNat (26 + 4 * i)⟩ (UInt32.ofNat (26 + 4 * i))]

/-- The second device of two, alone in a table, is in another slot and comes to the same sample. -/
theorem devices_independent_by_turns :
    (start benches ⟨900, 4, 20⟩ 2).accounts 7 byTurns
        = (start benches ⟨900, 4, 20⟩ 1).accounts 7 (byTurns.filter (·.oid == 7))
      ∧ ((start benches ⟨900, 4, 20⟩ 2).accounts 7 byTurns).getLast?.map (·.view.signal)
        = some (some ⟨7, 1121, 5096, some 1⟩)
      ∧ (((start benches ⟨900, 4, 20⟩ 2).follow byTurns).device? 7).map Device.slot = some 1
      ∧ (((start benches ⟨900, 4, 20⟩ 1).follow (byTurns.filter (·.oid == 7))).device? 7).map
          Device.slot = some 0
      ∧ Spared 7 ((start benches ⟨900, 4, 20⟩ 2).follow (byTurns.take 3))
          (((start benches ⟨900, 4, 20⟩ 2).follow (byTurns.take 3)).carryOut
            (.query ⟨8, true, none⟩ 6)).2
      ∧ Commute ((start benches ⟨900, 4, 20⟩ 2).follow byTurns) (.query ⟨7, false, none⟩ 1122)
          (.callback 8 1122) := by
  have hroom : (byTurns.map Deed.oid).dedup.length ≤ 2 := by decide +kernel
  obtain ⟨halone, hspared, hcommute⟩ :=
    devices_independent Split.parts benches ⟨900, 4, 20⟩ hroom (by decide +kernel)
  exact ⟨halone 7 1 Nat.one_pos, by decide +kernel, by decide +kernel, by decide +kernel,
    hspared (byTurns.take 3) _ (byTurns.drop 4) (by decide +kernel) 7 (by decide),
    hcommute _ _ rfl rfl (by decide)⟩

end WeighScale.Scale
