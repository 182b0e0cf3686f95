import WeighScale.Bench
import WeighScale.Proofs.Timekeeping

set_option autoImplicit false

/-! # Stray callbacks

Configuring an oid puts a new device in the place of the old one and leaves the timers as they
are. A callback that was to come for the old device then comes for the new one, which was never
enabled: it is a stray (`Stray`). When it is made, it clocks the converter like any other, and
as long as it asks for another callback the next one is a stray too.

There is no other source of strays, and they end in no more than two ways: the callbacks of the
oid are cancelled by an enable request, or the stray asks for no other, at the end of a frame or
because a line has failed. So there is a stray exactly if there was a callback to come when the
oid was last configured and neither has happened since (`stray_iff_leftOver`). A device that is
configured while no callback is to come stays silent until it is enabled, and only then
(`stray_iff_and_silent_iff`).
-/

namespace WeighScale.Scale

variable {β : Type} [Board β]

/-- A callback is to come for a device that does not know of it. -/
def Stray (found : Option Device) (clocks : List Clock) : Prop :=
  clocks ≠ [] ∧ ∀ device, found = some device → device.running = false

/-- Whether this is an end to a stray callback. -/
def Touch.settles : Touch → Bool
  | .armed | .refused | .served .done => true
  | _ => false

/-- **Where strays come from and where they end.** -/
theorem stray_touched {found found' : Option Device} {clocks clocks' : List Clock}
    {touch : Touch} (ht : Touched found clocks touch found' clocks') :
    Stray found' clocks'
      ↔ touch = .configured ∧ clocks ≠ [] ∨ Stray found clocks ∧ touch.settles = false := by
  cases ht with
  | nothing => simp [Touch.settles]
  | configured device huntouched =>
      -- the one operation that makes a stray, and it makes one of any callback there is
      constructor
      · rintro ⟨hne, -⟩
        exact Or.inl ⟨rfl, hne⟩
      · rintro (⟨-, hne⟩ | ⟨⟨hne, -⟩, -⟩)
        all_goals
          refine ⟨hne, ?_⟩
          rintro _ ⟨⟩
          exact huntouched.running
  | disabled device endstop hfound =>
      subst hfound
      simp [Stray, Touch.settles, Device.disable]
  | armed device endstop now =>
      constructor
      · rintro ⟨-, hstopped⟩
        cases hstopped _ rfl
      · rintro (⟨h, -⟩ | ⟨-, h⟩) <;> cases h
  | refused device =>
      constructor
      · rintro ⟨hne, -⟩
        exact absurd rfl hne
      · rintro (⟨h, -⟩ | ⟨-, h⟩) <;> cases h
  | again device old clock hfound hdue _ hrunning =>
      subst hfound
      simp [Stray, Touch.settles, hdue, hrunning]
  | done =>
      constructor
      · rintro ⟨hne, -⟩
        exact absurd rfl hne
      · rintro (⟨h, -⟩ | ⟨-, h⟩) <;> cases h
  | unknown =>
      constructor
      · rintro ⟨hne, -⟩
        exact absurd rfl hne
      · rintro (⟨h, -⟩ | ⟨-, h⟩) <;> cases h

/-! ## Runs -/

/-- What the operations of a run are to a device, one after another. -/
def touches (scale : Scale β) (oid : UInt8) : List Operation → List Touch
  | [] => []
  | operation :: operations =>
      scale.touch oid operation :: (scale.apply operation).touches oid operations

theorem touches_append (scale : Scale β) (oid : UInt8) (before later : List Operation) :
    scale.touches oid (before ++ later)
      = scale.touches oid before ++ (scale.after before).touches oid later := by
  induction before generalizing scale with
  | nil => rfl
  | cons operation before ih =>
      rw [List.cons_append, touches, ih, touches, List.cons_append]
      rfl

/-- A callback was to come for the oid when it was last configured, and none of what it met
since has been an end to it. -/
def LeftOver (scale : Scale β) (oid : UInt8) (operations : List Operation) : Prop :=
  ∃ before operation later, operations = before ++ operation :: later
    ∧ (scale.after before).touch oid operation = .configured
    ∧ (scale.after before).due oid ≠ []
    ∧ ∀ touch ∈ (scale.after (before ++ [operation])).touches oid later, touch.settles = false

theorem leftOver_nil (scale : Scale β) (oid : UInt8) : ¬scale.LeftOver oid [] := by
  rintro ⟨before, operation, later, h, -⟩
  simp at h

theorem leftOver_concat (scale : Scale β) (oid : UInt8) (operations : List Operation)
    (last : Operation) :
    scale.LeftOver oid (operations ++ [last])
      ↔ (scale.after operations).touch oid last = .configured
            ∧ (scale.after operations).due oid ≠ []
        ∨ scale.LeftOver oid operations
            ∧ ((scale.after operations).touch oid last).settles = false := by
  constructor
  · rintro ⟨before, operation, later, hsplit, hconfigured, hdue, hlater⟩
    -- either the last operation is the one that configured the oid, or it came after it
    rcases List.eq_nil_or_concat later with rfl | ⟨later, final, rfl⟩
    · obtain ⟨rfl, hlast⟩ := List.append_inj' hsplit rfl
      obtain rfl := List.singleton_inj.mp hlast
      exact Or.inl ⟨hconfigured, hdue⟩
    · have hassoc : operations ++ [last] = (before ++ operation :: later) ++ [final] := by
        simpa using hsplit
      obtain ⟨rfl, hlast⟩ := List.append_inj' hassoc rfl
      obtain rfl := List.singleton_inj.mp hlast
      have hrun : before ++ operation :: later = (before ++ [operation]) ++ later := by simp
      rw [List.concat_eq_append, touches_append] at hlater
      refine Or.inr ⟨⟨before, operation, later, rfl, hconfigured, hdue, fun touch htouch =>
        hlater touch (List.mem_append_left _ htouch)⟩, ?_⟩
      rw [hrun, after_append]
      exact hlater _ (List.mem_append_right _ (List.mem_singleton.mpr rfl))
  · rintro (⟨hconfigured, hdue⟩
      | ⟨⟨before, operation, later, rfl, hconfigured, hdue, hlater⟩, hlast⟩)
    · exact ⟨operations, last, [], rfl, hconfigured, hdue, fun _ h => absurd h List.not_mem_nil⟩
    · have hrun : before ++ operation :: later = (before ++ [operation]) ++ later := by simp
      refine ⟨before, operation, later ++ [last], by simp, hconfigured, hdue, ?_⟩
      intro touch htouch
      rw [touches_append, List.mem_append] at htouch
      rcases htouch with htouch | htouch
      · exact hlater touch htouch
      · rw [hrun, after_append] at hlast
        rw [List.mem_singleton.mp htouch]
        exact hlast

/-- **There is a stray exactly where a callback was left over by configuring its oid.** -/
theorem stray_iff_leftOver (board : β) (delays : Delays) (capacity : Nat)
    (operations : List Operation) (oid : UInt8) :
    Stray (((start board delays capacity).after operations).device? oid)
        (((start board delays capacity).after operations).due oid)
      ↔ (start board delays capacity).LeftOver oid operations := by
  induction operations using List.reverseRecOn with
  | nil =>
      constructor
      · rintro ⟨hne, -⟩
        exact absurd rfl hne
      · exact fun h => absurd h (leftOver_nil _ oid)
  | append_singleton operations last ih =>
      have hone := (timed_after board delays capacity operations oid).once
      rw [after_concat, stray_touched (touched_apply last hone), leftOver_concat, ih]

/-! ## Silence

A device that was configured while no callback was to come has none until it is enabled: it
cannot be clocked, so it stays as it was configured, and nothing is woken for it. -/

/-- The device was never enabled since it was configured, and no callback is to come for it. -/
def Silent (found : Option Device) (clocks : List Clock) : Prop :=
  clocks = [] ∧ ∃ device, found = some device ∧ Untouched device

/-- Nothing but enabling ends the silence of a device; in particular no callback can be made. -/
theorem Silent.touched {found found' : Option Device} {clocks clocks' : List Clock}
    {touch : Touch} (h : Silent found clocks) (ht : Touched found clocks touch found' clocks')
    (harmed : touch ≠ .armed) : (∀ next, touch ≠ .served next) ∧ Silent found' clocks' := by
  obtain ⟨hclocks, device, hfound, huntouched⟩ := h
  cases ht with
  | nothing => exact ⟨by simp, hclocks, device, hfound, huntouched⟩
  | configured renewed hrenewed => exact ⟨by simp, hclocks, renewed, rfl, hrenewed⟩
  | disabled other endstop hother =>
      obtain rfl : device = other := Option.some.inj (hfound.symm.trans hother)
      exact ⟨by simp, hclocks, _, rfl, huntouched.frame, huntouched.latest, rfl,
        huntouched.running⟩
  | armed => exact absurd rfl harmed
  | refused other hother =>
      obtain rfl : device = other := Option.some.inj (hfound.symm.trans hother)
      exact ⟨by simp, rfl, _, rfl, rfl, huntouched.latest, rfl, rfl⟩
  | again _ _ _ _ hdue => exact absurd hclocks hdue
  | done _ _ _ hdue => exact absurd hclocks hdue
  | unknown _ hdue => exact absurd hclocks hdue

theorem Silent.after {scale : Scale β} {oid : UInt8} {later : List Operation}
    (h : Silent (scale.device? oid) (scale.due oid))
    (harmed : Touch.armed ∉ scale.touches oid later) :
    (∀ next, Touch.served next ∉ scale.touches oid later)
      ∧ Silent ((scale.after later).device? oid) ((scale.after later).due oid) := by
  induction later generalizing scale with
  | nil => exact ⟨fun _ hmem => absurd hmem List.not_mem_nil, h⟩
  | cons operation later ih =>
      rw [touches, List.mem_cons, not_or] at harmed
      have hone : (scale.due oid).length ≤ 1 := by rw [h.1]; exact Nat.zero_le 1
      obtain ⟨hserved, hsilent⟩ := h.touched (touched_apply operation hone) (Ne.symm harmed.1)
      obtain ⟨hlater, hend⟩ := ih hsilent harmed.2
      refine ⟨fun next hmem => ?_, hend⟩
      rcases List.mem_cons.mp hmem with heq | hmem
      · exact hserved next heq.symm
      · exact hlater next hmem

/-- A callback that is to come can be made. -/
theorem touch_serve_of_mem_due {scale : Scale β} {oid : UInt8} {clock : Clock}
    (h : clock ∈ scale.due oid) (now : Clock) :
    ∃ next, scale.touch oid (.serve ⟨oid, clock⟩ now) = .served next :=
  ⟨_, if_pos ⟨Timers.mem_due.mp h, rfl⟩⟩

/-- Configuring an oid leaves its callbacks to come. -/
theorem touched_configured {found found' : Option Device} {clocks clocks' : List Clock}
    (ht : Touched found clocks .configured found' clocks') :
    clocks' = clocks ∧ ∃ device, found' = some device ∧ Untouched device := by
  cases ht with
  | configured device huntouched => exact ⟨rfl, device, rfl, huntouched⟩

/-- **When a configured device is silent until it is enabled.** In every run,

* there is a callback to come for a device that is not running exactly if one was left over
  when its oid was last configured;
* from an operation that configures the oid until the next that enables it, no callback of the
  oid is made and the device stays as it was configured, exactly if no callback of the oid was
  to come at that operation. -/
theorem stray_iff_and_silent_iff (board : β) (delays : Delays) (capacity : Nat)
    (operations : List Operation) (oid : UInt8) :
    (Stray (((start board delays capacity).after operations).device? oid)
          (((start board delays capacity).after operations).due oid)
        ↔ (start board delays capacity).LeftOver oid operations)
      ∧ ∀ operation,
          ((start board delays capacity).after operations).touch oid operation = .configured →
          ((∀ later, Touch.armed ∉ ((start board delays capacity).after
                (operations ++ [operation])).touches oid later →
              (∀ next, Touch.served next ∉ ((start board delays capacity).after
                (operations ++ [operation])).touches oid later)
              ∧ Silent
                  (((start board delays capacity).after
                    (operations ++ operation :: later)).device? oid)
                  (((start board delays capacity).after
                    (operations ++ operation :: later)).due oid))
            ↔ ((start board delays capacity).after operations).due oid = []) := by
  refine ⟨stray_iff_leftOver board delays capacity operations oid, ?_⟩
  intro operation hconfigured
  have hone := (timed_after board delays capacity operations oid).once
  have ht := touched_apply operation hone
  rw [hconfigured] at ht
  obtain ⟨hdue, huntouched⟩ := touched_configured ht
  rw [← after_concat] at hdue huntouched
  constructor
  · -- a callback to come could be made at once
    intro hsilent
    by_contra hne
    obtain ⟨clock, hclock⟩ := List.exists_mem_of_ne_nil _ hne
    rw [← hdue] at hclock
    obtain ⟨next, hnext⟩ := touch_serve_of_mem_due hclock clock
    refine (hsilent [.serve ⟨oid, clock⟩ clock] ?_).1 next ?_
    · rw [touches, hnext]
      simp [touches]
    · rw [touches, hnext]
      exact List.mem_cons_self
  · intro hnone later harmed
    have hrun : operations ++ operation :: later = (operations ++ [operation]) ++ later := by
      simp
    rw [hrun, after_append _ _ later]
    exact Silent.after ⟨hdue.trans hnone, huntouched⟩ harmed

/-- A device is configured, enabled and configured again. -/
def reconfigured : List Operation :=
  [.request (.configure ⟨1, 4, 5, 1, 1⟩) 0, .request (.query ⟨1, true, none⟩) 0,
    .request (.configure ⟨1, 4, 5, 1, 1⟩) 0]

/-- A scale for one device, on a bench where every call succeeds. -/
def spare : Scale Bench := start Bench.empty .standard 1

/-- The device was not enabled since it was configured, and yet its callback is to come; when it
is made, it drives the clock line and begins a frame. -/
theorem reconfigured_device_is_clocked :
    (spare.after reconfigured).due 1 = [200]
      ∧ ((spare.after reconfigured).device? 1).map Device.running = some false
      ∧ (((spare.after reconfigured).apply (.serve ⟨1, 200⟩ 200)).device? 1).map
          (·.frame.halfCycles) = some 1
      ∧ ((spare.after reconfigured).apply (.serve ⟨1, 200⟩ 200)).rig.effects
          = (spare.after reconfigured).rig.effects ++ [.read 4 false none, .drive 5 true none] := by
  decide +kernel

end WeighScale.Scale
